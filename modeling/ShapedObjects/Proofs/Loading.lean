import ShapedObjects.Site.Get
import ShapedObjects.Proofs.Spaces

/-!
# What a load through a site does

A load finds a node, from the cache or for the object's shape, and then loads through
it. Either way it gives what a look-up of the attribute without a cache would give. A
load changes nothing but the site's cache, and it shows the tracer one event exactly when
it fills the cache.
-/

namespace ShapedObjects

namespace GetSite

/-- The site with a shape and a node in its cache. -/
def caching (site : GetSite) (shape : Shape) (node : ReadNode) : GetSite :=
  { site with cache := some (shape, node) }

/-- A site whose cache can be relied on for a shape: if the cached shape passes for that shape,
it is that shape, and the cached node is bound to the attribute's slot there. -/
def Reliable (site : GetSite) (shape : Shape) : Prop :=
  ∀ cached node, site.cache = some (cached, node) → cached.same shape = true →
    cached = shape ∧ shape.location? site.name = some node.location

/-- The ways in which a load can go. -/
inductive Loads (site : GetSite) (space : Space) (object : Object) (load : Load) :
    Outcome GetSite Loaded → Prop
  /-- The cached node is for this shape. -/
  | hit {location : Location} :
      site.cache = some (object.shape, ⟨location⟩) →
      object.shape.location? site.name = some location →
      Loads site space object load ⟨site, space, .ok (load.view (object.valueAt location))⟩
  /-- The attribute's slot was looked up. -/
  | found {location : Location} :
      object.shape.location? site.name = some location →
      Loads site space object load
        ⟨site.caching object.shape ⟨location⟩,
          space.observe (.specialized site.name location.kind),
          .ok (load.view (object.valueAt location))⟩
  /-- The object lacks the attribute. -/
  | missing {text : String} :
      object.shape.location? site.name = none →
      space.interner.text? site.name = some text →
      Loads site space object load
        ⟨site, space, .error (.catchable (.missingAttribute .object text))⟩

section Execute

variable {site : GetSite} {space : Space} {target : HeapId} {object : Object}

/-- The cached node is used exactly when it was made for a shape that passes for this one. -/
theorem hit?_eq_some {shape : Shape} {node : ReadNode} (h : site.hit? shape = some node) :
    ∃ cached, site.cache = some (cached, node) ∧ cached.same shape = true := by
  unfold hit? at h
  split at h
  · rename_i cached node' hcache
    split at h
    · rename_i hsame
      cases h
      exact ⟨cached, hcache, hsame⟩
    · cases h
  · cases h

/-- A node for one of the object's slots loads what the slot holds. -/
theorem execute_of_specialize (h : space.WellFormed)
    (hobject : space.heap.object? target = some object) {found : Outcome GetSite ReadNode}
    {location : Location} (hspecialize : site.specialize space target = .ok found)
    (hresult : found.result = .ok ⟨location⟩) (hheap : found.space.heap = space.heap)
    (hlocation : object.shape.location? site.name = some location) (load : Load) :
    site.execute space target load =
      .ok ⟨found.site, found.space, .ok (load.view (object.valueAt location))⟩ := by
  obtain ⟨_, hwell⟩ := h.of_object? hobject
  have hget : found.space.heap.get target = .ok object := by
    rw [hheap]
    exact Heap.get_of_object? hobject
  have hload : ReadNode.load ⟨location⟩ object load =
      .ok (load.view (object.valueAt location)) :=
    Location.load_of_lt (hwell.toSized.index_lt_of_location? hlocation) load
  simp only [execute, bind, Except.bind, hspecialize, hresult, hget, hload]
  rfl

/-- An attribute that the object has is always loaded. -/
theorem exists_loads (h : space.WellFormed) (hobject : space.heap.object? target = some object)
    (hreliable : site.Reliable object.shape) {location : Location}
    (hlocation : object.shape.location? site.name = some location) (load : Load) :
    ∃ outcome, site.execute space target load = .ok outcome ∧
      site.Loads space object load outcome := by
  have hget := Heap.get_of_object? hobject
  cases hhit : site.hit? object.shape with
  | some node =>
    obtain ⟨cached, hcache, hsame⟩ := hit?_eq_some hhit
    obtain ⟨rfl, hnode⟩ := hreliable cached node hcache hsame
    obtain rfl : location = node.location := Option.some.inj (hlocation.symm.trans hnode)
    have hspecialize : site.specialize space target = .ok ⟨site, space, .ok node⟩ := by
      simp only [specialize, bind, Except.bind, hget, hhit]
      rfl
    exact ⟨_, execute_of_specialize h hobject hspecialize rfl rfl hlocation load,
      .hit hcache hlocation⟩
  | none =>
    have hspecialize : site.specialize space target =
        .ok ⟨site.caching object.shape ⟨location⟩,
          space.observe (.specialized site.name location.kind), .ok ⟨location⟩⟩ := by
      simp only [specialize, bind, Except.bind, hget, hhit, hlocation]
      rfl
    exact ⟨_, execute_of_specialize h hobject hspecialize rfl rfl hlocation load, .found hlocation⟩

/-- Without the attribute there is no node, and the cache is of no help. -/
theorem hit?_of_absent (hreliable : site.Reliable object.shape)
    (habsent : object.shape.location? site.name = none) : site.hit? object.shape = none := by
  cases hhit : site.hit? object.shape with
  | none => rfl
  | some node =>
    obtain ⟨cached, hcache, hsame⟩ := hit?_eq_some hhit
    obtain ⟨_, hnode⟩ := hreliable cached node hcache hsame
    cases habsent.symm.trans hnode

/-- A load of an attribute that the object lacks is an error which names the attribute. -/
theorem loads_of_absent (hobject : space.heap.object? target = some object)
    (hreliable : site.Reliable object.shape)
    (habsent : object.shape.location? site.name = none) {text : String}
    (hknown : space.interner.text? site.name = some text) (load : Load) :
    site.execute space target load =
      .ok ⟨site, space, .error (.catchable (.missingAttribute .object text))⟩ := by
  have hmiss := hit?_of_absent hreliable habsent
  simp only [execute, specialize, bind, Except.bind, Heap.get_of_object? hobject, hmiss, habsent,
    hknown]
  rfl

/-- An error cannot name an attribute that was never interned. -/
theorem specialize_of_unknown (hobject : space.heap.object? target = some object)
    (hreliable : site.Reliable object.shape)
    (habsent : object.shape.location? site.name = none)
    (hunknown : space.interner.text? site.name = none) :
    site.specialize space target = .error .indexOutOfBounds := by
  have hmiss := hit?_of_absent hreliable habsent
  simp only [specialize, bind, Except.bind, Heap.get_of_object? hobject, hmiss, habsent, hunknown]
  rfl

/-- So a load of an attribute that was never interned faults. -/
theorem execute_of_unknown (hobject : space.heap.object? target = some object)
    (hreliable : site.Reliable object.shape)
    (habsent : object.shape.location? site.name = none)
    (hunknown : space.interner.text? site.name = none) (load : Load) :
    site.execute space target load = .error .indexOutOfBounds := by
  simp only [execute, bind, Except.bind,
    specialize_of_unknown hobject hreliable habsent hunknown]

/-- An object that was never allocated cannot be loaded from. -/
theorem execute_of_unallocated (hobject : space.heap.object? target = none) (site : GetSite)
    (load : Load) : site.execute space target load = .error .missingOnRead := by
  simp only [execute, specialize, bind, Except.bind, Heap.get, hobject]

/-- A load that does not fault goes one of the listed ways. -/
theorem loads_of_execute (h : space.WellFormed)
    (hobject : space.heap.object? target = some object) (hreliable : site.Reliable object.shape)
    {load : Load} {outcome : Outcome GetSite Loaded}
    (hexecute : site.execute space target load = .ok outcome) :
    site.Loads space object load outcome := by
  cases hlocation : object.shape.location? site.name with
  | some location =>
    obtain ⟨outcome', hexecute', hloads⟩ := exists_loads h hobject hreliable hlocation load
    cases hexecute.symm.trans hexecute'
    exact hloads
  | none =>
    cases hknown : space.interner.text? site.name with
    | some text =>
      cases hexecute.symm.trans (loads_of_absent hobject hreliable hlocation hknown load)
      exact .missing hlocation hknown
    | none =>
      cases hexecute.symm.trans (execute_of_unknown hobject hreliable hlocation hknown load)

/-- Whichever way a load of an attribute of the object went, it gave what the slot holds. -/
theorem Loads.result_of_location? {load : Load} {outcome : Outcome GetSite Loaded}
    (hloads : site.Loads space object load outcome) {location : Location}
    (hlocation : object.shape.location? site.name = some location) :
    outcome.result = .ok (load.view (object.valueAt location)) := by
  cases hloads with
  | hit hcache hlocation' =>
    cases hlocation.symm.trans hlocation'
    rfl
  | found hlocation' =>
    cases hlocation.symm.trans hlocation'
    rfl
  | missing habsent _ => cases hlocation.symm.trans habsent

/-- Only an allocated object can be loaded from. -/
theorem object?_of_execute {load : Load} {outcome : Outcome GetSite Loaded}
    (hexecute : site.execute space target load = .ok outcome) :
    ∃ object, space.heap.object? target = some object := by
  obtain ⟨found, hspecialize, _⟩ := ok_of_bind hexecute
  obtain ⟨object, hget, _⟩ := ok_of_bind hspecialize
  exact ⟨object, Heap.object?_of_get hget⟩

end Execute

end GetSite

end ShapedObjects
