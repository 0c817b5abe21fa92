import ShapedObjects.Proofs.Invariant

/-!
# Safety of caches

A node stores and loads without looking at the object's shape. This is safe in every
reachable session: what a cache holds is right, every object has exactly the slots of its
shape, and so no call through a site asks for a slot that does not exist or meets a slot
that refuses a value in the end.
-/

namespace ShapedObjects

/-- A site whose cached node, if there is one, is bound to the attribute's slot in the cached
shape. -/
def SetSite.Coherent (site : SetSite) : Prop :=
  ∀ shape node, site.cache = some (shape, node) → shape.location? site.name = some node.location

/-- A site whose cached node, if there is one, is bound to the attribute's slot in the cached
shape. -/
def GetSite.Coherent (site : GetSite) : Prop :=
  ∀ shape node, site.cache = some (shape, node) → shape.location? site.name = some node.location

/-- An assignment to an object returns, and nothing can refuse it but the slot limit, which does so
when the object lacks the attribute and has no slot left for it. The program then gets a memory
error that it may not handle. -/
def SetSite.Safe (site : SetSite) (space : Space) (target : HeapId) (object : Object) : Prop :=
  let count := object.shape.layout.attributes.length
  ∀ write, ∃ outcome, site.execute space target write = .ok outcome ∧
    (outcome.result = .ok () ∨
      ∃ tracker limit, object.shape.location? site.name = none ∧
        space.heap.tracker = .limited tracker ∧ tracker.limits.maxSlotsPerObject = some limit ∧
        limit < count + 1 ∧
        outcome.result = .error (.uncatchable ⟨.memoryError,
          some ("attribute slot limit exceeded: " ++ toString (count + 1) ++ " > " ++
            toString limit)⟩))

/-- A load from an object gives a value, unless the object lacks the attribute. The program then gets
an attribute error that names the attribute, or if the attribute has no name, the look-up of the
name faults before any slot is loaded. -/
def GetSite.Safe (site : GetSite) (space : Space) (target : HeapId) (object : Object) : Prop :=
  ∀ load,
    (∃ outcome loaded, site.execute space target load = .ok outcome ∧
      outcome.result = .ok loaded) ∨
    object.shape.location? site.name = none ∧
      match space.interner.text? site.name with
      | some text => site.execute space target load =
          .ok ⟨site, space, .error (.catchable ⟨.attributeError,
            some ("'object' object has no attribute '" ++ text ++ "'")⟩)⟩
      | none => site.specialize space target = .error .indexOutOfBounds

namespace Session

variable {session : Session} {index position : Nat} {space : Space} {target : HeapId}
  {object : Object}

/-- Assignments through the sites of a well-formed session are safe. -/
theorem WellFormed.setSite_safe (h : session.WellFormed)
    (hspace : session.spaces[index]? = some space) {site : SetSite}
    (hsite : session.setSites[position]? = some site)
    (hobject : space.heap.object? target = some object) : site.Safe space target object := by
  intro write
  obtain ⟨outcome, hexecute, hcase⟩ := h.exists_assignment hspace hsite hobject write
  refine ⟨outcome, hexecute, ?_⟩
  rcases hcase with ⟨_, _, _, hresult, _⟩ | ⟨refusal, hrefuses⟩
  · exact Or.inl hresult
  · obtain ⟨_, hwell⟩ := (h.spaces space (List.mem_of_getElem? hspace)).of_object? hobject
    have hslots := hrefuses.slots
    rw [hwell.packed.slotCount_eq] at hslots
    obtain ⟨tracker, limit, htracker, hlimit, hlt, rfl⟩ := Tracker.checkSlots_eq_error_iff.mp hslots
    have hresult := hrefuses.result
    rw [CallError.ofLimit_eq] at hresult
    exact Or.inr ⟨tracker, limit, hrefuses.absent, htracker, hlimit, hlt, hresult⟩

/-- Loads through the sites of a well-formed session are safe. -/
theorem WellFormed.getSite_safe (h : session.WellFormed)
    (hspace : session.spaces[index]? = some space) {site : GetSite}
    (hsite : session.getSites[position]? = some site)
    (hobject : space.heap.object? target = some object) : site.Safe space target object := by
  have hwell := h.spaces space (List.mem_of_getElem? hspace)
  have hreliable := h.getSite_reliable (List.mem_of_getElem? hsite) hspace
    (hwell.of_object? hobject).1
  intro load
  cases hlocation : object.shape.location? site.name with
  | some location =>
    obtain ⟨outcome, hexecute, hloads⟩ :=
      GetSite.exists_loads hwell hobject hreliable hlocation load
    exact Or.inl ⟨outcome, _, hexecute, hloads.result_of_location? hlocation⟩
  | none =>
    refine Or.inr ⟨rfl, ?_⟩
    cases hknown : space.interner.text? site.name with
    | some text =>
      have hexecute := GetSite.loads_of_absent hobject hreliable hlocation hknown load
      rwa [Exception.missingAttribute_object] at hexecute
    | none => exact GetSite.specialize_of_unknown hobject hreliable hlocation hknown

/-- In a reachable session all caches are coherent, all objects have exactly the slots that their
shapes declare, with the words 0 and 1 only in boolean slots, and all calls through sites are
safe. -/
theorem sites_safe (h : session.Reachable) :
    (∀ site ∈ session.setSites, site.Coherent) ∧
    (∀ site ∈ session.getSites, site.Coherent) ∧
    ∀ space ∈ session.spaces,
      (∀ object ∈ space.heap.objects,
        object.words.length = object.shape.layout.primitiveCount ∧
        object.slots.length = object.shape.layout.objectCount ∧
        ∀ entry ∈ object.shape.layout.attributes, entry.2.kind = .boolean →
          object.words[entry.2.index]? = some 0 ∨ object.words[entry.2.index]? = some 1) ∧
      ∀ target object, space.heap.object? target = some object →
        (∀ site ∈ session.setSites, site.Safe space target object) ∧
        ∀ site ∈ session.getSites, site.Safe space target object := by
  have hwell := h.wellFormed
  refine ⟨?_, ?_, ?_⟩
  · intro site hsite shape node hcache
    exact (hwell.setSites site hsite shape node hcache).2
  · intro site hsite shape node hcache
    exact (hwell.getSites site hsite shape node hcache).2
  · intro space hspace
    constructor
    · intro object hobject
      obtain ⟨_, hsized⟩ := (hwell.spaces space hspace).objects object hobject
      exact ⟨hsized.words, hsized.slots, hsized.booleans⟩
    · intro target object hobject
      obtain ⟨index, hindex⟩ := List.mem_iff_getElem?.mp hspace
      constructor
      · intro site hsite
        obtain ⟨position, hposition⟩ := List.mem_iff_getElem?.mp hsite
        exact hwell.setSite_safe hindex hposition hobject
      · intro site hsite
        obtain ⟨position, hposition⟩ := List.mem_iff_getElem?.mp hsite
        exact hwell.getSite_safe hindex hposition hobject

/-- The set site of the sample has seen no object of the second space, where it is safe as well. -/
theorem sites_safe_sample : sampleSite.Coherent ∧
    sampleSite.Safe sample.spaces[1] ⟨0⟩ (.new ⟨1, ⟨0⟩, .empty⟩) := by
  obtain ⟨hcoherent, _, hsafe⟩ := sites_safe sample_reachable
  have hsite : sampleSite ∈ sample.setSites := by decide
  have hspace : sample.spaces[1] ∈ sample.spaces := by decide
  have hobject : sample.spaces[1].heap.object? ⟨0⟩ = some (.new ⟨1, ⟨0⟩, .empty⟩) := by decide
  exact ⟨hcoherent _ hsite, ((hsafe _ hspace).2 _ _ hobject).1 _ hsite⟩

end Session

end ShapedObjects
