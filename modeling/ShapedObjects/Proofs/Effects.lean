import ShapedObjects.Proofs.Histories
import ShapedObjects.Proofs.Invariant
import ShapedObjects.Proofs.Observers

/-!
# The effect of an assignment, without its cache

The cache of a site spares look-ups, and that is all that it does: which slot is used,
which step the object takes and which value is stored follow from the object, the registry
and the question whether the site is general. This file lists what an assignment can come
to in these terms, down to the events that it shows, and shows that every assignment
comes to exactly one of these.
-/

namespace ShapedObjects

/-- What an assignment comes to, whatever tracer looks on. -/
structure Effect where
  /-- The site that is left. -/
  site : SetSite
  /-- The heap that is left. -/
  heap : Heap
  /-- The registry that is left. -/
  registry : Registry
  /-- The result of the call. -/
  result : Except CallError Unit
  /-- The events that are shown to the tracer. -/
  events : List Event

/-- The outcome on a space of a call that has some effect there. -/
def Effect.outcome (effect : Effect) (space : Space) : Outcome SetSite Unit where
  site := effect.site
  space := ⟨effect.heap, effect.registry, space.interner, space.tracer.observeAll effect.events⟩
  result := effect.result

/-- The space with a tracer that records every event. -/
def Space.recording (space : Space) : Space :=
  { space with tracer := .recorder (.new true none) }

/-- A store through a node for a boxed slot boxes its value. -/
theorem WriteNode.path_of_object {location : Location} (h : location.kind = .object)
    (write : Write) : WriteNode.path ⟨location⟩ write = .generic := by
  cases write <;> simp [path, kind, h]

namespace SetSite

/-- The events of finding the slot of an attribute: none if the cached node is for the shape. -/
def lookupEvents (site : SetSite) (shape : Shape) (kind : Kind) : List Event :=
  if (site.hit? shape).isSome then [] else [.specialized site.name kind]

/-- The events that come before an attribute is boxed. A general site boxes it at once, any other
one when the slot that it found has refused the value. -/
def refusalEvents (site : SetSite) (shape : Shape) (kind : Kind) : List Event :=
  if site.isGeneral then [] else site.lookupEvents shape kind ++ [.generalized site.name kind]

/-- The events that an assignment shows to the tracer: those that a recorder without limit would
record. A call that faults shows none. -/
def emitted (site : SetSite) (space : Space) (target : HeapId) (write : Write) : List Event :=
  match site.execute space.recording target write with
  | .ok outcome => outcome.space.tracer.recorded
  | .error _ => []

/-- What an assignment can come to. -/
inductive Performs (site : SetSite) (heap : Heap) (registry : Registry) (target : HeapId)
    (object : Object) (write : Write) : Effect → Prop
  /-- The attribute's slot is used as it is. -/
  | stored {location : Location} :
      object.shape.location? site.name = some location →
      location.kind = site.kindAfter object.shape write →
      Performs site heap registry target object write
        { site := site.caching object.shape ⟨location⟩
          heap := heap.put target (object.overwrite location (write.stored location.kind))
          registry := registry
          result := .ok ()
          events := site.lookupEvents object.shape location.kind ++
            [.written location.kind (WriteNode.path ⟨location⟩ write)] }
  /-- The attribute is boxed. -/
  | boxed {location : Location} {grown : Registry} {reached : Reached} {migrated : Object} :
      object.shape.location? site.name = some location →
      location.kind ≠ site.kindAfter object.shape write →
      registry.generalize object.shape site.name = (grown, reached) →
      object.migrate reached.shape = .ok migrated →
      Performs site heap registry target object write
        { site := site.caching reached.shape ⟨reached.location⟩
          heap := heap.put target (migrated.overwrite reached.location write.value)
          registry := grown
          result := .ok ()
          events := site.refusalEvents object.shape location.kind ++
            [.moved object.shape.id reached.shape.id .generalize,
              .specialized site.name .object, .written .object .generic] }
  /-- The object gains the attribute. -/
  | added {grown : Registry} {reached : Reached} :
      object.shape.location? site.name = none →
      registry.addAttribute object.shape site.name (site.kindAfter object.shape write) =
        (grown, reached) →
      heap.tracker.checkSlots reached.shape.layout.slotCount = .ok () →
      Performs site heap registry target object write
        { site := site.caching reached.shape ⟨reached.location⟩
          heap := heap.put target ((object.extend reached.shape).overwrite reached.location
            (write.stored (site.kindAfter object.shape write)))
          registry := grown
          result := .ok ()
          events := [.moved object.shape.id reached.shape.id .addAttribute,
            .specialized site.name (site.kindAfter object.shape write),
            .written (site.kindAfter object.shape write)
              (WriteNode.path ⟨reached.location⟩ write)] }
  /-- The object would have too many slots. -/
  | refused {grown : Registry} {reached : Reached} {refusal : LimitError} :
      object.shape.location? site.name = none →
      registry.addAttribute object.shape site.name (site.kindAfter object.shape write) =
        (grown, reached) →
      heap.tracker.checkSlots reached.shape.layout.slotCount = .error refusal →
      Performs site heap registry target object write
        { site := site
          heap := heap
          registry := grown
          result := .error (.ofLimit refusal)
          events := [] }

section Performs

variable {site : SetSite} {space : Space} {target : HeapId} {object : Object} {write : Write}

/-- An assignment comes to one thing only. -/
theorem Performs.unique {heap : Heap} {registry : Registry} {effect other : Effect}
    (h : site.Performs heap registry target object write effect)
    (h' : site.Performs heap registry target object write other) : effect = other := by
  cases h with
  | stored hlocation hkind =>
    cases h' with
    | stored hlocation' _ =>
      cases hlocation.symm.trans hlocation'
      rfl
    | boxed hlocation' hkind' =>
      cases hlocation.symm.trans hlocation'
      exact absurd hkind hkind'
    | added habsent | refused habsent => cases hlocation.symm.trans habsent
  | boxed hlocation hkind hgeneralize hmigrate =>
    cases h' with
    | stored hlocation' hkind' =>
      cases hlocation.symm.trans hlocation'
      exact absurd hkind' hkind
    | boxed hlocation' _ hgeneralize' hmigrate' =>
      cases hlocation.symm.trans hlocation'
      cases hgeneralize.symm.trans hgeneralize'
      cases hmigrate.symm.trans hmigrate'
      rfl
    | added habsent | refused habsent => cases hlocation.symm.trans habsent
  | added habsent hadd hslots =>
    cases h' with
    | stored hlocation | boxed hlocation => cases habsent.symm.trans hlocation
    | added _ hadd' _ =>
      cases hadd.symm.trans hadd'
      rfl
    | refused _ hadd' hslots' =>
      cases hadd.symm.trans hadd'
      cases hslots.symm.trans hslots'
  | refused habsent hadd hslots =>
    cases h' with
    | stored hlocation | boxed hlocation => cases habsent.symm.trans hlocation
    | added _ hadd' hslots' =>
      cases hadd.symm.trans hadd'
      cases hslots.symm.trans hslots'
    | refused _ hadd' hslots' =>
      cases hadd.symm.trans hadd'
      cases hslots.symm.trans hslots'
      rfl

/-- The kind that a slot has after an assignment depends on the layout, on the site's attribute, and
on whether the site is general. -/
theorem kindAfter_congr {other : SetSite} (hname : site.name = other.name)
    (hgeneral : site.isGeneral = other.isGeneral) {shape shape' : Shape}
    (hlayout : shape.layout = shape'.layout) (write : Write) :
    site.kindAfter shape write = other.kindAfter shape' write := by
  have hlookup : shape'.location? other.name = shape.location? site.name := by
    rw [Shape.location?, Shape.location?, hname, hlayout]
  cases hlocation : shape.location? site.name with
  | none =>
    rw [kindAfter_of_absent hlocation, kindAfter_of_absent (hlookup.trans hlocation), hgeneral]
  | some location =>
    rw [kindAfter_of_location? hlocation, kindAfter_of_location? (hlookup.trans hlocation),
      hgeneral]

/-- The slot of a cached node is of the kind for which the site is specialized. -/
theorem kindAfter_of_hit {node : WriteNode} (hhit : site.hit? object.shape = some node)
    (hreliable : site.Reliable object.shape) (hfits : write.fits node.kind = true) :
    object.shape.location? site.name = some node.location ∧
      node.kind = site.kindAfter object.shape write ∧
      site = site.caching object.shape node := by
  obtain ⟨cached, hcache, hsame⟩ := hit?_eq_some hhit
  obtain ⟨rfl, hlocation⟩ := hreliable cached node hcache hsame
  refine ⟨hlocation, ?_, ?_⟩
  · rw [kindAfter_of_location? hlocation, isGeneral_of_cache hcache]
    by_cases hobj : node.kind = .object
    · rw [hobj]
      split
      · exact hobj.symm
      · rfl
    · rw [if_pos ⟨by simpa using hobj, hfits⟩]
      rfl
  · change site = { site with cache := some (object.shape, node) }
    rw [← hcache]

/-- A slot that does not have the kind that it is to have is not boxed. -/
theorem ne_object_of_ne_kindAfter {shape : Shape} {location : Location}
    (hlocation : shape.location? site.name = some location)
    (hkind : location.kind ≠ site.kindAfter shape write) : location.kind ≠ .object := by
  intro hobj
  rw [kindAfter_of_location? hlocation, hobj, ite_self] at hkind
  exact hkind rfl

/-- The registry takes the step that appends an attribute. -/
theorem added_takes (h : space.WellFormed) (hobject : space.heap.object? target = some object)
    {name : NameId} {kind : Kind} (habsent : object.shape.location? name = none)
    {grown : Registry} {reached : Reached}
    (hadd : space.registry.addAttribute object.shape name kind = (grown, reached)) :
    space.registry.Takes object.shape (.add name kind) grown reached := by
  have htakes := h.registry.addAttribute_takes (h.of_object? hobject).1 habsent kind
  rwa [hadd] at htakes

/-- The registry takes the step that boxes an attribute. -/
theorem boxed_takes (h : space.WellFormed) (hobject : space.heap.object? target = some object)
    {name : NameId} {location : Location}
    (hlocation : object.shape.location? name = some location) (hprimitive : location.kind ≠ .object)
    {grown : Registry} {reached : Reached}
    (hgeneralize : space.registry.generalize object.shape name = (grown, reached)) :
    space.registry.Takes object.shape (.generalize name) grown reached := by
  have htakes := h.registry.generalize_takes (h.of_object? hobject).1 hlocation hprimitive
  rwa [hgeneralize] at htakes

/-- An object of which an attribute was boxed is on the shape that was reached for it, where the
attribute has a boxed slot. -/
theorem boxed_slot (h : space.WellFormed) (hobject : space.heap.object? target = some object)
    {name : NameId} {location : Location}
    (hlocation : object.shape.location? name = some location) (hprimitive : location.kind ≠ .object)
    {grown : Registry} {reached : Reached} {migrated : Object}
    (hgeneralize : space.registry.generalize object.shape name = (grown, reached))
    (hmigrate : object.migrate reached.shape = .ok migrated) :
    reached.location.kind = .object ∧ migrated.shape = reached.shape := by
  have htakes := boxed_takes h hobject hlocation hprimitive hgeneralize
  obtain ⟨migrated', hmigrate', hshape, _⟩ := Space.equips_migrate h hobject htakes
  cases hmigrate.symm.trans hmigrate'
  exact ⟨htakes.leads.kind_eq (h.of_object? hobject).2.packed, hshape⟩

/-- Where a node was found and the store fits its slot, the value is stored there. -/
theorem Specializes.performs (h : space.WellFormed)
    (hobject : space.heap.object? target = some object) (hreliable : site.Reliable object.shape)
    {found : Outcome SetSite WriteNode} {changed : Object} {node : WriteNode}
    (hspecializes : site.Specializes space target object write.initialKind found)
    (hresult : found.result = .ok node)
    (hchanged : found.space.heap.object? target = some changed)
    (hfits : write.fits node.kind = true) :
    ∃ effect, site.Performs space.heap space.registry target object write effect ∧
      ⟨found.site, (found.space.put target (changed.overwrite node.location
          (write.stored node.kind))).observe (.written node.kind (node.path write)), .ok ()⟩ =
        effect.outcome space := by
  cases hspecializes with
  | hit hhit =>
    cases hresult
    cases hobject.symm.trans hchanged
    obtain ⟨hlocation, hkind, hsite⟩ := kindAfter_of_hit hhit hreliable hfits
    refine ⟨_, .stored hlocation hkind, ?_⟩
    rw [Effect.outcome, ← hsite, lookupEvents, hhit]
    rfl
  | @found location hmiss hlocation hkeep =>
    cases hresult
    cases hobject.symm.trans hchanged
    have hkind : location.kind = site.kindAfter object.shape write := by
      rw [kindAfter_of_location? hlocation]
      split
      · rfl
      · rename_i hchange
        have hfits' : write.fits location.kind = true := hfits
        have hgeneral : site.isGeneral = true := by simpa [hfits'] using hchange
        rw [hgeneral, Bool.and_true] at hkeep
        exact Decidable.not_not.mp fun hne => by simp [Kind.isPrimitive_iff.mpr hne] at hkeep
    refine ⟨_, .stored hlocation hkind, ?_⟩
    rw [Effect.outcome, lookupEvents, hmiss]
    rfl
  | @stale location _ hmiss hlocation hstale hwidens =>
    obtain ⟨hprimitive, hgeneral⟩ := Bool.and_eq_true_iff.mp hstale
    cases hwidens with
    | boxed hgeneralize hmigrate =>
      cases hresult
      cases hchanged.symm.trans (Heap.object?_put_self hobject _)
      refine ⟨_, .boxed hlocation ?_ hgeneralize hmigrate, ?_⟩
      · rw [kindAfter_of_location? hlocation, hgeneral]
        simpa using Kind.isPrimitive_iff.mp hprimitive
      · obtain ⟨hkind, hshape⟩ := boxed_slot h hobject hlocation
          (Kind.isPrimitive_iff.mp hprimitive) hgeneralize hmigrate
        simp only [Effect.outcome, refusalEvents, if_pos hgeneral, install, Space.put,
          Space.moveObject, Space.observe, Heap.put_put, WriteNode.kind, hkind, hshape,
          Write.stored_object, WriteNode.path_of_object hkind]
        rfl
  | @added grown reached hmiss habsent hadd hslots =>
    cases hresult
    cases hchanged.symm.trans (Heap.object?_put_self hobject _)
    rw [← kindAfter_of_absent habsent] at hadd
    refine ⟨_, .added habsent hadd hslots, ?_⟩
    have hkind : reached.location.kind = site.kindAfter object.shape write :=
      (added_takes h hobject habsent hadd).leads.kind_eq (h.of_object? hobject).2.packed
    simp only [Effect.outcome, install, Space.put, Space.moveObject, Space.observe, Heap.put_put,
      WriteNode.kind, hkind]
    rfl
  | refused => cases hresult

/-- A slot that does not fit the store was there before and is not general: neither a boxed slot
nor a slot that was added for this store would have refused the value. -/
theorem Specializes.of_not_fits (h : space.WellFormed)
    (hobject : space.heap.object? target = some object) (hreliable : site.Reliable object.shape)
    {found : Outcome SetSite WriteNode} {node : WriteNode}
    (hspecializes : site.Specializes space target object write.initialKind found)
    (hresult : found.result = .ok node) (hfits : write.fits node.kind = false) :
    site.isGeneral = false ∧ object.shape.location? site.name = some node.location ∧
      found.site = site.caching object.shape node ∧
      found.space = { space with
        tracer := space.tracer.observeAll (site.lookupEvents object.shape node.kind) } := by
  have hprimitive := ne_object_of_not_fits hfits
  cases hspecializes with
  | hit hhit =>
    cases hresult
    obtain ⟨cached, hcache, hsame⟩ := hit?_eq_some hhit
    obtain ⟨rfl, hlocation⟩ := hreliable cached node hcache hsame
    refine ⟨?_, hlocation, ?_, ?_⟩
    · rw [isGeneral_of_cache hcache]
      simpa using hprimitive
    · change site = { site with cache := some (object.shape, node) }
      rw [← hcache]
    · rw [lookupEvents, hhit]
      rfl
  | @found location hmiss hlocation hkeep =>
    cases hresult
    have hstale : location.kind.isPrimitive = true := Kind.isPrimitive_iff.mpr hprimitive
    rw [hstale, Bool.true_and] at hkeep
    refine ⟨hkeep, hlocation, rfl, ?_⟩
    rw [lookupEvents, hmiss]
    rfl
  | @stale location _ hmiss hlocation hstale hwidens =>
    cases hwidens with
    | boxed hgeneralize hmigrate =>
      cases hresult
      have hstale' := Kind.isPrimitive_iff.mp (Bool.and_eq_true_iff.mp hstale).1
      exact absurd (boxed_slot h hobject hlocation hstale' hgeneralize hmigrate).1 hprimitive
  | @added grown reached hmiss habsent hadd hslots =>
    cases hresult
    have hkind : reached.location.kind = if site.isGeneral then .object else write.initialKind :=
      (added_takes h hobject habsent hadd).leads.kind_eq (h.of_object? hobject).2.packed
    rw [WriteNode.kind, hkind] at hfits
    split at hfits
    · rw [write.fits_object] at hfits
      cases hfits
    · rw [write.fits_initialKind] at hfits
      cases hfits
  | refused => cases hresult

/-- Where the slot that was found refused the value, the attribute is boxed. -/
theorem Specializes.performs_boxed (h : space.WellFormed)
    (hobject : space.heap.object? target = some object) (hreliable : site.Reliable object.shape)
    {found widened : Outcome SetSite WriteNode} {changed migrated : Object}
    {node boxedNode : WriteNode}
    (hspecializes : site.Specializes space target object write.initialKind found)
    (hresult : found.result = .ok node)
    (hchanged : found.space.heap.object? target = some changed)
    (hfits : write.fits node.kind = false)
    (hwidens : found.site.Widens (found.space.observe (.generalized found.site.name node.kind))
      target changed widened)
    (hboxed : widened.result = .ok boxedNode)
    (hmigrated : widened.space.heap.object? target = some migrated) :
    ∃ effect, site.Performs space.heap space.registry target object write effect ∧
      ⟨widened.site, (widened.space.put target (migrated.overwrite boxedNode.location
          write.value)).observe (.written boxedNode.kind .generic), .ok ()⟩ =
        effect.outcome space := by
  obtain ⟨hgeneral, hlocation, hsite, hspace⟩ := hspecializes.of_not_fits h hobject hreliable
    hresult hfits
  have hprimitive : node.location.kind ≠ .object := ne_object_of_not_fits hfits
  have hkind : node.location.kind ≠ site.kindAfter object.shape write := by
    have hfits' : write.fits node.location.kind = false := hfits
    rw [kindAfter_of_location? hlocation, hfits']
    simpa using hprimitive
  rw [hspace] at hchanged hwidens
  rw [hsite] at hwidens
  cases hobject.symm.trans hchanged
  cases hwidens with
  | @boxed grown reached migrated' hgeneralize hmigrate =>
    cases hboxed
    cases hmigrated.symm.trans (Heap.object?_put_self hobject _)
    refine ⟨_, .boxed hlocation hkind hgeneralize hmigrate, ?_⟩
    obtain ⟨hslot, hshape⟩ := boxed_slot h hobject hlocation hprimitive hgeneralize hmigrate
    have hevents : site.refusalEvents object.shape node.location.kind =
        site.lookupEvents object.shape node.kind ++ [.generalized site.name node.kind] := by
      rw [refusalEvents, hgeneral]
      rfl
    simp only [Effect.outcome, hevents, install, Space.put, Space.moveObject, Space.observe,
      Heap.put_put, WriteNode.kind, hslot, hshape, Tracer.observeAll_append]
    rfl

/-- An assignment that went one of the listed ways came to something listed here. -/
theorem Assigns.performs (h : space.WellFormed)
    (hobject : space.heap.object? target = some object) (hreliable : site.Reliable object.shape)
    {outcome : Outcome SetSite Unit} (hassigns : site.Assigns space target object write outcome) :
    ∃ effect, site.Performs space.heap space.registry target object write effect ∧
      outcome = effect.outcome space := by
  cases hassigns with
  | refused hspecializes hresult =>
    cases hspecializes with
    | refused hmiss habsent hadd hslots =>
      cases hresult
      rw [← kindAfter_of_absent habsent] at hadd
      exact ⟨_, .refused habsent hadd hslots, rfl⟩
    | stale _ _ _ hwidens =>
      cases hwidens
      cases hresult
    | hit | found | added => cases hresult
  | stored hspecializes hresult hchanged hfits =>
    exact hspecializes.performs h hobject hreliable hresult hchanged hfits
  | boxed hspecializes hresult hchanged hfits hwidens hboxed hmigrated =>
    exact hspecializes.performs_boxed h hobject hreliable hresult hchanged hfits hwidens hboxed
      hmigrated

/-- On an allocated object every assignment comes to something listed here. -/
theorem exists_performs (h : space.WellFormed) (hobject : space.heap.object? target = some object)
    (hreliable : site.Reliable object.shape) (write : Write) :
    ∃ effect, site.Performs space.heap space.registry target object write effect ∧
      site.execute space target write = .ok (effect.outcome space) := by
  obtain ⟨outcome, hexecute, hassigns⟩ := exists_assigns h hobject hreliable write
  obtain ⟨effect, hperforms, rfl⟩ := hassigns.performs h hobject hreliable
  exact ⟨effect, hperforms, hexecute⟩

/-- What an assignment comes to is what executing it does. -/
theorem Performs.execute_eq {effect : Effect}
    (hperforms : site.Performs space.heap space.registry target object write effect)
    (h : space.WellFormed) (hobject : space.heap.object? target = some object)
    (hreliable : site.Reliable object.shape) :
    site.execute space target write = .ok (effect.outcome space) := by
  obtain ⟨effect', hperforms', hexecute⟩ := exists_performs h hobject hreliable write
  rw [hexecute, hperforms.unique hperforms']

/-- The events that an assignment shows are those of what it comes to. -/
theorem Performs.emitted_eq {effect : Effect}
    (hperforms : site.Performs space.heap space.registry target object write effect)
    (h : space.WellFormed) (hobject : space.heap.object? target = some object)
    (hreliable : site.Reliable object.shape) :
    site.emitted space target write = effect.events := by
  have hrecording : space.recording.WellFormed := ⟨h.registry, h.objects⟩
  have hperforms' :
      site.Performs space.recording.heap space.recording.registry target object write effect :=
    hperforms
  have hevents := Tracer.observeAll_recorder_all [] effect.events
  rw [emitted, hperforms'.execute_eq hrecording hobject hreliable]
  change (Tracer.observeAll (.recorder ⟨true, none, []⟩) effect.events).recorded = effect.events
  rw [hevents]
  rfl

/-- No object but the one that is assigned to is touched. -/
theorem Performs.heap_eq {heap : Heap} {registry : Registry} {effect : Effect}
    (hperforms : site.Performs heap registry target object write effect)
    (hobject : heap.object? target = some object) :
    ∃ changed, effect.heap = heap.put target changed := by
  cases hperforms with
  | stored | boxed | added => exact ⟨_, rfl⟩
  | refused => exact ⟨object, (Heap.put_object? hobject).symm⟩

/-- The step from a shape for which a store through a site asks the registry, if it asks for one. -/
def step? (site : SetSite) (shape : Shape) (write : Write) : Option Transition :=
  match shape.location? site.name with
  | none => some (.add site.name (site.kindAfter shape write))
  | some location =>
    if location.kind = site.kindAfter shape write then none else some (.generalize site.name)

/-- No step is asked for where the slot is of the right kind already. -/
theorem step?_of_stored {shape : Shape} {location : Location}
    (hlocation : shape.location? site.name = some location)
    (hkind : location.kind = site.kindAfter shape write) : site.step? shape write = none := by
  rw [step?, hlocation]
  exact if_pos hkind

/-- A slot of another kind is to be boxed. -/
theorem step?_of_boxed {shape : Shape} {location : Location}
    (hlocation : shape.location? site.name = some location)
    (hkind : location.kind ≠ site.kindAfter shape write) :
    site.step? shape write = some (.generalize site.name) := by
  rw [step?, hlocation]
  exact if_neg hkind

/-- A missing attribute is to be added. -/
theorem step?_of_absent {shape : Shape} (habsent : shape.location? site.name = none) :
    site.step? shape write = some (.add site.name (site.kindAfter shape write)) := by
  rw [step?, habsent]

/-- An assignment takes the step for which it asks, also one that is then refused. -/
theorem Performs.takes {effect : Effect}
    (hperforms : site.Performs space.heap space.registry target object write effect)
    (h : space.WellFormed) (hobject : space.heap.object? target = some object) :
    (site.step? object.shape write = none ∧ effect.registry = space.registry) ∨
      ∃ step reached, site.step? object.shape write = some step ∧
        space.registry.Takes object.shape step effect.registry reached := by
  cases hperforms with
  | stored hlocation hkind => exact Or.inl ⟨step?_of_stored hlocation hkind, rfl⟩
  | boxed hlocation hkind hgeneralize _ =>
    exact Or.inr ⟨_, _, step?_of_boxed hlocation hkind,
      boxed_takes h hobject hlocation (ne_object_of_ne_kindAfter hlocation hkind) hgeneralize⟩
  | added habsent hadd _ | refused habsent hadd _ =>
    exact Or.inr ⟨_, _, step?_of_absent habsent, added_takes h hobject habsent hadd⟩

/-- The registry is the same or has grown. -/
theorem Performs.grown {effect : Effect}
    (hperforms : site.Performs space.heap space.registry target object write effect)
    (h : space.WellFormed) (hobject : space.heap.object? target = some object) :
    space.registry.Extends effect.registry := by
  rcases hperforms.takes h hobject with ⟨_, hsame⟩ | ⟨_, _, _, htakes⟩
  · rw [hsame]
    exact .refl _
  · exact htakes.grown

/-- The registry can be relied on as before. -/
theorem Performs.registry_wellFormed {effect : Effect}
    (hperforms : site.Performs space.heap space.registry target object write effect)
    (h : space.WellFormed) (hobject : space.heap.object? target = some object) :
    effect.registry.WellFormed := by
  rcases hperforms.takes h hobject with ⟨_, hsame⟩ | ⟨_, _, _, htakes⟩
  · rw [hsame]
    exact h.registry
  · exact htakes.wellFormed

/-- An object that was never allocated cannot be assigned to. -/
theorem execute_of_unallocated (hobject : space.heap.object? target = none) (site : SetSite)
    (write : Write) : site.execute space target write = .error .missingOnRead := by
  simp only [execute, specialize, bind, Except.bind, Heap.get, hobject]

/-- A call on an object that was never allocated shows no event. -/
theorem emitted_of_unallocated (hobject : space.heap.object? target = none) (site : SetSite)
    (write : Write) : site.emitted space target write = [] := by
  have hrecording : space.recording.heap.object? target = none := hobject
  rw [emitted, execute_of_unallocated hrecording]

end Performs

end SetSite

/-- In a well-formed session every assignment to an allocated object comes to something listed
here. -/
theorem Session.WellFormed.exists_effect {session : Session} (h : session.WellFormed) {index : Nat}
    {space : Space} {site : SetSite} {target : HeapId} {object : Object}
    (hspace : session.spaces[index]? = some space) (hsite : site ∈ session.setSites)
    (hobject : space.heap.object? target = some object) (write : Write) :
    ∃ effect, site.Performs space.heap space.registry target object write effect ∧
      site.Reliable object.shape ∧ site.execute space target write = .ok (effect.outcome space) ∧
      site.emitted space target write = effect.events := by
  have hwell := h.spaces space (List.mem_of_getElem? hspace)
  have hreliable := h.setSite_reliable hsite hspace (hwell.of_object? hobject).1
  obtain ⟨effect, hperforms, hexecute⟩ := SetSite.exists_performs hwell hobject hreliable write
  exact ⟨effect, hperforms, hreliable, hexecute, hperforms.emitted_eq hwell hobject hreliable⟩

end ShapedObjects
