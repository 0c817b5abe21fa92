import ShapedObjects.Site.Set
import ShapedObjects.Proofs.Relocation
import ShapedObjects.Proofs.Transitions

/-!
# Spaces and what a call changes in them

In a well-formed space every object is well-formed and on an issued shape. A call on one
object replaces that object in the heap, may let the registry grow, and shows events to
the tracer; nothing else of the space changes. `Space.Equips` says so of a call that
gives the object a slot of a certain kind for an attribute.
-/

namespace ShapedObjects

/-- What ends without a fault has gone through each of its parts without one. -/
theorem ok_of_bind {α β : Type} {first : Except Fault α} {rest : α → Except Fault β} {result : β}
    (h : first >>= rest = .ok result) : ∃ value, first = .ok value ∧ rest value = .ok result := by
  cases first with
  | error fault => cases h
  | ok value => exact ⟨value, rfl, h⟩

namespace Heap

variable {heap : Heap} {target other : HeapId} {object : Object}

theorem get_of_object? (h : heap.object? target = some object) :
    heap.get target = .ok object := by
  rw [get, h]

/-- Only an allocated object can be read. -/
theorem object?_of_get (h : heap.get target = .ok object) : heap.object? target = some object := by
  unfold get at h
  split at h
  · rename_i found hfound
    cases h
    exact hfound
  · cases h

theorem getToChange_of_object? (h : heap.object? target = some object) :
    heap.getToChange target = .ok object := by
  rw [getToChange, h]

/-- An object that was put in its place is found there. -/
theorem object?_put_self (h : heap.object? target = some object) (changed : Object) :
    (heap.put target changed).object? target = some changed := by
  obtain ⟨hlt, _⟩ := List.getElem?_eq_some_iff.mp h
  exact List.getElem?_set_self hlt

/-- All other objects are found as before. -/
theorem object?_put_of_ne (hne : other ≠ target) (changed : Object) :
    (heap.put target changed).object? other = heap.object? other := by
  have hindex : target.index ≠ other.index := by
    intro heq
    cases target
    cases other
    exact hne (congrArg HeapId.mk heq.symm)
  exact List.getElem?_set_ne hindex

/-- Putting back an object as it is changes nothing. -/
theorem put_object? (h : heap.object? target = some object) : heap.put target object = heap := by
  obtain ⟨hlt, hget⟩ := List.getElem?_eq_some_iff.mp h
  have hobjects : heap.objects.set target.index object = heap.objects := by
    rw [← hget, List.set_getElem_self]
  rw [put, hobjects]

/-- Of two objects that were put in one place the second stays. -/
@[simp] theorem put_put (heap : Heap) (target : HeapId) (first second : Object) :
    (heap.put target first).put target second = heap.put target second := by
  simp [put]

/-- An object of a heap stands in its list of objects. -/
theorem mem_of_object? (h : heap.object? target = some object) : object ∈ heap.objects :=
  List.mem_of_getElem? h

/-- An allocation is refused or adds a new object behind all others. -/
theorem allocate_objects (heap : Heap) (shape : Shape) :
    (heap.allocate shape).1.objects = heap.objects ∨
      (heap.allocate shape).1.objects = heap.objects ++ [.new shape] := by
  cases hcount : heap.tracker.allocate with
  | error refusal =>
    left
    simp only [allocate, hcount]
  | ok tracker =>
    cases hslots : tracker.checkSlots shape.layout.slotCount with
    | error refusal =>
      left
      simp only [allocate, hcount, hslots]
    | ok _ =>
      right
      simp only [allocate, hcount, hslots]

/-- Objects are found as before after an allocation. -/
theorem object?_allocate (h : heap.object? target = some object) (shape : Shape) :
    (heap.allocate shape).1.object? target = some object := by
  rcases heap.allocate_objects shape with hsame | hmore
  · rw [object?, hsame]
    exact h
  · rw [object?, hmore]
    obtain ⟨hlt, _⟩ := List.getElem?_eq_some_iff.mp h
    rw [List.getElem?_append_left hlt]
    exact h

end Heap

namespace Space

/-- The invariant of a space. -/
structure WellFormed (space : Space) : Prop where
  /-- The registry can be relied on. -/
  registry : space.registry.WellFormed
  /-- Every object is on an issued shape and well-formed. -/
  objects : ∀ object ∈ space.heap.objects,
    object.shape ∈ space.registry.shapes ∧ object.WellFormed

/-- The space after an object moved to another shape, for which the registry may have grown. -/
def moveObject (space : Space) (registry : Registry) (target : HeapId) (start : Shape)
    (moved : Object) (reason : Reason) : Space :=
  ({ space with registry := registry, heap := space.heap.put target moved }).observe
    (.moved start.id moved.shape.id reason)

section Invariant

variable {space : Space} {target : HeapId} {object : Object}

/-- A new space has no object and one shape. -/
theorem wellFormed_new (serial : Nat) (tracker : Tracker) (tracer : Tracer) :
    (new serial tracker tracer).WellFormed where
  registry := Registry.wellFormed_new serial
  objects := by simp [new, Heap.new]

/-- An object of a well-formed space is on an issued shape and well-formed. -/
theorem WellFormed.of_object? (h : space.WellFormed)
    (hobject : space.heap.object? target = some object) :
    object.shape ∈ space.registry.shapes ∧ object.WellFormed :=
  h.objects object (Heap.mem_of_object? hobject)

/-- Events do not touch the invariant. -/
theorem WellFormed.observe (h : space.WellFormed) (event : Event) :
    (space.observe event).WellFormed :=
  ⟨h.registry, h.objects⟩

/-- A space stays well-formed when its registry grows and one object is replaced by a
well-formed one on an issued shape. -/
theorem WellFormed.put (h : space.WellFormed) {registry : Registry}
    (hgrown : space.registry.Extends registry) (hregistry : registry.WellFormed)
    {changed : Object} (hshape : changed.shape ∈ registry.shapes) (hchanged : changed.WellFormed) :
    ({ space with registry := registry, heap := space.heap.put target changed }).WellFormed where
  registry := hregistry
  objects := by
    intro other hother
    rcases List.mem_or_eq_of_mem_set hother with hold | rfl
    · obtain ⟨hissued, hwell⟩ := h.objects other hold
      exact ⟨hgrown.shapes.subset hissued, hwell⟩
    · exact ⟨hshape, hchanged⟩

/-- A space stays well-formed when only its registry grows. -/
theorem WellFormed.grow (h : space.WellFormed) {registry : Registry}
    (hgrown : space.registry.Extends registry) (hregistry : registry.WellFormed) :
    ({ space with registry := registry }).WellFormed where
  registry := hregistry
  objects := by
    intro object hobject
    obtain ⟨hissued, hwell⟩ := h.objects object hobject
    exact ⟨hgrown.shapes.subset hissued, hwell⟩

/-- Allocating an object keeps a space well-formed. -/
theorem WellFormed.allocate (h : space.WellFormed) : space.allocate.1.WellFormed where
  registry := h.registry
  objects := by
    intro object hobject
    rcases space.heap.allocate_objects space.registry.root with hsame | hmore
    · exact h.objects object (hsame ▸ hobject)
    · have hmem : object ∈ space.heap.objects ++ [.new space.registry.root] := hmore ▸ hobject
      rcases List.mem_append.mp hmem with hold | hnew
      · exact h.objects object hold
      · rw [List.mem_singleton] at hnew
        subst hnew
        exact ⟨h.registry.root, Object.wellFormed_new (h.registry.packed h.registry.root)⟩

end Invariant

/-- A call left an object with a slot of a kind for an attribute, to which a node is bound. All
other attributes keep their kinds, and the values of all of them are as before, up to the value
in the slot itself. Nothing else changed but the registry, which may have grown, and the
tracer. -/
structure Equips (space : Space) (target : HeapId) (object : Object) (name : NameId)
    (kind : Kind) (later : Space) (changed : Object) (node : WriteNode) : Prop where
  /-- The object was replaced in the heap, and nothing else. -/
  heap : later.heap = space.heap.put target changed
  /-- The registry is the same or has grown. -/
  registry : space.registry.Extends later.registry
  /-- No name was interned. -/
  interner : later.interner = space.interner
  /-- The space is well-formed. -/
  wellFormed : later.WellFormed
  /-- The node is bound to the attribute's slot. -/
  location : changed.shape.location? name = some node.location
  /-- The attribute's slot has the given kind, and all others have the kinds that they had. -/
  kinds : changed.shape.layout.kinds = assign object.shape.layout.kinds name kind
  /-- All other attributes have the values that they had. -/
  contents : ∀ value, assign changed.contents name value = assign object.contents name value

namespace Equips

variable {space later last : Space} {target : HeapId} {object changed : Object} {name : NameId}
  {kind : Kind} {node : WriteNode}

/-- The node is one for slots of the given kind. -/
theorem node_kind (h : space.Equips target object name kind later changed node) :
    node.kind = kind := by
  have hkind := Layout.lookup_kinds_of_location? h.location
  rw [h.kinds, lookup_assign_self] at hkind
  exact (Option.some.inj hkind).symm

/-- The object is found in the later heap as it was left. -/
theorem object? (h : space.Equips target object name kind later changed node)
    (hobject : space.heap.object? target = some object) :
    later.heap.object? target = some changed := by
  rw [h.heap]
  exact Heap.object?_put_self hobject changed

/-- What a call did that gave the object a slot, a second such call may do again. -/
theorem trans (h : space.Equips target object name kind later changed node) {kind' : Kind}
    {changed' : Object} {node' : WriteNode}
    (h' : later.Equips target changed name kind' last changed' node') :
    space.Equips target object name kind' last changed' node' where
  heap := by rw [h'.heap, h.heap, Heap.put_put]
  registry := h.registry.trans h'.registry
  interner := h'.interner.trans h.interner
  wellFormed := h'.wellFormed
  location := h'.location
  kinds := by rw [h'.kinds, h.kinds, assign_assign]
  contents := fun value => (h'.contents value).trans (h.contents value)

/-- Events do not touch what a call changed. -/
theorem observe (h : space.Equips target object name kind later changed node) (event : Event) :
    space.Equips target object name kind (later.observe event) changed node :=
  ⟨h.heap, h.registry, h.interner, h.wellFormed.observe event, h.location, h.kinds, h.contents⟩

/-- The slot can be overwritten with any value that its kind accepts, which assigns the value to
the attribute. -/
theorem overwrite (h : space.Equips target object name kind later changed node)
    (hobject : space.heap.object? target = some object) {value : Value}
    (haccepts : node.kind.accepts value = true) :
    space.Equips target object name kind
        (later.put target (changed.overwrite node.location value))
        (changed.overwrite node.location value) node ∧
      (changed.overwrite node.location value).contents = assign object.contents name value := by
  have hchanged := h.object? hobject
  obtain ⟨hissued, hwell⟩ := h.wellFormed.of_object? hchanged
  have hcontents := hwell.toSized.contents_overwrite h.location haccepts
  refine ⟨⟨?_, h.registry, h.interner, ?_, ?_, ?_, ?_⟩, hcontents.trans (h.contents value)⟩
  · change later.heap.put target _ = _
    rw [h.heap, Heap.put_put]
  · refine h.wellFormed.put (.refl _) h.wellFormed.registry ?_ (hwell.overwrite h.location haccepts)
    rwa [Object.overwrite_shape]
  · rw [Object.overwrite_shape]
    exact h.location
  · rw [Object.overwrite_shape]
    exact h.kinds
  · intro other
    rw [hcontents, assign_assign]
    exact h.contents other

end Equips

section Moves

variable {space : Space} {target : HeapId} {object : Object} {name : NameId}

/-- An object that has the attribute already is equipped as it is. -/
theorem equips_of_location? (h : space.WellFormed)
    (hobject : space.heap.object? target = some object) {location : Location}
    (hlocation : object.shape.location? name = some location) :
    space.Equips target object name location.kind space object ⟨location⟩ where
  heap := (Heap.put_object? hobject).symm
  registry := .refl _
  interner := rfl
  wellFormed := h
  location := hlocation
  kinds := (assign_eq_self _ _ _ (Layout.lookup_kinds_of_location? hlocation)).symm
  contents := fun _ => rfl

/-- An object that lacks the attribute is equipped by growing. -/
theorem equips_extend (h : space.WellFormed) (hobject : space.heap.object? target = some object)
    (habsent : object.shape.location? name = none) {kind : Kind} {registry : Registry}
    {reached : Reached}
    (htakes : space.registry.Takes object.shape (.add name kind) registry reached) :
    space.Equips target object name kind
      (space.moveObject registry target object.shape (object.extend reached.shape) .addAttribute)
      (object.extend reached.shape) ⟨reached.location⟩ := by
  obtain ⟨hissued, hwell⟩ := h.of_object? hobject
  cases htakes.leads with
  | add _ hlayout hlocation =>
    have hpacked := htakes.wellFormed.packed htakes.issued
    have hextended := hwell.extend_append hlayout hpacked
    obtain ⟨unset, hcontents⟩ := Object.contents_extend_append hlayout hpacked
    refine ⟨rfl, htakes.grown, rfl,
      (h.put htakes.grown htakes.wellFormed htakes.issued hextended).observe _, hlocation, ?_, ?_⟩
    · change reached.shape.layout.kinds = _
      rw [hlayout, Layout.kinds_append, assign_of_not_mem _ _ _ (Layout.not_mem_kinds habsent)]
    · intro value
      have hnot : name ∉ object.contents.map Prod.fst := by
        rw [Object.map_fst_contents]
        exact lookup_eq_none_iff_not_mem.mp habsent
      rw [hcontents, assign_append_of_not_mem _ _ _ _ hnot, assign_of_not_mem _ _ _ hnot, assign,
        if_pos rfl]

/-- An object that has the attribute unboxed is equipped with a boxed slot by migrating. -/
theorem equips_migrate (h : space.WellFormed) (hobject : space.heap.object? target = some object)
    {registry : Registry} {reached : Reached}
    (htakes : space.registry.Takes object.shape (.generalize name) registry reached) :
    ∃ migrated, object.migrate reached.shape = .ok migrated ∧ migrated.shape = reached.shape ∧
      space.Equips target object name .object
        (space.moveObject registry target object.shape migrated .generalize) migrated
        ⟨reached.location⟩ := by
  obtain ⟨hissued, hwell⟩ := h.of_object? hobject
  cases htakes.leads with
  | generalize hcurrent _ hlayout hlocation =>
    obtain ⟨migrated, hmigrate, hshape, hmigrated, hcontents⟩ :=
      hwell.toSized.migrate_widen hcurrent hlayout
    refine ⟨migrated, hmigrate, hshape, rfl, htakes.grown, rfl,
      (h.put htakes.grown htakes.wellFormed (hshape ▸ htakes.issued) hmigrated).observe _,
      hshape ▸ hlocation, ?_, fun value => by rw [hcontents]⟩
    rw [hshape, hlayout, hwell.packed.kinds_widen_eq_assign hcurrent]

end Moves

end Space

end ShapedObjects
