import ShapedObjects.Layout
import ShapedObjects.Proofs.Assign

/-!
# Packed layouts

A packed layout was filled from the front with distinct names. Every layout that is
ever issued is packed: its slots lie within the two storage areas, no two attributes
share a slot, and the list of kinds says all there is to know about it.
-/

namespace ShapedObjects

/-- Two locations that name one and the same slot. The three primitive kinds share one storage
area, so their slots can coincide although the kinds differ. -/
def Location.SameSlot (a b : Location) : Prop :=
  a.kind.isPrimitive = b.kind.isPrimitive ∧ a.index = b.index

namespace Layout

/-- How many slots the storage area of a kind has. -/
def capacity (layout : Layout) (kind : Kind) : Nat :=
  if kind.isPrimitive then layout.primitiveCount else layout.objectCount

/-- A storage area has no more slots than there are. -/
theorem capacity_le_slotCount (layout : Layout) (kind : Kind) :
    layout.capacity kind ≤ layout.slotCount := by
  rw [capacity, slotCount]
  split <;> omega

/-- Layouts that were filled from the front, each name once. -/
inductive Packed : Layout → Prop
  | empty : Packed Layout.empty
  | append {layout : Layout} {name : NameId} (kind : Kind) :
      Packed layout → layout.location? name = none → Packed (layout.append name kind)

@[simp] theorem nextLocation_index (layout : Layout) (kind : Kind) :
    (layout.nextLocation kind).index = layout.capacity kind := rfl

/-- The kinds are listed under the names of the attributes. -/
@[simp] theorem map_fst_kinds (layout : Layout) :
    layout.kinds.map Prod.fst = layout.attributes.map Prod.fst := by
  simp [kinds]

/-- The kind that is listed for an attribute is the kind of its slot. -/
theorem lookup_kinds (layout : Layout) (name : NameId) :
    layout.kinds.lookup name = (layout.location? name).map (·.kind) :=
  lookup_map Location.kind

/-- The slot of an attribute tells its kind. -/
theorem lookup_kinds_of_location? {layout : Layout} {name : NameId} {location : Location}
    (h : layout.location? name = some location) :
    layout.kinds.lookup name = some location.kind := by
  rw [lookup_kinds, h, Option.map_some]

/-- An attribute that has a kind has a slot of that kind. -/
theorem lookup_kinds_eq_some_iff {layout : Layout} {name : NameId} {kind : Kind} :
    layout.kinds.lookup name = some kind ↔
      ∃ location, layout.location? name = some location ∧ location.kind = kind := by
  rw [lookup_kinds, Option.map_eq_some_iff]

/-- An attribute has no kind exactly if it has no slot. -/
theorem lookup_kinds_eq_none_iff {layout : Layout} {name : NameId} :
    layout.kinds.lookup name = none ↔ layout.location? name = none := by
  rw [lookup_kinds, Option.map_eq_none_iff]

/-- An attribute without a slot does not occur in the list of kinds. -/
theorem not_mem_kinds {layout : Layout} {name : NameId} (h : layout.location? name = none) :
    name ∉ layout.kinds.map Prod.fst := by
  rw [map_fst_kinds]
  exact lookup_eq_none_iff_not_mem.mp h

section Append

variable {layout : Layout} {name other : NameId} (kind : Kind)

/-- A new attribute is found in the next free slot. -/
theorem location?_append_self (h : layout.location? name = none) :
    (layout.append name kind).location? name = some (layout.nextLocation kind) := by
  have hnot := lookup_eq_none_iff_not_mem.mp h
  have hassign := assign_of_not_mem layout.attributes name (layout.nextLocation kind) hnot
  change (layout.attributes ++ [(name, layout.nextLocation kind)]).lookup name = _
  rw [← hassign, lookup_assign_self]

/-- All other attributes are found as they were when one is appended. -/
theorem location?_append_of_ne (hne : other ≠ name) :
    (layout.append name kind).location? other = layout.location? other := by
  rw [location?, append, List.lookup_append, lookup_cons_of_ne hne, List.lookup_nil,
    Option.or_none, location?]

/-- The storage area of the new attribute gains one slot and the other area none. -/
theorem capacity_append (other : Kind) :
    (layout.append name kind).capacity other =
      layout.capacity other + if kind.isPrimitive = other.isPrimitive then 1 else 0 := by
  cases kind <;> cases other <;> rfl

/-- Appending never takes a slot away. -/
theorem capacity_le_append (other : Kind) :
    layout.capacity other ≤ (layout.append name kind).capacity other := by
  rw [capacity_append]
  omega

end Append

namespace Packed

variable {layout : Layout}

/-- No name occurs twice. -/
theorem nodup (h : layout.Packed) : (layout.attributes.map Prod.fst).Nodup := by
  induction h with
  | empty => exact List.nodup_nil
  | @append layout name kind _ hnew ih =>
    have hnot := lookup_eq_none_iff_not_mem.mp hnew
    rw [Layout.append, List.map_append, List.nodup_append]
    refine ⟨ih, by simp, ?_⟩
    rintro a ha b hb rfl
    rw [List.map_singleton, List.mem_singleton] at hb
    subst hb
    exact hnot ha

/-- No name occurs twice in the list of kinds. -/
theorem nodup_kinds (h : layout.Packed) : (layout.kinds.map Prod.fst).Nodup := by
  rw [map_fst_kinds]
  exact h.nodup

/-- Every attribute is found in the slot that is listed for it. -/
theorem location?_of_mem (h : layout.Packed) {entry : NameId × Location}
    (hmem : entry ∈ layout.attributes) : layout.location? entry.1 = some entry.2 :=
  lookup_of_mem h.nodup hmem

/-- Every slot lies within its storage area. -/
theorem index_lt (h : layout.Packed) {entry : NameId × Location}
    (hmem : entry ∈ layout.attributes) : entry.2.index < layout.capacity entry.2.kind := by
  induction h with
  | empty => simp [Layout.empty] at hmem
  | @append layout name kind _ _ ih =>
    rcases List.mem_append.mp hmem with hmem | hmem
    · exact Nat.lt_of_lt_of_le (ih hmem) (capacity_le_append kind _)
    · rw [List.mem_singleton] at hmem
      subst hmem
      rw [nextLocation_kind, nextLocation_index, capacity_append, if_pos rfl]
      omega

/-- Every attribute has a slot of its own. -/
theorem slotCount_eq (h : layout.Packed) : layout.slotCount = layout.attributes.length := by
  induction h with
  | empty => rfl
  | append _ _ _ ih =>
    rw [slotCount_append, ih, Layout.append, List.length_append, List.length_singleton]

/-- Every unboxed slot is one of the words. -/
theorem index_lt_primitiveCount (h : layout.Packed) {entry : NameId × Location}
    (hmem : entry ∈ layout.attributes) (hprimitive : entry.2.kind.isPrimitive = true) :
    entry.2.index < layout.primitiveCount := by
  have hrange := h.index_lt hmem
  rwa [capacity, if_pos hprimitive] at hrange

/-- No two attributes share a slot. -/
theorem eq_of_sameSlot (h : layout.Packed) {a b : NameId × Location}
    (ha : a ∈ layout.attributes) (hb : b ∈ layout.attributes) (hslot : a.2.SameSlot b.2) :
    a = b := by
  induction h with
  | empty => simp [Layout.empty] at ha
  | @append layout name kind hpacked _ ih =>
    -- The new slot lies behind all slots that were there before.
    have hfresh : ∀ entry ∈ layout.attributes,
        ¬ entry.2.SameSlot (layout.nextLocation kind) := by
      rintro entry hentry ⟨harea, hindex⟩
      have hlt := hpacked.index_lt hentry
      rw [nextLocation_kind] at harea
      rw [nextLocation_index] at hindex
      rw [capacity, harea] at hlt
      rw [capacity] at hindex
      omega
    rcases List.mem_append.mp ha with ha | ha <;> rcases List.mem_append.mp hb with hb | hb
    · exact ih ha hb
    · rw [List.mem_singleton] at hb
      subst hb
      exact absurd hslot (hfresh a ha)
    · rw [List.mem_singleton] at ha
      subst ha
      exact absurd ⟨hslot.1.symm, hslot.2.symm⟩ (hfresh b hb)
    · rw [List.mem_singleton] at ha hb
      rw [ha, hb]

/-- A packed layout stays packed while new names are appended. -/
theorem foldl_append (h : layout.Packed) (kinds : List (NameId × Kind))
    (hnodup : ((layout.kinds ++ kinds).map Prod.fst).Nodup) :
    (kinds.foldl (fun layout entry => layout.append entry.1 entry.2) layout).Packed := by
  induction kinds generalizing layout with
  | nil => exact h
  | cons entry kinds ih =>
    have hnew : layout.location? entry.1 = none := by
      rw [location?, lookup_eq_none_iff_not_mem, ← map_fst_kinds]
      intro hmem
      rw [List.map_append, List.nodup_append] at hnodup
      exact hnodup.2.2 _ hmem entry.1 (by simp) rfl
    exact ih (.append entry.2 h hnew) (by simpa using hnodup)

/-- A layout that is made of a list of kinds under distinct names is packed. -/
theorem ofKinds {kinds : List (NameId × Kind)} (hnodup : (kinds.map Prod.fst).Nodup) :
    (Layout.ofKinds kinds).Packed :=
  Packed.empty.foldl_append kinds (by simpa [Layout.kinds, Layout.empty] using hnodup)

end Packed

section Widen

variable {layout : Layout} {name : NameId}

/-- Boxing an attribute keeps the names in their order. -/
theorem map_fst_widen (layout : Layout) (name : NameId) :
    (layout.widen name).attributes.map Prod.fst = layout.attributes.map Prod.fst := by
  rw [← map_fst_kinds, kinds_widen, List.map_map, ← map_fst_kinds layout]
  refine List.map_congr_left fun entry _ => ?_
  rw [Function.comp_apply]
  split <;> rfl

/-- Boxing an attribute numbers all slots afresh, which leaves a packed layout. -/
theorem Packed.widen (h : layout.Packed) (name : NameId) : (layout.widen name).Packed := by
  refine Packed.ofKinds ?_
  have hnodup := h.nodup
  rwa [← map_fst_widen layout name, ← map_fst_kinds, kinds_widen] at hnodup

/-- Boxing an attribute assigns the boxed kind to it in the list of kinds. -/
theorem Packed.kinds_widen_eq_assign (h : layout.Packed) {location : Location}
    (hlocation : layout.location? name = some location) :
    (layout.widen name).kinds = assign layout.kinds name .object := by
  have hmem := mem_map_fst_of_lookup (lookup_kinds_of_location? hlocation)
  rw [kinds_widen, assign_eq_map _ _ _ hmem h.nodup_kinds]

/-- After boxing, the attribute is found in a boxed slot. -/
theorem Packed.location?_widen_self (h : layout.Packed) {location : Location}
    (hlocation : layout.location? name = some location) :
    ∃ boxed, (layout.widen name).location? name = some boxed ∧ boxed.kind = .object := by
  apply lookup_kinds_eq_some_iff.mp
  rw [h.kinds_widen_eq_assign hlocation, lookup_assign_self]

/-- After boxing, every other attribute is found in a slot of the kind that it had. -/
theorem Packed.location?_widen_of_ne (h : layout.Packed) {location current : Location}
    {other : NameId} (hlocation : layout.location? name = some location) (hne : other ≠ name)
    (hcurrent : layout.location? other = some current) :
    ∃ moved, (layout.widen name).location? other = some moved ∧ moved.kind = current.kind := by
  apply lookup_kinds_eq_some_iff.mp
  rw [h.kinds_widen_eq_assign hlocation, lookup_assign_of_ne _ _ _ hne]
  exact lookup_kinds_of_location? hcurrent

end Widen

end Layout

end ShapedObjects
