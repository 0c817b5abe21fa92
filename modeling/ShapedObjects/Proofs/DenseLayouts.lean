import Mathlib.Data.Set.Function
import ShapedObjects.Proofs.TransitionTree

/-!
# Dense and canonical layouts

A layout that was filled from the front numbers the slots of each storage area without a gap,
in the order of the attributes. So the list of attributes and kinds says where everything
is stored, whether a shape gained its attributes one by one or had them numbered afresh.
-/

namespace ShapedObjects

/-- Items that are numbered one after the other are in one-to-one correspondence with their
numbers. -/
theorem bijOn_of_map_eq_range {α : Type} {number : α → Nat} {items : List α} {count : Nat}
    (h : items.map number = List.range count) :
    Set.BijOn number {item | item ∈ items} {index | index < count} := by
  refine ⟨?_, ?_, ?_⟩
  · intro item hitem
    have hmem := List.mem_map_of_mem (f := number) hitem
    rw [h] at hmem
    exact List.mem_range.mp hmem
  · intro first hfirst second hsecond heq
    have hnodup : (items.map number).Nodup := h ▸ List.nodup_range
    exact List.inj_on_of_nodup_map hnodup hfirst hsecond heq
  · intro index hindex
    have hmem := List.mem_range.mpr hindex
    rw [← h] at hmem
    exact List.mem_map.mp hmem

namespace Layout

/-- How many of some attributes are stored in the storage area of a kind. -/
def inArea (kinds : List (NameId × Kind)) (kind : Kind) : Nat :=
  kinds.countP fun entry => entry.2.isPrimitive = kind.isPrimitive

/-- The attributes that are stored in the storage area of a kind, oldest first. -/
def area (layout : Layout) (kind : Kind) : List (NameId × Location) :=
  layout.attributes.filter fun entry => entry.2.kind.isPrimitive = kind.isPrimitive

namespace Packed

variable {layout other : Layout}

/-- A packed layout is the one that its list of kinds makes. -/
theorem eq_ofKinds (h : layout.Packed) : layout = Layout.ofKinds layout.kinds := by
  induction h with
  | empty => rfl
  | append kind _ _ ih =>
    rw [kinds_append, Layout.ofKinds, List.foldl_concat]
    exact congrArg (Layout.append · _ kind) ih

/-- A storage area has one slot for each attribute that is stored in it. -/
theorem capacity_eq (h : layout.Packed) (kind : Kind) :
    layout.capacity kind = inArea layout.kinds kind := by
  induction h with
  | empty => cases kind <;> rfl
  | append added _ _ ih =>
    rw [capacity_append, ih, inArea, inArea, kinds_append, List.countP_append,
      List.countP_singleton]
    simp

/-- An attribute is stored behind all earlier ones of the same storage area. -/
theorem index_eq (h : layout.Packed) {i : Nat} {entry : NameId × Location}
    (hentry : layout.attributes[i]? = some entry) :
    entry.2.index = inArea (layout.kinds.take i) entry.2.kind := by
  induction h with
  | empty => cases hentry
  | @append layout name kind hpacked _ ih =>
    have hlength : layout.kinds.length = layout.attributes.length := List.length_map ..
    rw [kinds_append]
    rcases Nat.lt_trichotomy i layout.attributes.length with hlt | rfl | hgt
    · rw [List.take_append_of_le_length (by omega)]
      refine ih ?_
      rwa [← List.getElem?_append_left hlt]
    · have hlast : some (name, layout.nextLocation kind) = some entry := by
        rw [← hentry]
        exact List.getElem?_concat_length.symm
      cases hlast
      rw [← hlength, List.take_left, nextLocation_index, nextLocation_kind]
      exact hpacked.capacity_eq kind
    · have hnone : (layout.append name kind).attributes[i]? = none := by
        rw [List.getElem?_eq_none_iff, Layout.append, List.length_append, List.length_singleton]
        omega
      cases hnone.symm.trans hentry

/-- The slots of a storage area are numbered one after the other. -/
theorem map_index_area (h : layout.Packed) (kind : Kind) :
    (layout.area kind).map (·.2.index) = List.range (layout.capacity kind) := by
  induction h with
  | empty => cases kind <;> rfl
  | @append layout name added _ _ ih =>
    rw [area] at ih ⊢
    rw [capacity_append, Layout.append, List.filter_append, List.map_append, ih,
      List.filter_singleton]
    by_cases hsame : added.isPrimitive = kind.isPrimitive
    · rw [if_pos hsame, List.range_succ]
      simp [hsame, capacity]
    · rw [if_neg hsame]
      simp [hsame]

/-- The slots of a storage area are in one-to-one correspondence with the attributes that are
stored in it. -/
theorem bijOn_index (h : layout.Packed) (kind : Kind) :
    Set.BijOn (fun entry => entry.2.index)
      {entry | entry ∈ layout.attributes ∧ entry.2.kind.isPrimitive = kind.isPrimitive}
      {index | index < layout.capacity kind} := by
  have hbij := bijOn_of_map_eq_range (h.map_index_area kind)
  simpa [area] using hbij

end Packed

end Layout

namespace Registry

/-- The layout of every shape that a registry issues is dense and canonical: names are distinct, the
slot of an attribute comes right behind those of the earlier attributes in the same storage area,
the slots of each area are all used, by one attribute each, and every other shape with the same
attributes and kinds has the same layout, whichever registry issued it. -/
theorem layouts_dense {serial : Nat} {registry : Registry} (h : (new serial).Becomes registry)
    {shape : Shape} (hshape : shape ∈ registry.shapes) :
    (shape.layout.attributes.map Prod.fst).Nodup ∧
    (∀ i name location, shape.layout.attributes[i]? = some (name, location) →
      shape.location? name = some location ∧
      location.index = Layout.inArea (shape.layout.kinds.take i) location.kind) ∧
    Set.BijOn (fun entry => entry.2.index)
      {entry | entry ∈ shape.layout.attributes ∧ entry.2.kind.isPrimitive = true}
      {index | index < shape.layout.primitiveCount} ∧
    Set.BijOn (fun entry => entry.2.index)
      {entry | entry ∈ shape.layout.attributes ∧ entry.2.kind.isPrimitive = false}
      {index | index < shape.layout.objectCount} ∧
    shape.layout.slotCount = shape.layout.attributes.length ∧
    ∀ (serial' : Nat) (registry' : Registry), (new serial').Becomes registry' →
      ∀ other ∈ registry'.shapes, other.layout.kinds = shape.layout.kinds →
        other.layout = shape.layout := by
  obtain ⟨_, hwell, _⟩ := h.extends (wellFormed_new serial)
  have hpacked := hwell.packed hshape
  refine ⟨hpacked.nodup, ?_, hpacked.bijOn_index .int, hpacked.bijOn_index .object,
    hpacked.slotCount_eq, ?_⟩
  · intro i name location hentry
    exact ⟨hpacked.location?_of_mem (List.mem_of_getElem? hentry), hpacked.index_eq hentry⟩
  · intro serial' registry' h' other hother hkinds
    obtain ⟨_, hwell', _⟩ := h'.extends (wellFormed_new serial')
    rw [(hwell'.packed hother).eq_ofKinds, hkinds, ← hpacked.eq_ofKinds]

/-- An integer attribute is boxed after a float attribute was added behind it. The float is then in
the first unboxed slot, as if the first attribute had been boxed from the start. -/
theorem layouts_dense_sample :
    let first := ((new 0).ask (new 0).root (.add ⟨0⟩ .int)).1
    let second := (first.ask ⟨0, ⟨1⟩, Layout.ofKinds [(⟨0⟩, .int)]⟩ (.add ⟨1⟩ .float)).1
    let third :=
      (second.ask ⟨0, ⟨2⟩, Layout.ofKinds [(⟨0⟩, .int), (⟨1⟩, .float)]⟩ (.generalize ⟨0⟩)).1
    ∃ shape, third.shape? ⟨3⟩ = some shape ∧ shape.location? ⟨1⟩ = some ⟨.float, 0⟩ ∧
      shape.layout.slotCount = 2 ∧
      Set.BijOn (fun entry => entry.2.index)
        {entry | entry ∈ shape.layout.attributes ∧ entry.2.kind.isPrimitive = true}
        {index | index < 1} := by
  intro first second third
  have hfirst : (new 0).Becomes first := .ask _ .refl (by decide)
  have hsecond : (new 0).Becomes second := .ask _ hfirst (by decide)
  have hthird : (new 0).Becomes third := .ask _ hsecond (by decide)
  have hshape : ⟨0, ⟨3⟩, Layout.ofKinds [(⟨0⟩, .object), (⟨1⟩, .float)]⟩ ∈ third.shapes := by
    decide
  obtain ⟨_, hplaces, hwords, _, hcount, _⟩ := layouts_dense hthird hshape
  exact ⟨_, by decide, (hplaces 1 ⟨1⟩ ⟨.float, 0⟩ (by decide)).1, hcount, hwords⟩

end Registry

end ShapedObjects
