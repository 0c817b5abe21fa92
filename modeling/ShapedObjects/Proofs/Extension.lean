import ShapedObjects.Proofs.Relocation
import ShapedObjects.Proofs.SharedLayouts

/-!
# Objects that gain slots

To extend an object is to cut or pad both of its storage areas to the lengths that a shape
declares, without a look at its attributes. If the shape keeps the slots of all attributes,
nothing is cut off, and no new attribute finds an old value in its slot: the slots of a shape
are dense, so the slots that the larger shape has more lie behind all those that the object had.
-/

namespace ShapedObjects

/-- What a slot of a kind holds before anything is stored in it. The float is the positive zero. -/
def Kind.unset : Kind → Value
  | object => .none
  | int => .int 0
  | float => .float ⟨0⟩
  | boolean => .bool false

/-- A new word stands for the unset value of every primitive kind. -/
theorem Kind.decode_zero {kind : Kind} (hprimitive : kind.isPrimitive = true) :
    kind.decode 0 = kind.unset := by
  cases kind with
  | object => cases hprimitive
  | int | float | boolean => rfl

section Resize

variable {α : Type} {items : List α} {length : Nat}

/-- A list that is padded keeps what it held. -/
theorem prefix_resize (h : items.length ≤ length) (filler : α) :
    items <+: resize items length filler := by
  rw [resize, List.take_of_length_le h]
  apply List.prefix_append

/-- A list that was padded can be resized as if it had not been. -/
theorem resize_resize (h : items.length ≤ length) (further : Nat) (filler : α) :
    resize (resize items length filler) further filler = resize items further filler := by
  apply List.ext_getElem?
  intro index
  by_cases hindex : index < further
  · rw [getElem?_resize _ _ _ hindex, getElem?_resize _ _ _ hindex, List.getD_eq_getElem?_getD]
    by_cases hold : index < length
    · rw [getElem?_resize _ _ _ hold, Option.getD_some]
    · rw [List.getElem?_eq_none (by rw [length_resize]; omega), List.getD_eq_getElem?_getD,
        List.getElem?_eq_none (by omega)]
  · rw [List.getElem?_eq_none (by rw [length_resize]; omega),
      List.getElem?_eq_none (by rw [length_resize]; omega)]

end Resize

namespace Layout

/-- Every attribute of a layout has the same slot in a larger one. -/
def KeptBy (layout larger : Layout) : Prop :=
  ∀ name location, layout.location? name = some location → larger.location? name = some location

/-- Kinds of one storage area find the same number of slots. -/
theorem capacity_congr (layout : Layout) {kind other : Kind}
    (harea : kind.isPrimitive = other.isPrimitive) :
    layout.capacity kind = layout.capacity other := by
  rw [capacity, capacity, harea]

/-- Every slot of a storage area belongs to an attribute, which a larger layout has in that very
slot. -/
theorem KeptBy.exists_kept {layout larger : Layout} (hkept : layout.KeptBy larger)
    (h : layout.Packed) {kind : Kind} {index : Nat} (hindex : index < layout.capacity kind) :
    ∃ name location, layout.location? name = some location ∧
      (name, location) ∈ larger.attributes ∧
      location.kind.isPrimitive = kind.isPrimitive ∧ location.index = index := by
  obtain ⟨⟨name, location⟩, ⟨hentry, harea⟩, hplace⟩ := (h.bijOn_index kind).surjOn hindex
  have hlocation : layout.location? name = some location := h.location?_of_mem hentry
  exact ⟨name, location, hlocation, mem_of_lookup (hkept name location hlocation), harea, hplace⟩

/-- A layout keeps the slots of all attributes when one is appended. -/
theorem keptBy_append (layout : Layout) (name : NameId) (kind : Kind) :
    layout.KeptBy (layout.append name kind) := by
  intro other location hlocation
  have hlookup : layout.attributes.lookup other = some location := hlocation
  rw [location?, append, List.lookup_append, hlookup, Option.some_or]

section KeptBy

variable {layout larger : Layout} (h : layout.Packed) (hlarger : larger.Packed)
  (hkept : layout.KeptBy larger)

include h hlarger hkept

/-- A layout that keeps all slots has at least as many of them in each storage area: it keeps the
last one. -/
theorem KeptBy.capacity_le (kind : Kind) : layout.capacity kind ≤ larger.capacity kind := by
  by_contra hless
  have hmore : larger.capacity kind < layout.capacity kind := by omega
  obtain ⟨name, location, _, hmem, harea, hplace⟩ := hkept.exists_kept h hmore
  have hrange : location.index < larger.capacity location.kind := hlarger.index_lt hmem
  rw [larger.capacity_congr harea] at hrange
  omega

/-- A new attribute is stored behind all slots that are kept, since each of those has its
attribute already. -/
theorem KeptBy.capacity_le_index {name : NameId} {location : Location}
    (habsent : layout.location? name = none) (hnew : larger.location? name = some location) :
    layout.capacity location.kind ≤ location.index := by
  by_contra hless
  have hold : location.index < layout.capacity location.kind := by omega
  obtain ⟨owner, slot, howner, hmem, harea, hplace⟩ := hkept.exists_kept h hold
  have hsame := hlarger.eq_of_sameSlot hmem (mem_of_lookup hnew) ⟨harea, hplace⟩
  cases hsame
  cases habsent.symm.trans howner

end KeptBy

end Layout

namespace Object

variable {object : Object} {shape : Shape}

/-- Behind the end of a storage area there are only unset values. -/
theorem valueAt_of_le {location : Location}
    (hbehind : object.areaLength location.kind ≤ location.index) :
    object.valueAt location = location.kind.unset := by
  unfold valueAt
  unfold areaLength at hbehind
  by_cases hprimitive : location.kind.isPrimitive = true
  · rw [if_pos hprimitive] at hbehind ⊢
    rw [List.getD_eq_getElem?_getD, List.getElem?_eq_none hbehind]
    exact Kind.decode_zero hprimitive
  · rw [if_neg hprimitive] at hbehind ⊢
    have hobject : location.kind = .object := by
      by_contra hne
      exact hprimitive (Kind.isPrimitive_iff.mpr hne)
    rw [List.getD_eq_getElem?_getD, List.getElem?_eq_none hbehind, hobject]
    rfl

namespace Sized

variable (h : object.Sized) (hpacked : shape.layout.Packed)
  (hkept : object.shape.layout.KeptBy shape.layout)

include h hpacked hkept

/-- On a shape that keeps all slots no storage area is shorter. -/
theorem areaLength_le (kind : Kind) : object.areaLength kind ≤ shape.layout.capacity kind := by
  rw [h.areaLength_eq]
  exact hkept.capacity_le h.packed hpacked kind

/-- An extended object holds what it held, and the unset value in each new attribute. -/
theorem lookup_extend (name : NameId) :
    (object.extend shape).contents.lookup name =
      (object.contents.lookup name).or
        ((shape.location? name).map fun location => location.kind.unset) := by
  rw [lookup_contents, lookup_contents]
  change (shape.location? name).map _ = _
  cases hlocation : object.shape.location? name with
  | some location =>
    have hnew : shape.location? name = some location := hkept name location hlocation
    have hrange := hpacked.index_lt (mem_of_lookup hnew)
    rw [hnew, Option.map_some, Option.map_some, valueAt_extend hrange, Option.some_or]
  | none =>
    cases hnew : shape.location? name with
    | none => rfl
    | some location =>
      have hrange := hpacked.index_lt (mem_of_lookup hnew)
      have hbehind := hkept.capacity_le_index h.packed hpacked hlocation hnew
      rw [← h.areaLength_eq] at hbehind
      rw [Option.map_some, valueAt_extend hrange, valueAt_of_le hbehind]
      rfl

/-- An object that was extended goes on to a further shape as if it had gone there at once. -/
theorem extend_extend (further : Shape) :
    (object.extend shape).extend further = object.extend further := by
  have hwords := resize_resize (h.areaLength_le hpacked hkept .int)
    further.layout.primitiveCount 0
  have hslots := resize_resize (h.areaLength_le hpacked hkept .object)
    further.layout.objectCount .none
  simp only [extend, Object.mk.injEq, true_and]
  exact ⟨hwords, hslots⟩

end Sized

/-- An object that has the slots which its shape declares, whatever they hold, may be extended to
every shape of the registry that keeps the slots of its attributes. Both storage areas keep all that
they held and get the lengths that the new shape declares. The attributes of the object have the
values that they had, and new ones have the unset value of their kind. Extending on to a further
shape comes to the same as extending to it at once. -/
theorem extension_keeps_storage {serial : Nat} {registry : Registry}
    (h : (Registry.new serial).Becomes registry) (hissued : object.shape ∈ registry.shapes)
    (hwords : object.words.length = object.shape.layout.primitiveCount)
    (hslots : object.slots.length = object.shape.layout.objectCount)
    (hshape : shape ∈ registry.shapes) (hkept : object.shape.layout.KeptBy shape.layout) :
    object.words <+: (object.extend shape).words ∧
    object.slots <+: (object.extend shape).slots ∧
    (∀ name location, object.shape.location? name = some location →
      ∃ value, object.get name = .ok (some value) ∧
        (object.extend shape).get name = .ok (some value)) ∧
    (∀ name location, object.shape.location? name = none →
      shape.location? name = some location →
      (object.extend shape).get name = .ok (some location.kind.unset)) ∧
    (object.extend shape).shape = shape ∧
    (object.extend shape).words.length = shape.layout.primitiveCount ∧
    (object.extend shape).slots.length = shape.layout.objectCount ∧
    ∀ further, (object.extend shape).extend further = object.extend further := by
  have hwell := h.wellFormed
  have hsized : object.Sized := ⟨hwell.packed hissued, hwords, hslots⟩
  have hpacked := hwell.packed hshape
  have hextended := object.sized_extend hpacked
  have hlookup := hsized.lookup_extend hpacked hkept
  refine ⟨prefix_resize (hsized.areaLength_le hpacked hkept .int) 0,
    prefix_resize (hsized.areaLength_le hpacked hkept .object) .none, ?_, ?_, rfl,
    hextended.words, hextended.slots, hsized.extend_extend hpacked hkept⟩
  · intro name location hlocation
    refine ⟨object.valueAt location, ?_, ?_⟩
    · rw [hsized.get_eq, lookup_contents, hlocation]
      rfl
    · rw [hextended.get_eq, hlookup, lookup_contents, hlocation]
      rfl
  · intro name location habsent hnew
    rw [hextended.get_eq, hlookup, lookup_contents, habsent, hnew]
    rfl

/-- An integer attribute and a boxed one were added, and in another order the same two with a float
and a boolean behind them. All slots are kept, although the attributes are listed otherwise. -/
theorem extension_keeps_storage_reordered :
    let registry := (Registry.new 0).asks [(⟨0⟩, .add ⟨0⟩ .int), (⟨1⟩, .add ⟨1⟩ .object),
      (⟨0⟩, .add ⟨1⟩ .object), (⟨3⟩, .add ⟨0⟩ .int), (⟨4⟩, .add ⟨2⟩ .float),
      (⟨5⟩, .add ⟨3⟩ .boolean)]
    let object : Object :=
      ⟨⟨0, ⟨2⟩, Layout.ofKinds [(⟨0⟩, .int), (⟨1⟩, .object)]⟩, [7], [.str "a"]⟩
    let shape : Shape := ⟨0, ⟨6⟩,
      Layout.ofKinds [(⟨1⟩, .object), (⟨0⟩, .int), (⟨2⟩, .float), (⟨3⟩, .boolean)]⟩
    shape ∈ registry.shapes ∧ object.words <+: (object.extend shape).words ∧
      (object.extend shape).words.length = 3 ∧
      (object.extend shape).get ⟨2⟩ = .ok (some (.float ⟨0⟩)) := by
  intro registry object shape
  have hbecomes : (Registry.new 0).Becomes registry := Registry.Becomes.refl.asks _
  have hissued : object.shape ∈ registry.shapes := by decide
  have hshape : shape ∈ registry.shapes := by decide
  have hkept : object.shape.layout.KeptBy shape.layout := by
    intro name location hlocation
    have hentry := mem_of_lookup hlocation
    have hall : ∀ entry ∈ object.shape.layout.attributes,
        shape.layout.location? entry.1 = some entry.2 := by decide
    exact hall _ hentry
  obtain ⟨hwords, _, _, hnew, _, hlength, _⟩ :=
    extension_keeps_storage hbecomes hissued rfl rfl hshape hkept
  exact ⟨hshape, hwords, hlength, hnew ⟨2⟩ ⟨.float, 1⟩ (by decide) (by decide)⟩

end Object

end ShapedObjects
