import ShapedObjects.Object.Attributes
import ShapedObjects.Proofs.SlotAccess

/-!
# The contents of an object

An object whose storage areas have the lengths that its layout declares can be read
without a fault. What is read is its contents: the list of its attributes with their
values. Storing a value that fits assigns it in that list and changes nothing else.
-/

namespace ShapedObjects

namespace Object

/-- All attributes with what their slots hold, oldest first. -/
def contents (object : Object) : List (NameId × Value) :=
  object.shape.layout.attributes.map fun entry => (entry.1, object.valueAt entry.2)

/-- An object on a packed layout that has exactly the slots which the layout declares. -/
structure Sized (object : Object) : Prop where
  /-- The slots of the layout are dense and distinct. -/
  packed : object.shape.layout.Packed
  /-- There is a word for every unboxed slot and no other. -/
  words : object.words.length = object.shape.layout.primitiveCount
  /-- There is a value for every boxed slot and no other. -/
  slots : object.slots.length = object.shape.layout.objectCount

/-- A sized object whose boolean slots hold the word of a boolean. -/
structure WellFormed (object : Object) : Prop extends object.Sized where
  /-- Every boolean word is 0 or 1. -/
  booleans : ∀ entry ∈ object.shape.layout.attributes, entry.2.kind = .boolean →
    object.words[entry.2.index]? = some 0 ∨ object.words[entry.2.index]? = some 1

/-- The contents are listed under the names of the layout. -/
@[simp] theorem map_fst_contents (object : Object) :
    object.contents.map Prod.fst = object.shape.layout.attributes.map Prod.fst := by
  simp [contents]

/-- The contents hold under a name what the slot of that name holds. -/
theorem lookup_contents (object : Object) (name : NameId) :
    object.contents.lookup name = (object.shape.location? name).map object.valueAt :=
  lookup_map object.valueAt

namespace Sized

variable {object : Object}

/-- The storage areas are as long as the layout says. -/
theorem areaLength_eq (h : object.Sized) (kind : Kind) :
    object.areaLength kind = object.shape.layout.capacity kind := by
  rw [areaLength, Layout.capacity, h.words, h.slots]

/-- Every slot of the layout is within range. -/
theorem index_lt (h : object.Sized) {entry : NameId × Location}
    (hmem : entry ∈ object.shape.layout.attributes) :
    entry.2.index < object.areaLength entry.2.kind := by
  rw [h.areaLength_eq]
  exact h.packed.index_lt hmem

/-- The slot of an attribute is within range. -/
theorem index_lt_of_location? (h : object.Sized) {name : NameId} {location : Location}
    (hlocation : object.shape.location? name = some location) :
    location.index < object.areaLength location.kind :=
  h.index_lt (mem_of_lookup hlocation)

/-- All attributes can be read, and reading gives the contents. -/
theorem entries_eq (h : object.Sized) : object.entries = .ok object.contents := by
  -- Each entry is within range, which the rest of the list inherits.
  suffices hall : ∀ attributes : List (NameId × Location),
      (∀ entry ∈ attributes, entry.2.index < object.areaLength entry.2.kind) →
      (attributes.mapM fun entry =>
        (entry.2.read object).map fun value => (entry.1, value)) =
        .ok (attributes.map fun entry => (entry.1, object.valueAt entry.2)) from
    hall _ fun entry hmem => h.index_lt hmem
  intro attributes hrange
  induction attributes with
  | nil => rfl
  | cons entry attributes ih =>
    have hread := Location.read_of_lt (hrange entry List.mem_cons_self)
    have hrest := ih fun other hother => hrange other (List.mem_cons_of_mem _ hother)
    rw [List.mapM_cons, hread, hrest]
    rfl

/-- One attribute can be read, and reading gives its value in the contents. -/
theorem get_eq (h : object.Sized) (name : NameId) :
    object.get name = .ok (object.contents.lookup name) := by
  rw [Object.get, lookup_contents]
  cases hlocation : object.shape.location? name with
  | none => rfl
  | some location =>
    have hread := Location.read_of_lt (h.index_lt_of_location? hlocation)
    simp only [hread]
    rfl

/-- Overwriting a slot keeps the lengths of the storage areas. -/
theorem overwrite (h : object.Sized) (location : Location) (value : Value) :
    (object.overwrite location value).Sized where
  packed := by simpa using h.packed
  words := by simpa using h.words
  slots := by simpa using h.slots

/-- Overwriting the slot of an attribute with an accepted value assigns that value in the
contents. No other attribute has that slot, so nothing else changes. -/
theorem contents_overwrite (h : object.Sized) {name : NameId} {location : Location}
    {value : Value} (hlocation : object.shape.location? name = some location)
    (haccepts : location.kind.accepts value = true) :
    (object.overwrite location value).contents = assign object.contents name value := by
  have hmem := mem_of_lookup hlocation
  have hname : name ∈ object.contents.map Prod.fst := by
    rw [map_fst_contents]
    exact List.mem_map.mpr ⟨_, hmem, rfl⟩
  have hnodup : (object.contents.map Prod.fst).Nodup := by
    rw [map_fst_contents]
    exact h.packed.nodup
  rw [assign_eq_map _ _ _ hname hnodup, contents, contents, overwrite_shape, List.map_map]
  refine List.map_congr_left fun entry hentry => ?_
  rw [Function.comp_apply]
  by_cases heq : entry.1 = name
  · have hfound := h.packed.location?_of_mem hentry
    have hslot : entry.2 = location := by
      rw [heq, show object.shape.layout.location? name = some location from hlocation] at hfound
      exact (Option.some.inj hfound).symm
    rw [if_pos heq, hslot,
      valueAt_overwrite_self (h.index_lt_of_location? hlocation) haccepts]
  · have hslot : ¬ location.SameSlot entry.2 :=
      fun hsame => heq (congrArg Prod.fst (h.packed.eq_of_sameSlot hmem hentry hsame)).symm
    rw [if_neg heq, valueAt_overwrite_of_not_sameSlot hslot]

end Sized

/-- The words of booleans are 0 and 1. -/
theorem word_bool (value : Bool) :
    (Value.bool value).word = 0 ∨ (Value.bool value).word = 1 := by
  cases value
  · exact Or.inl rfl
  · exact Or.inr rfl

/-- Overwriting the slot of an attribute with an accepted value keeps an object well-formed. -/
theorem WellFormed.overwrite {object : Object} (h : object.WellFormed) {name : NameId}
    {location : Location} {value : Value}
    (hlocation : object.shape.location? name = some location)
    (haccepts : location.kind.accepts value = true) :
    (object.overwrite location value).WellFormed where
  toSized := h.toSized.overwrite location value
  booleans := by
    rw [overwrite_shape]
    intro entry hentry hkind
    have hmem := mem_of_lookup hlocation
    unfold Object.overwrite
    by_cases hprimitive : location.kind.isPrimitive = true
    · rw [if_pos hprimitive]
      by_cases hindex : location.index = entry.2.index
      · have hslot : location.SameSlot entry.2 := ⟨by rw [hprimitive, hkind]; rfl, hindex⟩
        have hentry_eq := h.packed.eq_of_sameSlot hmem hentry hslot
        have hrange := h.toSized.index_lt_of_location? hlocation
        rw [areaLength, if_pos hprimitive, hindex] at hrange
        have hboolean : location.kind = .boolean := by rw [← hkind, ← hentry_eq]
        rw [hboolean] at haccepts
        rw [hindex, List.getElem?_set_self hrange, Option.some.injEq, Option.some.injEq]
        cases value with
        | bool value => exact word_bool value
        | _ => cases haccepts
      · rw [List.getElem?_set_ne hindex]
        exact h.booleans entry hentry hkind
    · rw [if_neg hprimitive]
      exact h.booleans entry hentry hkind

end Object

end ShapedObjects
