import ShapedObjects.Proofs.SlotAccess

/-!
# What a slot takes and gives

A slot takes the values of one type, or all values if it is boxed, and gives back what it took. This
holds of every location that an object has, whether or not it is one of the object's shape, and
nothing but that slot changes. The stores and loads of primitives, and those of the nodes, are other
ways to the same: each does what the store of the boxed value or the view of the loaded value does.
Only the store of a boolean through a node for an integer slot is an exception.
-/

namespace ShapedObjects

/-- The type of the values in unboxed slots of a kind. -/
def Kind.type? : Kind → Option ValueType
  | object => none
  | int => some .int
  | float => some .float
  | boolean => some .bool

/-- Whether a value may be in slots of a kind: the kind is the boxed one, or the value's type is
exactly the type of the kind. -/
def Kind.Holds (kind : Kind) (value : Value) : Prop :=
  kind = .object ∨ kind.type? = some value.type

/-- A kind accepts the values that its slots may hold. -/
theorem Kind.accepts_iff (kind : Kind) (value : Value) :
    kind.accepts value = true ↔ kind.Holds value := by
  cases kind <;> cases value <;>
    simp [accepts, Holds, type?, Value.type, Value.asInt?, Value.asFloat?, Value.asBool?]

/-- Two objects are the same up to what the slot at a location holds. -/
structure Object.SameBut (location : Location) (object changed : Object) : Prop where
  /-- They are on one shape. -/
  shape : changed.shape = object.shape
  /-- They have the same number of words. -/
  wordCount : changed.words.length = object.words.length
  /-- They have the same number of boxed slots. -/
  slotCount : changed.slots.length = object.slots.length
  /-- All words agree but the one at the location, if it is one of a word. -/
  words : ∀ index, (location.kind.isPrimitive = true → index ≠ location.index) →
    changed.words[index]? = object.words[index]?
  /-- All boxed slots agree but the one at the location, if it is one of a boxed slot. -/
  slots : ∀ index, (location.kind.isPrimitive = false → index ≠ location.index) →
    changed.slots[index]? = object.slots[index]?

/-- Overwriting a slot changes nothing else. -/
theorem Object.sameBut_overwrite (object : Object) (location : Location) (value : Value) :
    object.SameBut location (object.overwrite location value) := by
  refine ⟨overwrite_shape _ _ _, overwrite_words_length _ _ _, overwrite_slots_length _ _ _,
    ?_, ?_⟩
  · intro index hother
    unfold overwrite
    by_cases hprimitive : location.kind.isPrimitive = true
    · rw [if_pos hprimitive]
      exact List.getElem?_set_ne (hother hprimitive).symm
    · rw [if_neg hprimitive]
  · intro index hother
    unfold overwrite
    by_cases hprimitive : location.kind.isPrimitive = true
    · rw [if_pos hprimitive]
    · rw [if_neg hprimitive]
      exact List.getElem?_set_ne (hother (by simpa using hprimitive)).symm

namespace Location

variable {location : Location} {object : Object}

/-- Within range, a slot that was overwritten with a value that it may hold gives it back. -/
theorem read_overwrite (hrange : location.index < object.areaLength location.kind) {value : Value}
    (hholds : location.kind.Holds value) :
    location.read (object.overwrite location value) = .ok value := by
  have haccepts := (Kind.accepts_iff _ _).mpr hholds
  have hrange' :
      location.index < (object.overwrite location value).areaLength location.kind := by
    simpa [Object.areaLength] using hrange
  rw [read_of_lt hrange', Object.valueAt_overwrite_self hrange haccepts]

/-- Within range, a slot takes a value that it may hold. -/
theorem exists_write (hrange : location.index < object.areaLength location.kind) {value : Value}
    (hholds : location.kind.Holds value) :
    ∃ changed, location.write object value = .stored changed ∧
      location.read changed = .ok value ∧ object.SameBut location changed := by
  have hwrite := write_of_accepts hrange ((Kind.accepts_iff _ _).mpr hholds)
  exact ⟨_, hwrite, read_overwrite hrange hholds, object.sameBut_overwrite location value⟩

/-- A slot hands back every value that it may not hold, even beyond the range of the object. -/
theorem write_of_not_holds {value : Value} (hholds : ¬ location.kind.Holds value) :
    location.write object value = .rejected ⟨location, value⟩ := by
  apply write_of_not_accepts
  rw [← Bool.not_eq_true, Kind.accepts_iff]
  exact hholds

/-- Storing a primitive is storing its boxed value. -/
theorem store_eq_write (location : Location) (object : Object) (write : Write) :
    location.store object write = location.write object write.value := by
  obtain ⟨kind, index⟩ := location
  cases write with
  | boxed _ => rfl
  | int _ | float _ | bool _ => cases kind <;> rfl

end Location

/-- A store that is not of a boolean into an integer slot keeps its value. -/
theorem Write.stored_of_ne {write : Write} {kind : Kind}
    (hnot : kind ≠ .int ∨ ∀ value, write ≠ .bool value) : write.stored kind = write.value := by
  cases write with
  | boxed _ | int _ | float _ => rfl
  | bool value =>
    cases kind with
    | int => simp at hnot
    | object | float | boolean => rfl

/-- A location of an object, which need not be one of the object's shape, takes exactly the values
that it may hold, gives back the one that it took last, and leaves all else as it is; every other
value is handed back. The stores of primitives, and those of a node for the location, have the
result of storing the boxed value, also beyond the range of the object, except that a node for an
integer slot stores a boolean as 0 or 1. All loads, and those of a node, are views of the value that
is read. -/
theorem slot_access_lawful (location : Location) (object : Object) :
    (location.index < object.areaLength location.kind →
      (∀ value, location.kind.Holds value →
        ∃ changed, location.write object value = .stored changed ∧
          location.read changed = .ok value ∧ object.SameBut location changed) ∧
      ∃ held, location.read object = .ok held ∧
        ∀ load, location.load object load = .ok (load.view held) ∧
          ReadNode.load ⟨location⟩ object load = .ok (load.view held)) ∧
    (∀ value, ¬ location.kind.Holds value →
      location.write object value = .rejected ⟨location, value⟩) ∧
    (∀ write, location.store object write = location.write object write.value) ∧
    (∀ write, (location.kind ≠ .int ∨ ∀ value, write ≠ .bool value) →
      WriteNode.store ⟨location⟩ object write = location.write object write.value) ∧
    (location.kind = .int → ∀ value, WriteNode.store ⟨location⟩ object (.bool value) =
      location.writeInt object (if value then 1 else 0)) := by
  refine ⟨?_, ?_, location.store_eq_write object, ?_, ?_⟩
  · intro hrange
    constructor
    · intro value hholds
      exact Location.exists_write hrange hholds
    · refine ⟨object.valueAt location, Location.read_of_lt hrange, ?_⟩
      intro load
      have hload := Location.load_of_lt hrange load
      exact ⟨hload, hload⟩
  · intro value hholds
    exact Location.write_of_not_holds hholds
  · intro write hnot
    rw [WriteNode.store_eq_write]
    change location.write object (write.stored location.kind) = _
    rw [Write.stored_of_ne hnot]
  · intro hkind value
    simp only [WriteNode.store, WriteNode.kind, hkind]

/-- A float slot beside an integer takes a signalling not-a-number and gives back its bits. It hands
back an integer, whether that is stored as one or in a box. -/
theorem slot_access_lawful_float :
    let location : Location := ⟨.float, 1⟩
    let object : Object := ⟨⟨0, ⟨0⟩, Layout.empty⟩, [5, 6], [.str "a"]⟩
    let value : Value := .float ⟨0x7ff0000000000001⟩
    (∃ changed, location.write object value = .stored changed ∧
      location.read changed = .ok value ∧ object.SameBut location changed) ∧
    location.writeInt object 3 = .rejected ⟨location, .int 3⟩ ∧
    WriteNode.store ⟨location⟩ object (.int 3) = .rejected ⟨location, .int 3⟩ := by
  intro location object value
  obtain ⟨hrange, hrefuses, hstore, hnode, _⟩ := slot_access_lawful location object
  have hrefused : location.write object (.int 3) = .rejected ⟨location, .int 3⟩ :=
    hrefuses (.int 3) (by simp [Kind.Holds, Kind.type?, Value.type, location])
  refine ⟨(hrange (by decide)).1 value (Or.inr rfl), ?_, ?_⟩
  · exact (hstore (.int 3)).trans hrefused
  · exact (hnode (.int 3) (Or.inl (by decide))).trans hrefused

end ShapedObjects
