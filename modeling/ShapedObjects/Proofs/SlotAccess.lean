import ShapedObjects.Node
import ShapedObjects.Proofs.Packed

/-!
# Laws of slot access

A load gives what a slot holds, and a store overwrites one slot if the kind of the slot
accepts the value. This file states both for any location within range of an object, so
that nothing further on has to look at words, bits or bounds.
-/

namespace ShapedObjects

/-- Whether slots of a kind can hold a value. -/
def Kind.accepts : Kind → Value → Bool
  | .object, _ => true
  | .int, value => value.asInt?.isSome
  | .float, value => value.asFloat?.isSome
  | .boolean, value => value.asBool?.isSome

/-- The value that a word stands for in an unboxed slot of a kind. -/
def Kind.decode : Kind → UInt64 → Value
  | .int, word => .int word.toInt64
  | .float, word => .float ⟨word⟩
  | .boolean, word => .bool (word != 0)
  | .object, _ => .none

/-- The word that stands for a primitive value in an unboxed slot. -/
def Value.word : Value → UInt64
  | int value => value.toUInt64
  | float value => value.bits
  | bool value => value.toUInt64
  | none | str _ | ref _ => 0

/-- A word gives back the accepted value that it stands for, bit for bit. -/
theorem Kind.decode_word {kind : Kind} {value : Value} (hprimitive : kind.isPrimitive = true)
    (haccepts : kind.accepts value = true) : kind.decode value.word = value := by
  cases kind <;> cases value <;>
    first
    | rfl
    | simp [accepts, isPrimitive, Value.asInt?, Value.asFloat?, Value.asBool?]
        at hprimitive haccepts
  case boolean.bool value => cases value <;> rfl

namespace Object

/-- How many slots an object has in the storage area of a kind. -/
def areaLength (object : Object) (kind : Kind) : Nat :=
  if kind.isPrimitive then object.words.length else object.slots.length

/-- What the slot at a location holds. -/
def valueAt (object : Object) (location : Location) : Value :=
  if location.kind.isPrimitive then location.kind.decode (object.words.getD location.index 0)
  else object.slots.getD location.index .none

/-- The object with the slot at a location overwritten. -/
def overwrite (object : Object) (location : Location) (value : Value) : Object :=
  if location.kind.isPrimitive then
    { object with words := object.words.set location.index value.word }
  else { object with slots := object.slots.set location.index value }

section Overwrite

variable (object : Object) (location : Location) (value : Value)

@[simp] theorem overwrite_shape : (object.overwrite location value).shape = object.shape := by
  unfold overwrite
  split <;> rfl

@[simp] theorem overwrite_words_length :
    (object.overwrite location value).words.length = object.words.length := by
  unfold overwrite
  split <;> simp

@[simp] theorem overwrite_slots_length :
    (object.overwrite location value).slots.length = object.slots.length := by
  unfold overwrite
  split <;> simp

/-- What a slot holds is always accepted by its kind. -/
theorem accepts_valueAt : location.kind.accepts (object.valueAt location) = true := by
  unfold valueAt
  cases location.kind <;> rfl

variable {object location value}

/-- An accepted value is read back from the slot that it was stored in. -/
theorem valueAt_overwrite_self (hrange : location.index < object.areaLength location.kind)
    (haccepts : location.kind.accepts value = true) :
    (object.overwrite location value).valueAt location = value := by
  unfold overwrite valueAt
  unfold areaLength at hrange
  by_cases hprimitive : location.kind.isPrimitive = true
  · rw [if_pos hprimitive] at hrange
    rw [if_pos hprimitive, if_pos hprimitive, List.getD_eq_getElem?_getD,
      List.getElem?_set_self hrange]
    exact Kind.decode_word hprimitive haccepts
  · rw [if_neg hprimitive] at hrange
    rw [if_neg hprimitive, if_neg hprimitive, List.getD_eq_getElem?_getD,
      List.getElem?_set_self hrange]
    rfl

/-- Overwriting a slot leaves what every other slot holds. -/
theorem valueAt_overwrite_of_not_sameSlot {other : Location} (hslot : ¬ location.SameSlot other) :
    (object.overwrite location value).valueAt other = object.valueAt other := by
  unfold overwrite valueAt
  by_cases hprimitive : location.kind.isPrimitive = true
  · rw [if_pos hprimitive]
    by_cases hother : other.kind.isPrimitive = true
    · have hne : location.index ≠ other.index :=
        fun heq => hslot ⟨hprimitive.trans hother.symm, heq⟩
      rw [if_pos hother, if_pos hother, List.getD_eq_getElem?_getD, List.getElem?_set_ne hne,
        List.getD_eq_getElem?_getD]
    · rw [if_neg hother, if_neg hother]
  · rw [if_neg hprimitive]
    by_cases hother : other.kind.isPrimitive = true
    · rw [if_pos hother, if_pos hother]
    · have harea : location.kind.isPrimitive = other.kind.isPrimitive := by
        rw [Bool.not_eq_true] at hprimitive hother
        rw [hprimitive, hother]
      have hne : location.index ≠ other.index := fun heq => hslot ⟨harea, heq⟩
      rw [if_neg hother, if_neg hother, List.getD_eq_getElem?_getD, List.getElem?_set_ne hne,
        List.getD_eq_getElem?_getD]

end Overwrite

section Access

variable {object : Object} {index : Nat}

theorem word_of_lt (h : index < object.words.length) :
    object.word index = .ok (object.words.getD index 0) := by
  rw [word, List.getD_eq_getElem?_getD, List.getElem?_eq_getElem h]
  rfl

theorem slot_of_lt (h : index < object.slots.length) :
    object.slot index = .ok (object.slots.getD index .none) := by
  rw [slot, List.getD_eq_getElem?_getD, List.getElem?_eq_getElem h]
  rfl

end Access

end Object

namespace Location

variable {location : Location} {object : Object}

/-- Within range, a load gives what the slot holds, as the kind of load asks for it. -/
theorem load_of_lt (hrange : location.index < object.areaLength location.kind) (load : Load) :
    location.load object load = .ok (load.view (object.valueAt location)) := by
  obtain ⟨kind, index⟩ := location
  cases kind with
  | object =>
    have hslot := Object.slot_of_lt hrange
    cases load <;> simp only [Location.load, read, readInt, readFloat, readBool, hslot] <;> rfl
  | int | float | boolean =>
    have hword := Object.word_of_lt hrange
    cases load <;> simp only [Location.load, read, readInt, readFloat, readBool, hword] <;> rfl

/-- Within range, the value of a slot is what the slot holds. -/
theorem read_of_lt (hrange : location.index < object.areaLength location.kind) :
    location.read object = .ok (object.valueAt location) := by
  have hload := load_of_lt hrange .boxed
  cases hread : location.read object with
  | error fault => rw [load, hread] at hload; cases hload
  | ok value =>
    rw [load, hread] at hload
    cases hload
    rfl

/-- Within range, an accepted value is stored by overwriting the slot. -/
theorem write_of_accepts (hrange : location.index < object.areaLength location.kind)
    {value : Value} (haccepts : location.kind.accepts value = true) :
    location.write object value = .stored (object.overwrite location value) := by
  obtain ⟨kind, index⟩ := location
  cases kind with
  | object => exact if_pos hrange
  | int | float | boolean =>
    cases value <;> first | exact if_pos hrange | cases haccepts

/-- A value that the kind of a slot does not accept is handed back. -/
theorem write_of_not_accepts {value : Value} (haccepts : location.kind.accepts value = false) :
    location.write object value = .rejected ⟨location, value⟩ := by
  obtain ⟨kind, index⟩ := location
  cases kind <;> cases value <;> first | rfl | cases haccepts

end Location

/-- Whether a store goes into slots of a kind as it is. A boolean that is stored as one also
goes into an integer slot. -/
def Write.fits : Write → Kind → Bool
  | .bool _, .int => true
  | write, kind => kind.accepts write.value

/-- The value that a store leaves in a slot that it goes into. A boolean that is stored as one
becomes 0 or 1 in an integer slot, and all else is kept as it is. -/
def Write.stored : Write → Kind → Value
  | .bool value, .int => .int (if value then 1 else 0)
  | write, _ => write.value

/-- The kind of slot that a store asks for where there is none yet: the one of its primitive, or the
boxed one for any other value. -/
def Write.newKind : Write → Kind
  | .int _ | .boxed (.int _) => .int
  | .float _ | .boxed (.float _) => .float
  | .bool _ | .boxed (.bool _) => .boolean
  | .boxed .none | .boxed (.str _) | .boxed (.ref _) => .object

/-- A new attribute gets the kind of slot that its first store asks for. -/
theorem Write.initialKind_eq (write : Write) : write.initialKind = write.newKind := by
  cases write with
  | boxed value => cases value <;> rfl
  | int _ | float _ | bool _ => rfl

/-- A store fits a kind exactly if the kind accepts the value that the store would leave. -/
theorem Write.accepts_stored (write : Write) (kind : Kind) :
    kind.accepts (write.stored kind) = write.fits kind := by
  cases write <;> cases kind <;> rfl

/-- A store into a boxed slot always fits and keeps its value. -/
@[simp] theorem Write.fits_object (write : Write) : write.fits .object = true := by
  cases write <;> rfl

@[simp] theorem Write.stored_object (write : Write) : write.stored .object = write.value := by
  cases write <;> rfl

/-- The kind that a new attribute gets from its first store fits that store. -/
theorem Write.fits_initialKind (write : Write) : write.fits write.initialKind = true := by
  cases write with
  | boxed value => cases value <;> rfl
  | int _ | float _ | bool _ => rfl

namespace WriteNode

variable {node : WriteNode} {object : Object} {write : Write}

/-- A node writes the value that the store leaves in a slot of the node's kind. -/
theorem store_eq_write (node : WriteNode) (object : Object) (write : Write) :
    node.store object write = node.location.write object (write.stored node.kind) := by
  obtain ⟨kind, index⟩ := node
  cases write with
  | boxed _ => rfl
  | int _ | float _ | bool _ => cases kind <;> rfl

/-- Within range, a store that fits the node's kind overwrites the slot. -/
theorem store_of_fits (hrange : node.location.index < object.areaLength node.location.kind)
    (hfits : write.fits node.kind = true) :
    node.store object write =
      .stored (object.overwrite node.location (write.stored node.kind)) := by
  rw [store_eq_write]
  exact Location.write_of_accepts hrange (by rw [← hfits, ← write.accepts_stored]; rfl)

/-- A store that does not fit the node's kind hands its value back. -/
theorem store_of_not_fits (hfits : write.fits node.kind = false) :
    node.store object write = .rejected ⟨node.location, write.value⟩ := by
  have hstored : write.stored node.kind = write.value := by
    cases write with
    | bool _ => cases hkind : node.kind <;> simp_all [Write.fits, Write.stored]
    | boxed _ | int _ | float _ => rfl
  rw [store_eq_write, hstored]
  refine Location.write_of_not_accepts ?_
  rw [← hfits, ← write.accepts_stored, hstored]
  rfl

end WriteNode

end ShapedObjects
