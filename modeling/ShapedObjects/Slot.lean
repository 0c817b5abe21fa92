import ShapedObjects.Access
import ShapedObjects.Fault

/-!
# Storing and loading through a location

A location accepts the values of its kind. A store of any other value is refused
before the index is looked at, and hands the value back so that the caller can
retry it on a boxed slot. A primitive word is read as what the location says it
is, whatever was stored in it.
-/

namespace ShapedObjects

namespace Object

/-- The word at an index. -/
def word (object : Object) (index : Nat) : Except Fault UInt64 :=
  match object.words[index]? with
  | some word => .ok word
  | none => .error .indexOutOfBounds

/-- The boxed slot at an index. -/
def slot (object : Object) (index : Nat) : Except Fault Value :=
  match object.slots[index]? with
  | some value => .ok value
  | none => .error .indexOutOfBounds

/-- Stores a word. -/
def storeWord (object : Object) (index : Nat) (word : UInt64) : WriteResult :=
  if index < object.words.length then
    .stored { object with words := object.words.set index word }
  else .outOfBounds

/-- Stores a boxed value. -/
def storeSlot (object : Object) (index : Nat) (value : Value) : WriteResult :=
  if index < object.slots.length then
    .stored { object with slots := object.slots.set index value }
  else .outOfBounds

end Object

namespace Location

/-- Stores an integer. -/
def writeInt (location : Location) (object : Object) (value : Int64) : WriteResult :=
  match location.kind with
  | .int => object.storeWord location.index value.toUInt64
  | .object => object.storeSlot location.index (.int value)
  | .float | .boolean => .rejected ⟨location, .int value⟩

/-- Stores a float. -/
def writeFloat (location : Location) (object : Object) (value : Double) : WriteResult :=
  match location.kind with
  | .float => object.storeWord location.index value.bits
  | .object => object.storeSlot location.index (.float value)
  | .int | .boolean => .rejected ⟨location, .float value⟩

/-- Stores a boolean, in a word as 0 or 1. -/
def writeBool (location : Location) (object : Object) (value : Bool) : WriteResult :=
  match location.kind with
  | .boolean => object.storeWord location.index value.toUInt64
  | .object => object.storeSlot location.index (.bool value)
  | .int | .float => .rejected ⟨location, .bool value⟩

/-- Stores a value if its type is exactly the one of the slot. -/
def write (location : Location) (object : Object) (value : Value) : WriteResult :=
  match location.kind, value with
  | .object, value => object.storeSlot location.index value
  | .int, .int value => location.writeInt object value
  | .float, .float value => location.writeFloat object value
  | .boolean, .bool value => location.writeBool object value
  | .int, value | .float, value | .boolean, value => .rejected ⟨location, value⟩

/-- Stores as asked for. -/
def store (location : Location) (object : Object) : Write → WriteResult
  | .boxed value => location.write object value
  | .int value => location.writeInt object value
  | .float value => location.writeFloat object value
  | .bool value => location.writeBool object value

/-- Loads the value of a slot. -/
def read (location : Location) (object : Object) : Except Fault Value :=
  match location.kind with
  | .object => object.slot location.index
  | .int => (object.word location.index).map fun word => .int word.toInt64
  | .float => (object.word location.index).map fun word => .float ⟨word⟩
  | .boolean => (object.word location.index).map fun word => .bool (word != 0)

/-- Loads an integer. A slot of another primitive kind is not looked at. -/
def readInt (location : Location) (object : Object) : Except Fault (Option Int64) :=
  match location.kind with
  | .int => (object.word location.index).map fun word => some word.toInt64
  | .object => (object.slot location.index).map Value.asInt?
  | .float | .boolean => .ok none

/-- Loads a float. A slot of another primitive kind is not looked at. -/
def readFloat (location : Location) (object : Object) : Except Fault (Option Double) :=
  match location.kind with
  | .float => (object.word location.index).map fun word => some ⟨word⟩
  | .object => (object.slot location.index).map Value.asFloat?
  | .int | .boolean => .ok none

/-- Loads a boolean. A slot of another primitive kind is not looked at. -/
def readBool (location : Location) (object : Object) : Except Fault (Option Bool) :=
  match location.kind with
  | .boolean => (object.word location.index).map fun word => some (word != 0)
  | .object => (object.slot location.index).map Value.asBool?
  | .int | .float => .ok none

/-- Loads as asked for. -/
def load (location : Location) (object : Object) : Load → Except Fault Loaded
  | .boxed => (location.read object).map .boxed
  | .int => (location.readInt object).map .int
  | .float => (location.readFloat object).map .float
  | .bool => (location.readBool object).map .bool

end Location

end ShapedObjects
