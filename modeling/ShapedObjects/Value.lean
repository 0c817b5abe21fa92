import ShapedObjects.Kind
import ShapedObjects.Double.Text

/-!
# Values

What an attribute can hold: nothing, a boolean, an integer, a float, a string, or
a reference to another object. A value is stored unboxed exactly if its type is
one of the three primitive ones.
-/

namespace ShapedObjects

/-- The number of an object on a heap. -/
structure HeapId where
  /-- Position of the object in order of allocation. -/
  index : Nat
deriving DecidableEq, Repr

/-- A value of an attribute. Two values are the same if they agree bit for bit. -/
inductive Value where
  /-- The absent value. -/
  | none
  /-- A boolean. -/
  | bool (value : Bool)
  /-- A 64-bit integer. -/
  | int (value : Int64)
  /-- A double-precision float. -/
  | float (value : Double)
  /-- A string. -/
  | str (value : String)
  /-- A reference to an object on the heap. -/
  | ref (target : HeapId)
deriving DecidableEq, Repr

/-- The type of a value, as messages name it. -/
inductive ValueType where
  | none
  | bool
  | int
  | float
  | str
  | object
deriving DecidableEq, Repr

/-- The name of a type. -/
def ValueType.name : ValueType → String
  | none => "NoneType"
  | bool => "bool"
  | int => "int"
  | float => "float"
  | str => "str"
  | object => "object"

/-- The kind of slot that a new attribute gets when its first value is this one. -/
def Kind.ofValue : Value → Kind
  | .int _ => .int
  | .float _ => .float
  | .bool _ => .boolean
  | .none | .str _ | .ref _ => .object

namespace Value

/-- The type of a value. -/
def type : Value → ValueType
  | none => .none
  | bool _ => .bool
  | int _ => .int
  | float _ => .float
  | str _ => .str
  | ref _ => .object

/-- The integer, if the value is exactly an integer. A boolean is not one. -/
def asInt? : Value → Option Int64
  | int value => some value
  | _ => Option.none

/-- The float, if the value is exactly a float. -/
def asFloat? : Value → Option Double
  | float value => some value
  | _ => Option.none

/-- The boolean, if the value is exactly a boolean. -/
def asBool? : Value → Option Bool
  | bool value => some value
  | _ => Option.none

/-- Equality as programs see it: floats compare as numbers, all else bit for bit. -/
def equals : Value → Value → Bool
  | float x, float y => x.equals y
  | x, y => x = y

/-- The text of a value for people. A string stands between single quotes as it is, and a
reference shows its number in hexadecimal. -/
def text : Value → String
  | none => "None"
  | bool true => "True"
  | bool false => "False"
  | int value => toString value.toInt
  | float value => value.text
  | str value => "'" ++ value ++ "'"
  | ref target => "<object at 0x" ++ String.ofList (Nat.toDigits 16 target.index) ++ ">"

end Value

end ShapedObjects
