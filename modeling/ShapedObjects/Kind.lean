/-!
# Slot kinds

A slot holds values of one kind. Object slots are boxed and accept every value.
The other three kinds live unboxed in 64-bit words and accept one type of value each.
-/

namespace ShapedObjects

/-- What a slot holds, and so which of an object's two storage areas it is in. -/
inductive Kind where
  /-- Any value, boxed. -/
  | object
  /-- An integer, as its two's complement bits. -/
  | int
  /-- A float, as its IEEE bits. -/
  | float
  /-- A boolean, as the word 0 or 1. -/
  | boolean
deriving DecidableEq, Repr

namespace Kind

/-- Whether slots of this kind are unboxed words. -/
def isPrimitive : Kind → Bool
  | object => false
  | int | float | boolean => true

/-- The primitive kinds are all but the boxed one. -/
theorem isPrimitive_iff {kind : Kind} : kind.isPrimitive = true ↔ kind ≠ .object := by
  cases kind <;> decide

/-- The name of a kind. -/
def name : Kind → String
  | object => "Object"
  | int => "Int"
  | float => "Float"
  | boolean => "Boolean"

/-- All kinds, in the order in which reports list them. -/
def all : List Kind := [object, int, float, boolean]

/-- The kind of a given name. -/
def ofName? (name : String) : Option Kind :=
  all.find? (·.name = name)

/-- A kind is found by its name. -/
@[simp] theorem ofName?_name (kind : Kind) : ofName? kind.name = some kind := by
  cases kind <;> decide

end Kind

/-- One slot: its kind, and its index in the storage area of that kind. -/
structure Location where
  /-- What the slot holds. -/
  kind : Kind
  /-- Position among the words for a primitive kind, among the boxed slots otherwise. -/
  index : Nat
deriving DecidableEq, Repr

namespace Location

/-- A location is written as its kind with the index in brackets. -/
def text (location : Location) : String :=
  location.kind.name ++ "[" ++ toString location.index ++ "]"

end Location

end ShapedObjects
