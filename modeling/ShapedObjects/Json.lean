/-!
# JSON values

A JSON value keeps what its text says: members stay in order and may repeat, and a
number keeps its digits, so that every later rule can decide what it accepts.
-/

namespace ShapedObjects

/-- A number as it is written. -/
structure JsonNumber where
  /-- Whether a minus sign stands in front. -/
  isNegative : Bool
  /-- The digits before the point. -/
  whole : Nat
  /-- The digits behind the point. There are none exactly if there is no point. -/
  fraction : List Char
  /-- The power of ten, if one is written. -/
  exponent : Option Int
deriving DecidableEq, Repr

/-- A JSON value. A string with an unpaired surrogate is kept as one without a text. -/
inductive Json where
  /-- The null value. -/
  | null
  /-- A truth value. -/
  | bool (value : Bool)
  /-- A number. -/
  | number (number : JsonNumber)
  /-- A string. -/
  | string (text : Option String)
  /-- An array. -/
  | array (items : List Json)
  /-- An object. -/
  | object (members : List (Option String × Json))
deriving Repr

end ShapedObjects
