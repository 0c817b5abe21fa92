import ShapedObjects.Object

/-!
# Stores and loads

A store or a load is asked for as one of any value or as one of a primitive, which
need not be boxed. A slot that cannot hold a value hands it back.
-/

namespace ShapedObjects

/-- A value that a slot cannot hold, with the slot's location. -/
structure Rejection where
  /-- The location that refused the value. -/
  location : Location
  /-- The refused value. -/
  value : Value
deriving DecidableEq, Repr

namespace Rejection

/-- The message of a rejection. -/
def message (rejection : Rejection) : String :=
  "cannot store '" ++ rejection.value.type.name ++ "' value in " ++
    rejection.location.kind.name ++ " slot " ++ toString rejection.location.index

end Rejection

/-- What became of a store. -/
inductive WriteResult where
  /-- The slot now holds the value. -/
  | stored (object : Object)
  /-- The slot cannot hold the value, and nothing changed. -/
  | rejected (rejection : Rejection)
  /-- The object has no such slot. -/
  | outOfBounds
deriving DecidableEq, Repr

/-- A store as it is asked for: a value, or a primitive that need not be boxed. -/
inductive Write where
  /-- Any value. -/
  | boxed (value : Value)
  /-- An integer. -/
  | int (value : Int64)
  /-- A float. -/
  | float (value : Double)
  /-- A boolean. -/
  | bool (value : Bool)
deriving DecidableEq, Repr

/-- The value that is to be stored. -/
def Write.value : Write → Value
  | boxed value => value
  | int value => .int value
  | float value => .float value
  | bool value => .bool value

/-- A load as it is asked for: of any value, or of one primitive type. -/
inductive Load where
  /-- Any value. -/
  | boxed
  /-- An integer. -/
  | int
  /-- A float. -/
  | float
  /-- A boolean. -/
  | bool
deriving DecidableEq, Repr

/-- What a load gives. A typed load gives nothing if the slot holds another type. -/
inductive Loaded where
  /-- The value of the slot. -/
  | boxed (value : Value)
  /-- The integer of the slot, if it holds one. -/
  | int (value : Option Int64)
  /-- The float of the slot, if it holds one. -/
  | float (value : Option Double)
  /-- The boolean of the slot, if it holds one. -/
  | bool (value : Option Bool)
deriving DecidableEq, Repr

/-- What a load makes of a value. -/
def Load.view : Load → Value → Loaded
  | boxed, value => .boxed value
  | int, value => .int value.asInt?
  | float, value => .float value.asFloat?
  | bool, value => .bool value.asBool?

end ShapedObjects
