import ShapedObjects.Shape
import ShapedObjects.Trace.Column

/-!
# Trace events

Call sites report four kinds of events: a node was cached, a value was refused, an
object moved to another shape, and a write was completed. Each event has one line
of text.
-/

namespace ShapedObjects

/-- Which way a write took. -/
inductive Path where
  /-- A primitive met a slot of its own kind and was not boxed. -/
  | fast
  /-- The value was boxed. -/
  | generic
deriving DecidableEq, Repr

/-- Why an object moved to another shape. -/
inductive Reason where
  /-- It gained an attribute. -/
  | addAttribute
  /-- One of its slots became boxed. -/
  | generalize
deriving DecidableEq, Repr

namespace Path

/-- The name of a path. -/
def name : Path → String
  | fast => "Fast"
  | generic => "Generic"

/-- The path of a given name. -/
def ofName? (name : String) : Option Path :=
  [fast, generic].find? (·.name = name)

end Path

namespace Reason

/-- The name of a reason. -/
def name : Reason → String
  | addAttribute => "AddAttribute"
  | generalize => "Generalize"

/-- The reason of a given name. -/
def ofName? (name : String) : Option Reason :=
  [addAttribute, generalize].find? (·.name = name)

end Reason

/-- What a call site reports. -/
inductive Event where
  /-- A node of the given kind was cached for an attribute. -/
  | specialized (name : NameId) (kind : Kind)
  /-- A slot of the given kind refused a value, so the attribute is to be boxed. -/
  | generalized (name : NameId) (kind : Kind)
  /-- An object moved from one shape to another. -/
  | moved (start target : ShapeId) (reason : Reason)
  /-- A write to a slot of the given kind was completed. -/
  | written (kind : Kind) (path : Path)
deriving DecidableEq, Repr

namespace Event

/-- Whether the event is a completed write. Writes are so many that they can be left out. -/
def isWrite : Event → Bool
  | written _ _ => true
  | specialized _ _ | generalized _ _ | moved _ _ _ => false

/-- The line of an event. -/
def line : Event → String
  | specialized name kind =>
    "  +++ SPECIALIZE attr#" ++ alignLeft 4 (toString name.index) ++ " " ++ kind.name
  | generalized name kind =>
    "  !!! GENERALIZE attr#" ++ alignLeft 4 (toString name.index) ++ " from " ++ kind.name
  | moved start target reason =>
    "  --> " ++ start.text ++ " -> " ++ target.text ++ " (" ++ reason.name ++ ")"
  | written kind path => "  ... WRITE " ++ alignLeft 10 kind.name ++ " " ++ path.name

end Event

end ShapedObjects
