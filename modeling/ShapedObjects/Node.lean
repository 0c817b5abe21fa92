import ShapedObjects.Slot
import ShapedObjects.Trace.Event

/-!
# Nodes

A node stores or loads through one fixed location and never looks at the object's
shape: whoever uses a node has made sure that the location is the right one. A
primitive that meets a slot of its own kind is not boxed. A boolean also goes
unboxed into an integer slot, as 0 or 1, and reads back as an integer.
-/

namespace ShapedObjects

/-- The kind of slot that a new attribute gets from its first store. -/
def Write.initialKind : Write → Kind
  | .boxed value => Kind.ofValue value
  | .int _ => .int
  | .float _ => .float
  | .bool _ => .boolean

/-- A store that is bound to a location. -/
structure WriteNode where
  /-- Where the node stores. -/
  location : Location
deriving DecidableEq, Repr

/-- A load that is bound to a location. -/
structure ReadNode where
  /-- Where the node loads from. -/
  location : Location
deriving DecidableEq, Repr

namespace WriteNode

/-- The kind of slot that the node stores to. -/
def kind (node : WriteNode) : Kind := node.location.kind

/-- Stores as asked for. A primitive of another kind than the slot is boxed first. -/
def store (node : WriteNode) (object : Object) : Write → WriteResult
  | .boxed value => node.location.write object value
  | .int value =>
    match node.kind with
    | .int => node.location.writeInt object value
    | .object | .float | .boolean => node.location.write object (.int value)
  | .float value =>
    match node.kind with
    | .float => node.location.writeFloat object value
    | .object | .int | .boolean => node.location.write object (.float value)
  | .bool value =>
    match node.kind with
    | .boolean => node.location.writeBool object value
    | .int => node.location.writeInt object (if value then 1 else 0)
    | .object | .float => node.location.write object (.bool value)

/-- The path that a store takes through the node. -/
def path (node : WriteNode) : Write → Path
  | .boxed _ => .generic
  | .int _ => if node.kind = .int then .fast else .generic
  | .float _ => if node.kind = .float then .fast else .generic
  | .bool _ => if node.kind = .boolean ∨ node.kind = .int then .fast else .generic

end WriteNode

namespace ReadNode

/-- The kind of slot that the node loads from. -/
def kind (node : ReadNode) : Kind := node.location.kind

/-- Loads as asked for. -/
def load (node : ReadNode) (object : Object) (load : Load) : Except Fault Loaded :=
  node.location.load object load

end ReadNode

end ShapedObjects
