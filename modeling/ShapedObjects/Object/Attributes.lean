import ShapedObjects.Slot

/-!
# The attributes of an object

An object's attributes are read through the locations of its shape. An object that
moves to a shape with other locations takes its attributes along one by one.
-/

namespace ShapedObjects

namespace Object

/-- The value of an attribute, if the object has it. -/
def get (object : Object) (name : NameId) : Except Fault (Option Value) :=
  match object.shape.location? name with
  | some location => (location.read object).map some
  | none => .ok none

/-- All attributes with their values, oldest first. -/
def entries (object : Object) : Except Fault (List (NameId × Value)) :=
  object.shape.layout.attributes.mapM fun entry =>
    (entry.2.read object).map fun value => (entry.1, value)

/-- Copies one attribute into storage of another shape. A shape without the attribute and a
slot that cannot hold the value leave the storage as it is. -/
def copyAttribute (object : Object) (storage : Object) (entry : NameId × Location) :
    Except Fault Object :=
  match storage.shape.location? entry.1 with
  | none => .ok storage
  | some target => do
    let value ← entry.2.read object
    match target.write storage value with
    | .stored storage => return storage
    | .rejected _ => return storage
    | .outOfBounds => throw .indexOutOfBounds

/-- The object on a shape that stores its attributes elsewhere. Every attribute is loaded from
its old slot and stored in its new one, which boxes what became boxed on the way. -/
def migrate (object : Object) (shape : Shape) : Except Fault Object :=
  object.shape.layout.attributes.foldlM object.copyAttribute (new shape)

end Object

end ShapedObjects
