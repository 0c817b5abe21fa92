import ShapedObjects.Fault
import ShapedObjects.Shape

/-!
# Descriptions of shapes

A description shows a layout with its attribute names spelled out. It is what a
layout dump contains, and it can be written and read back.
-/

namespace ShapedObjects

/-- One attribute of a described shape. -/
structure AttributeDescription where
  /-- The name of the attribute. -/
  name : String
  /-- What its slot holds. -/
  kind : Kind
  /-- The index of its slot. -/
  index : Nat
deriving DecidableEq, Repr

/-- A shape with the names of its attributes. -/
structure ShapeDescription where
  /-- The number of the shape. -/
  id : ShapeId
  /-- The attributes, oldest first. -/
  attributes : List AttributeDescription
  /-- Number of unboxed words. -/
  primitiveSlots : Nat
  /-- Number of boxed slots. -/
  objectSlots : Nat
deriving DecidableEq, Repr

namespace Shape

/-- Describes one attribute. Its number must be known to the interner. -/
def describeAttribute (interner : Interner) (entry : NameId × Location) :
    Except Fault AttributeDescription :=
  match interner.text? entry.1 with
  | some name => .ok ⟨name, entry.2.kind, entry.2.index⟩
  | none => .error .indexOutOfBounds

/-- Describes a shape. The numbers of its attributes must be known to the interner. -/
def describe (shape : Shape) (interner : Interner) : Except Fault ShapeDescription := do
  let attributes ← shape.layout.attributes.mapM (describeAttribute interner)
  return ⟨shape.id, attributes, shape.layout.primitiveCount, shape.layout.objectCount⟩

end Shape

end ShapedObjects
