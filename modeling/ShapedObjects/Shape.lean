import ShapedObjects.Layout

/-!
# Shapes

A shape is a layout with an identity. Objects that share a shape share its layout,
so one comparison of identities replaces a look-up of every attribute. Shapes
belong to the registry that issued them and never change.
-/

namespace ShapedObjects

/-- The number of a shape within its registry. -/
structure ShapeId where
  /-- Position of the shape in order of creation. -/
  index : Nat
deriving DecidableEq, Repr

namespace ShapeId

/-- A shape is written as a hash sign with its number. -/
def text (id : ShapeId) : String := "shape#" ++ toString id.index

end ShapeId

/-- A registered layout. -/
structure Shape where
  /-- The serial number of the registry that issued the shape. -/
  registry : Nat
  /-- The number of the shape within that registry. -/
  id : ShapeId
  /-- Where the attributes are stored. -/
  layout : Layout
deriving DecidableEq, Repr

namespace Shape

/-- Whether two shapes are one and the same: the same number issued by the same registry.
Equal numbers of two registries are different shapes. -/
def same (s t : Shape) : Bool := s.registry = t.registry && s.id = t.id

/-- The slot of an attribute. -/
def location? (shape : Shape) (name : NameId) : Option Location :=
  shape.layout.location? name

end Shape

end ShapedObjects
