import ShapedObjects.Shape
import ShapedObjects.Value

/-!
# Objects

An object has a shape and two storage areas: unboxed words for the primitive
slots of its shape, and boxed values for the others. A new word is zero and a new
boxed slot holds the absent value.
-/

namespace ShapedObjects

/-- An object: its current shape and the contents of its slots. -/
structure Object where
  /-- Where each attribute is stored. -/
  shape : Shape
  /-- The unboxed words. -/
  words : List UInt64
  /-- The boxed slots. -/
  slots : List Value
deriving DecidableEq, Repr

/-- A list cut or padded to a given length. -/
def resize {α : Type} (items : List α) (length : Nat) (filler : α) : List α :=
  items.take length ++ List.replicate (length - items.length) filler

namespace Object

/-- An object of a shape with all slots unset. -/
def new (shape : Shape) : Object where
  shape := shape
  words := List.replicate shape.layout.primitiveCount 0
  slots := List.replicate shape.layout.objectCount .none

/-- The object on a shape that keeps the place of every slot it has. -/
def extend (object : Object) (shape : Shape) : Object where
  shape := shape
  words := resize object.words shape.layout.primitiveCount 0
  slots := resize object.slots shape.layout.objectCount .none

end Object

end ShapedObjects
