import ShapedObjects.Shape

/-!
# The shape registry

A registry issues shapes and remembers every step from one shape to another.
Objects that take the same steps from the empty shape therefore share one shape,
however often and through whichever call site the steps are taken.
-/

namespace ShapedObjects

/-- A step from one shape to another. -/
inductive Transition where
  /-- A new attribute is appended with a slot of the given kind. -/
  | add (name : NameId) (kind : Kind)
  /-- A primitive attribute becomes boxed. -/
  | generalize (name : NameId)
deriving DecidableEq, Repr

/-- A shape that was reached, with the slot of the attribute that the step was about. -/
structure Reached where
  /-- The shape behind the step. -/
  shape : Shape
  /-- The attribute's slot in that shape. -/
  location : Location
deriving DecidableEq, Repr

/-- All shapes issued so far, and the steps between them. -/
structure Registry where
  /-- Tells the shapes of this registry from those of every other one. -/
  serial : Nat
  /-- The shapes in order of creation. -/
  shapes : List Shape
  /-- Every step taken so far: where from, which step, and what it reached. -/
  memo : List ((ShapeId × Transition) × Reached)
deriving DecidableEq, Repr

namespace Registry

/-- The empty shape, at which every object starts. -/
def root (registry : Registry) : Shape := ⟨registry.serial, ⟨0⟩, Layout.empty⟩

/-- A registry that has issued the empty shape only. -/
def new (serial : Nat) : Registry := ⟨serial, [⟨serial, ⟨0⟩, Layout.empty⟩], []⟩

/-- The shape of a given number. -/
def shape? (registry : Registry) (id : ShapeId) : Option Shape :=
  registry.shapes[id.index]?

/-- How many shapes were issued. -/
def size (registry : Registry) : Nat := registry.shapes.length

/-- Whether no shape was issued. -/
def isEmpty (registry : Registry) : Bool := registry.shapes.isEmpty

/-- What a step from a shape reached when it was taken before. -/
def known? (registry : Registry) (start : Shape) (step : Transition) : Option Reached :=
  registry.memo.lookup (start.id, step)

/-- Issues a shape for a layout, and remembers the step that led to it. -/
def issue (registry : Registry) (start : Shape) (step : Transition) (layout : Layout)
    (location : Location) : Registry × Reached :=
  let reached := ⟨⟨registry.serial, ⟨registry.shapes.length⟩, layout⟩, location⟩
  ({ registry with
      shapes := registry.shapes ++ [reached.shape]
      memo := registry.memo ++ [((start.id, step), reached)] }, reached)

/-- The shape with one more attribute. Every slot keeps its place, so an object moves there by
growing. A shape that has the attribute already is returned as it is. -/
def addAttribute (registry : Registry) (start : Shape) (name : NameId) (kind : Kind) :
    Registry × Reached :=
  match start.location? name with
  | some location => (registry, ⟨start, location⟩)
  | none =>
    match registry.known? start (.add name kind) with
    | some reached => (registry, reached)
    | none =>
      registry.issue start (.add name kind) (start.layout.append name kind)
        (start.layout.nextLocation kind)

/-- The shape in which an attribute is boxed. All other attributes keep their kinds, but slots
are numbered afresh, so an object moves there by copying. A shape that has the attribute boxed
already is returned as it is, and a missing attribute is added as a boxed one. -/
def generalize (registry : Registry) (start : Shape) (name : NameId) : Registry × Reached :=
  match start.location? name with
  | none => registry.addAttribute start name .object
  | some current =>
    if current.kind = .object then (registry, ⟨start, current⟩)
    else
      match registry.known? start (.generalize name) with
      | some reached => (registry, reached)
      | none =>
        let layout := start.layout.widen name
        registry.issue start (.generalize name) layout ((layout.location? name).getD current)

end Registry

end ShapedObjects
