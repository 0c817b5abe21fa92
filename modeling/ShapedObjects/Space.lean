import ShapedObjects.Error
import ShapedObjects.Heap
import ShapedObjects.Shape.Description
import ShapedObjects.Shape.Registry
import ShapedObjects.Trace.Tracer

/-!
# Object spaces

A space is all that call sites work on: a heap, the registry of its shapes, the
interned names and a tracer.
-/

namespace ShapedObjects

/-- The state that call sites work on. -/
structure Space where
  /-- The objects. -/
  heap : Heap
  /-- The shapes. -/
  registry : Registry
  /-- The names of attributes. -/
  interner : Interner
  /-- What takes notice of the call sites' events. -/
  tracer : Tracer
deriving DecidableEq, Repr

namespace Space

/-- A space without objects. Spaces with different serial numbers share no shape. -/
def new (serial : Nat) (tracker : Tracker) (tracer : Tracer) : Space where
  heap := .new tracker
  registry := .new serial
  interner := .empty
  tracer := tracer

/-- Lets the tracer take notice of an event. -/
def observe (space : Space) (event : Event) : Space :=
  { space with tracer := space.tracer.observe event }

/-- The number of a name, which is new if the name is. -/
def intern (space : Space) (name : String) : Space × NameId :=
  let (interner, id) := space.interner.intern name
  ({ space with interner := interner }, id)

/-- Allocates an object without attributes. -/
def allocate (space : Space) : Space × Except CallError HeapId :=
  let (heap, result) := space.heap.allocate space.registry.root
  ({ space with heap := heap }, result.mapError .ofLimit)

/-- The value of an attribute, looked up without a cache. -/
def get (space : Space) (target : HeapId) (name : NameId) : Except Fault (Option Value) := do
  let object ← space.heap.get target
  object.get name

/-- Describes the shape that an object is on. -/
def describe (space : Space) (target : HeapId) : Except Fault ShapeDescription := do
  let object ← space.heap.get target
  object.shape.describe space.interner

/-- Puts a changed object in its place. -/
def put (space : Space) (target : HeapId) (object : Object) : Space :=
  { space with heap := space.heap.put target object }

end Space

/-- What a call through a site leaves behind: the site, the space, and the call's result. -/
structure Outcome (σ α : Type) where
  /-- The site after the call. -/
  site : σ
  /-- The space after the call. -/
  space : Space
  /-- The result of the call. -/
  result : Except CallError α
deriving Repr

end ShapedObjects
