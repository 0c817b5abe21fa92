import ShapedObjects.Limits
import ShapedObjects.Object.Attributes
import ShapedObjects.Sum

/-!
# The heap

A heap holds objects under numbers in order of allocation and never frees one. It
asks its tracker before it allocates an object or lets one gain slots.
-/

namespace ShapedObjects

/-- All objects, and the tracker that limits them. -/
structure Heap where
  /-- The objects in order of allocation. -/
  objects : List Object
  /-- What limits allocations and slots. -/
  tracker : Tracker
deriving DecidableEq, Repr

/-- Counts of objects and slots. -/
structure HeapStats where
  /-- Number of objects. -/
  liveObjects : Nat
  /-- Number of unboxed words that the shapes of all objects declare. -/
  primitiveSlots : Nat
  /-- Number of boxed slots that the shapes of all objects declare. -/
  objectSlots : Nat
  /-- How many objects are on each shape, in the order of the shapes' numbers. -/
  objectsByShape : List (ShapeId × Nat)
  /-- How many allocations the tracker counted. -/
  trackerAllocations : Option Nat
deriving DecidableEq, Repr

namespace Heap

/-- A heap without objects. -/
def new (tracker : Tracker) : Heap := ⟨[], tracker⟩

/-- How many objects there are. -/
def size (heap : Heap) : Nat := heap.objects.length

/-- Whether there is no object. -/
def isEmpty (heap : Heap) : Bool := heap.objects.isEmpty

/-- The object of a given number, if there is one. -/
def object? (heap : Heap) (id : HeapId) : Option Object := heap.objects[id.index]?

/-- The object of a given number, to be read. -/
def get (heap : Heap) (id : HeapId) : Except Fault Object :=
  match heap.object? id with
  | some object => .ok object
  | none => .error .missingOnRead

/-- The object of a given number, to be changed. -/
def getToChange (heap : Heap) (id : HeapId) : Except Fault Object :=
  match heap.object? id with
  | some object => .ok object
  | none => .error .missingOnWrite

/-- Puts a changed object in its place. -/
def put (heap : Heap) (id : HeapId) (object : Object) : Heap :=
  { heap with objects := heap.objects.set id.index object }

/-- Allocates an object of a shape. The allocation is counted before the slots are checked, so
a shape with too many slots is counted although it is refused. -/
def allocate (heap : Heap) (shape : Shape) : Heap × Except LimitError HeapId :=
  match heap.tracker.allocate with
  | .error refusal => (heap, .error refusal)
  | .ok tracker =>
    match tracker.checkSlots shape.layout.slotCount with
    | .error refusal => ({ heap with tracker := tracker }, .error refusal)
    | .ok () => (⟨heap.objects ++ [.new shape], tracker⟩, .ok ⟨heap.objects.length⟩)

/-- Moves an object to a shape that has more attributes, unless it would have too many slots.
The slots are checked before the object is looked up. -/
def extendObject (heap : Heap) (id : HeapId) (shape : Shape) :
    Except Fault (Except LimitError Heap) :=
  match heap.tracker.checkSlots shape.layout.slotCount with
  | .error refusal => .ok (.error refusal)
  | .ok () => do
    let object ← heap.getToChange id
    return .ok (heap.put id (object.extend shape))

/-- Moves an object to a shape that stores its attributes elsewhere. -/
def migrateObject (heap : Heap) (id : HeapId) (shape : Shape) : Except Fault Heap := do
  let object ← heap.getToChange id
  let migrated ← object.migrate shape
  return heap.put id migrated

/-- How many objects are on the shape of a given number. -/
def countOn (heap : Heap) (id : ShapeId) : Nat :=
  heap.objects.countP fun object => object.shape.id = id

/-- One more than the largest number of a shape that has objects. -/
def shapeBound (heap : Heap) : Nat :=
  heap.objects.foldl (fun bound object => max bound (object.shape.id.index + 1)) 0

/-- Counts of all objects and slots. -/
def stats (heap : Heap) : HeapStats where
  liveObjects := heap.size
  primitiveSlots := sumOf (·.shape.layout.primitiveCount) heap.objects
  objectSlots := sumOf (·.shape.layout.objectCount) heap.objects
  objectsByShape :=
    ((List.range heap.shapeBound).map fun index => (⟨index⟩, heap.countOn ⟨index⟩)).filter
      (0 < ·.2)
  trackerAllocations := heap.tracker.allocationCount?

end Heap

end ShapedObjects
