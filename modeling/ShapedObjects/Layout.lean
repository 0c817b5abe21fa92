import ShapedObjects.Kind
import ShapedObjects.Name

/-!
# Layouts

A layout lists the attributes of an object in the order in which they were added
and gives each one a slot. Slots are numbered densely, the primitive ones in one
storage area and the boxed ones in the other.
-/

namespace ShapedObjects

/-- Where each attribute is stored, and how long the two storage areas are. -/
structure Layout where
  /-- The attributes with their slots, oldest first. -/
  attributes : List (NameId × Location)
  /-- Number of unboxed words. -/
  primitiveCount : Nat
  /-- Number of boxed slots. -/
  objectCount : Nat
deriving DecidableEq, Repr

namespace Layout

/-- The layout without attributes. -/
def empty : Layout := ⟨[], 0, 0⟩

/-- The slot of an attribute. -/
def location? (layout : Layout) (name : NameId) : Option Location :=
  layout.attributes.lookup name

/-- The attributes with the kinds of their slots. -/
def kinds (layout : Layout) : List (NameId × Kind) :=
  layout.attributes.map fun entry => (entry.1, entry.2.kind)

/-- How many slots both storage areas have together. -/
def slotCount (layout : Layout) : Nat := layout.primitiveCount + layout.objectCount

/-- The next free slot of a kind. -/
def nextLocation (layout : Layout) (kind : Kind) : Location :=
  ⟨kind, if kind.isPrimitive then layout.primitiveCount else layout.objectCount⟩

/-- The layout with one more attribute, in the next free slot of its kind. -/
def append (layout : Layout) (name : NameId) (kind : Kind) : Layout where
  attributes := layout.attributes ++ [(name, layout.nextLocation kind)]
  primitiveCount := layout.primitiveCount + if kind.isPrimitive then 1 else 0
  objectCount := layout.objectCount + if kind.isPrimitive then 0 else 1

/-- The layout of a list of attributes and kinds, filled from the front. -/
def ofKinds (kinds : List (NameId × Kind)) : Layout :=
  kinds.foldl (fun layout entry => layout.append entry.1 entry.2) empty

/-- The layout in which one attribute is boxed. All slots are numbered afresh. -/
def widen (layout : Layout) (name : NameId) : Layout :=
  ofKinds (layout.kinds.map fun entry =>
    if entry.1 = name then (entry.1, .object) else entry)

@[simp] theorem nextLocation_kind (layout : Layout) (kind : Kind) :
    (layout.nextLocation kind).kind = kind := rfl

/-- A new attribute comes last and has the kind that was asked for. -/
@[simp] theorem kinds_append (layout : Layout) (name : NameId) (kind : Kind) :
    (layout.append name kind).kinds = layout.kinds ++ [(name, kind)] := by
  simp [kinds, append]

/-- A new attribute takes one slot. -/
@[simp] theorem slotCount_append (layout : Layout) (name : NameId) (kind : Kind) :
    (layout.append name kind).slotCount = layout.slotCount + 1 := by
  cases kind <;> simp only [slotCount, append, Kind.isPrimitive] <;> simp <;> omega

/-- Filling up a layout appends the attributes in their order. -/
theorem kinds_foldl_append (kinds : List (NameId × Kind)) (layout : Layout) :
    (kinds.foldl (fun layout entry => layout.append entry.1 entry.2) layout).kinds =
      layout.kinds ++ kinds := by
  induction kinds generalizing layout with
  | nil => simp
  | cons entry kinds ih => simp [ih]

/-- A layout has the attributes and kinds that it was made of. -/
@[simp] theorem kinds_ofKinds (kinds : List (NameId × Kind)) : (ofKinds kinds).kinds = kinds :=
  kinds_foldl_append kinds empty

/-- Boxing an attribute changes its kind and nothing else in the list of kinds. -/
theorem kinds_widen (layout : Layout) (name : NameId) :
    (layout.widen name).kinds =
      layout.kinds.map fun entry => if entry.1 = name then (entry.1, .object) else entry :=
  kinds_ofKinds _

end Layout

end ShapedObjects
