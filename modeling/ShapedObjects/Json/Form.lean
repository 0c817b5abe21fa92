import ShapedObjects.Json.Reader
import ShapedObjects.Json.Writer
import ShapedObjects.Limits
import ShapedObjects.Name
import ShapedObjects.Shape.Description
import ShapedObjects.Value

/-!
# JSON forms

Every kind of data that can be saved has one JSON form that is written and some more
that are accepted. A structure is written as an object; its fields are accepted in
any order among unknown ones, or as an array of exactly all of them. A choice is
written as its name, or as an object of one member if it carries something.
-/

namespace ShapedObjects

/-- Data with a JSON form. -/
class JsonForm (α : Type) where
  /-- The form that is written. -/
  toJson : α → Json
  /-- What an accepted form stands for. -/
  ofJson? : Json → Option α

export JsonForm (toJson ofJson?)

namespace JsonForm

/-- The compact text of data. -/
def text {α : Type} [JsonForm α] (value : α) : String := (toJson value).text

/-- The pretty text of data. -/
def prettyText {α : Type} [JsonForm α] (value : α) : String := (toJson value).prettyText

/-- What a text stands for. -/
def ofText? {α : Type} [JsonForm α] (text : String) : Option α := (Json.ofText? text).bind ofJson?

end JsonForm

namespace Json

/-- A natural as a number. -/
def ofNat (value : Nat) : Json := .number (.ofInt value)

/-- The integer of a value. -/
def int? : Json → Option Int
  | number value => value.toInt?
  | _ => none

/-- The natural of a value, if it is below a bound. -/
def natBelow? (bound : Nat) (value : Json) : Option Nat :=
  match value.int? with
  | some (.ofNat n) => if n < bound then some n else none
  | _ => none

/-- The natural of a value, if it fits 32 bits. -/
def nat32? (value : Json) : Option Nat := value.natBelow? UInt32.size

/-- The natural of a value, if it fits 64 bits. -/
def nat64? (value : Json) : Option Nat := value.natBelow? UInt64.size

/-- An object with the given fields. -/
def ofFields (fields : List (String × Json)) : Json :=
  object (fields.map fun field => (some field.1, field.2))

/-- The fields of the given names, each absent or given once. An array has all of them in their
order and nothing else. Members of other names are ignored, but every name must be a text. -/
def fields? (names : List String) : Json → Option (List (Option Json))
  | array items => if items.length = names.length then some (items.map some) else none
  | object members =>
    if members.all (·.1.isSome) &&
        names.all fun name => members.countP (·.1 = some name) ≤ 1 then
      some (names.map fun name => members.lookup (some name))
    else none
  | _ => none

/-- The choice of a value, and what it carries. -/
def choice? : Json → Option (String × Option Json)
  | string (some name) => some (name, none)
  | object [(some name, payload)] => some (name, some payload)
  | _ => none

/-- A natural that may be absent. -/
def ofOption : Option Nat → Json
  | none => null
  | some value => ofNat value

/-- A natural of 64 bits that may be absent or null. -/
def option64? : Option Json → Option (Option Nat)
  | none | some null => some none
  | some value => value.nat64?.map some

end Json

instance : JsonForm Unit where
  toJson _ := .null
  ofJson?
    | .null => some ()
    | _ => none

instance : JsonForm NameId where
  toJson id := .ofNat id.index
  ofJson? value := value.nat32?.map NameId.mk

instance : JsonForm ShapeId where
  toJson id := .ofNat id.index
  ofJson? value := value.nat32?.map ShapeId.mk

instance : JsonForm HeapId where
  toJson id := .ofNat id.index
  ofJson? value := value.nat64?.map HeapId.mk

instance : JsonForm String where
  toJson text := .string (some text)
  ofJson?
    | .string text => text
    | _ => none

instance : JsonForm Bool where
  toJson value := .bool value
  ofJson?
    | .bool value => some value
    | _ => none

instance : JsonForm Int64 where
  toJson value := .number (.ofInt value.toInt)
  ofJson? value :=
    match value.int? with
    | some n => if Int64.minValue.toInt ≤ n ∧ n ≤ Int64.maxValue.toInt then some (Int64.ofInt n) else none
    | none => none

/-- A double that is not finite has no number, so it is written as null. -/
instance : JsonForm Double where
  toJson x := if x.isFinite then .number (.ofDouble x) else .null
  ofJson?
    | .number value => value.toDouble?
    | _ => none

instance : JsonForm Kind where
  toJson kind := .string (some kind.name)
  ofJson? value :=
    match value.choice? with
    | some (name, none) | some (name, some .null) => Kind.ofName? name
    | _ => none

instance : JsonForm Value where
  toJson
    | .none => .string (some "None")
    | .bool value => .ofFields [("Bool", toJson value)]
    | .int value => .ofFields [("Int", toJson value)]
    | .float value => .ofFields [("Float", toJson value)]
    | .str value => .ofFields [("Str", toJson value)]
    | .ref target => .ofFields [("Ref", toJson target)]
  ofJson? value :=
    match value.choice? with
    | some ("None", none) | some ("None", some .null) => some .none
    | some ("Bool", some payload) => (ofJson? payload).map .bool
    | some ("Int", some payload) => (ofJson? payload).map .int
    | some ("Float", some payload) => (ofJson? payload).map .float
    | some ("Str", some payload) => (ofJson? payload).map .str
    | some ("Ref", some payload) => (ofJson? payload).map .ref
    | _ => none

instance : JsonForm Location where
  toJson location := .ofFields [("kind", toJson location.kind), ("index", .ofNat location.index)]
  ofJson? value :=
    match value.fields? ["kind", "index"] with
    | some [some kind, some index] => do
      let kind ← ofJson? kind
      let index ← index.nat32?
      return ⟨kind, index⟩
    | _ => none

instance : JsonForm AttributeDescription where
  toJson entry :=
    .ofFields [("name", toJson entry.name), ("kind", toJson entry.kind),
      ("index", .ofNat entry.index)]
  ofJson? value :=
    match value.fields? ["name", "kind", "index"] with
    | some [some name, some kind, some index] => do
      let name ← ofJson? name
      let kind ← ofJson? kind
      let index ← index.nat64?
      return ⟨name, kind, index⟩
    | _ => none

instance {α : Type} [JsonForm α] : JsonForm (List α) where
  toJson items := .array (items.map toJson)
  ofJson?
    | .array items => items.mapM ofJson?
    | _ => none

instance : JsonForm ShapeDescription where
  toJson shape :=
    .ofFields [("id", toJson shape.id), ("attributes", toJson shape.attributes),
      ("primitive_slots", .ofNat shape.primitiveSlots), ("object_slots", .ofNat shape.objectSlots)]
  ofJson? value :=
    match value.fields? ["id", "attributes", "primitive_slots", "object_slots"] with
    | some [some id, some entries, some primitiveSlots, some objectSlots] => do
      let id ← ofJson? id
      let entries ← ofJson? entries
      let primitiveSlots ← primitiveSlots.nat64?
      let objectSlots ← objectSlots.nat64?
      return ⟨id, entries, primitiveSlots, objectSlots⟩
    | _ => none

instance : JsonForm Limits where
  toJson limits :=
    .ofFields [("max_allocations", .ofOption limits.maxAllocations),
      ("max_slots_per_object", .ofOption limits.maxSlotsPerObject)]
  ofJson? value :=
    match value.fields? ["max_allocations", "max_slots_per_object"] with
    | some [maxAllocations, maxSlotsPerObject] => do
      let maxAllocations ← Json.option64? maxAllocations
      let maxSlotsPerObject ← Json.option64? maxSlotsPerObject
      return ⟨maxAllocations, maxSlotsPerObject⟩
    | _ => none

instance : JsonForm LimitedTracker where
  toJson tracker :=
    .ofFields [("limits", toJson tracker.limits),
      ("allocation_count", .ofNat tracker.allocationCount)]
  ofJson? value :=
    match value.fields? ["limits", "allocation_count"] with
    | some [some limits, some allocationCount] => do
      let limits ← ofJson? limits
      let allocationCount ← allocationCount.nat64?
      return ⟨limits, allocationCount⟩
    | _ => none

/-- The text of a tracker as it is saved. One that counts nothing has nothing to save. -/
def Tracker.savedText : Tracker → String
  | .unlimited => JsonForm.text ()
  | .limited tracker => JsonForm.text tracker

end ShapedObjects
