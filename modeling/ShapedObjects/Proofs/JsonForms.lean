import Mathlib.Data.List.Nodup
import ShapedObjects.Json.Form
import ShapedObjects.Proofs.JsonTexts

/-!
# Restoring saved data

The JSON form that data is written in is one of the forms that are accepted for it. So data is
restored from its text, as long as its numbers are in the range that the reader allows for them.
The names of the fields of a structure differ from each other, which is why each field is found
behind its own name.
-/

namespace ShapedObjects

namespace Json

/-- Where no key repeats, a key stands in front of at most one item. -/
theorem countP_key_le_one {κ α : Type} [DecidableEq κ] {entries : List (κ × α)}
    (h : (entries.map Prod.fst).Nodup) (key : κ) : entries.countP (·.1 = key) ≤ 1 := by
  have hcount := List.nodup_iff_count_le_one.mp h key
  rw [List.count_eq_countP, List.countP_map] at hcount
  exact (List.countP_congr fun entry _ => by simp).trans_le hcount

/-- The fields that an object was written with are found by their names. -/
theorem fields?_ofFields {fields : List (String × Json)} {names : List String}
    (hnames : fields.map Prod.fst = names) (h : names.Nodup) :
    (ofFields fields).fields? names = some (fields.map fun field => some field.2) := by
  subst hnames
  let members := fields.map fun field => ((some field.1 : Option String), field.2)
  have hkeys : members.map Prod.fst = (fields.map Prod.fst).map some := by
    simp only [members, List.map_map]
    rfl
  have hnodup : (members.map Prod.fst).Nodup := by
    rw [hkeys]
    exact h.map fun _ _ heq => Option.some.inj heq
  have htexts : members.all (·.1.isSome) = true := by simp [members]
  have honce : (fields.map Prod.fst).all
      (fun name => members.countP (·.1 = some name) ≤ 1) = true :=
    List.all_eq_true.mpr fun name _ => decide_eq_true (countP_key_le_one hnodup (some name))
  have hfound : (fields.map Prod.fst).map (fun name => members.lookup (some name)) =
      fields.map fun field => some field.2 := by
    rw [List.map_map]
    refine List.map_congr_left fun field hfield => ?_
    exact lookup_of_mem hnodup (List.mem_map_of_mem hfield)
  rw [← hfound]
  exact if_pos (by rw [htexts, honce, Bool.and_self])

/-- An object is proper if its fields are. -/
theorem proper_ofFields {fields : List (String × Json)} (h : ∀ field ∈ fields, field.2.Proper) :
    (ofFields fields).Proper := by
  refine .object fun member hmember => ?_
  obtain ⟨field, hfield, rfl⟩ := List.mem_map.mp hmember
  exact h field hfield

/-- A natural has no point. -/
theorem proper_ofNat (value : Nat) : (ofNat value).Proper :=
  .number (JsonNumber.isProper_ofInt value)

/-- A natural below the bound is accepted. -/
theorem natBelow?_ofNat {bound value : Nat} (h : value < bound) :
    (ofNat value).natBelow? bound = some value := by
  have hint : (ofNat value).int? = some (value : Int) := JsonNumber.toInt?_ofInt value
  simp only [natBelow?, hint]
  exact if_pos h

/-- What is numbered by a natural below the bound is accepted. -/
theorem map_natBelow?_ofNat {α : Type} (make : Nat → α) {bound value : Nat} (h : value < bound) :
    ((ofNat value).natBelow? bound).map make = some (make value) := by
  rw [natBelow?_ofNat h]
  rfl

/-- A natural that may be absent has no point. -/
theorem proper_ofOption (value : Option Nat) : (ofOption value).Proper := by
  cases value with
  | none => exact .null
  | some value => exact proper_ofNat value

/-- A natural that may be absent is accepted if it fits 64 bits. -/
theorem option64?_ofOption {value : Option Nat} (h : ∀ n ∈ value, n < UInt64.size) :
    option64? (some (ofOption value)) = some value := by
  cases value with
  | none => rfl
  | some value => exact map_natBelow?_ofNat some (h value rfl)

end Json

/-- The compact text of data is read as this data. -/
def RoundTrips {α : Type} [JsonForm α] (value : α) : Prop :=
  JsonForm.ofText? (JsonForm.text value) = some value

/-- The pretty text of data is read as this data. -/
def PrettyRoundTrips {α : Type} [JsonForm α] (value : α) : Prop :=
  JsonForm.ofText? (JsonForm.prettyText value) = some value

/-- The form that data is written in has a text that can be read, and is accepted for the data. -/
structure Restores {α : Type} [JsonForm α] (value : α) : Prop where
  /-- The numbers of the form can be read. -/
  proper : (toJson value).Proper
  /-- The form stands for the data. -/
  accepted : ofJson? (toJson value) = some value

section Texts

variable {α : Type} [JsonForm α] {value : α}

/-- Data is restored from its compact text. -/
theorem Restores.roundTrips (h : Restores value) : RoundTrips value := by
  rw [RoundTrips, JsonForm.ofText?, JsonForm.text, Json.ofText?_text h.proper, Option.bind_some,
    h.accepted]

/-- Data is restored from its pretty text. -/
theorem Restores.prettyRoundTrips (h : Restores value) : PrettyRoundTrips value := by
  rw [PrettyRoundTrips, JsonForm.ofText?, JsonForm.prettyText, Json.ofText?_prettyText h.proper,
    Option.bind_some, h.accepted]

/-- A list is restored if its items are. -/
theorem restores_list {items : List α} (h : ∀ item ∈ items, Restores item) : Restores items where
  proper := by
    refine .array fun item hitem => ?_
    obtain ⟨item, hmem, rfl⟩ := List.mem_map.mp hitem
    exact (h item hmem).proper
  accepted := by
    change (items.map toJson).mapM ofJson? = some items
    induction items with
    | nil => rfl
    | cons item items ih =>
      obtain ⟨hitem, hitems⟩ := List.forall_mem_cons.mp h
      rw [List.map_cons, List.mapM_cons, hitem.accepted, ih hitems]
      rfl

end Texts

/-- A name's number is restored if it fits 32 bits. -/
theorem restores_nameId {id : NameId} (h : id.index < UInt32.size) : Restores id :=
  ⟨Json.proper_ofNat id.index, Json.map_natBelow?_ofNat NameId.mk h⟩

/-- A shape's number is restored if it fits 32 bits. -/
theorem restores_shapeId {id : ShapeId} (h : id.index < UInt32.size) : Restores id :=
  ⟨Json.proper_ofNat id.index, Json.map_natBelow?_ofNat ShapeId.mk h⟩

/-- A reference is restored if it fits 64 bits. -/
theorem restores_heapId {id : HeapId} (h : id.index < UInt64.size) : Restores id :=
  ⟨Json.proper_ofNat id.index, Json.map_natBelow?_ofNat HeapId.mk h⟩

/-- Every string is restored. -/
theorem restores_string (text : String) : Restores text := ⟨.string _, rfl⟩

/-- Every truth value is restored. -/
theorem restores_bool (value : Bool) : Restores value := ⟨.bool value, rfl⟩

/-- Every integer of 64 bits is restored. -/
theorem restores_int64 (value : Int64) : Restores value where
  proper := .number (JsonNumber.isProper_ofInt _)
  accepted := by
    have hint : (Json.number (.ofInt value.toInt)).int? = some value.toInt :=
      JsonNumber.toInt?_ofInt value.toInt
    have hrange : Int64.minValue.toInt ≤ value.toInt ∧ value.toInt ≤ Int64.maxValue.toInt :=
      ⟨value.minValue_le_toInt, value.toInt_le⟩
    simp only [toJson, ofJson?, hint, if_pos hrange, Int64.ofInt_toInt]

/-- Every kind is restored. -/
theorem restores_kind (kind : Kind) : Restores kind := ⟨.string _, Kind.ofName?_name kind⟩

/-- Whether a value is no float and, if it is a reference, fits 64 bits. -/
def Value.Saves : Value → Prop
  | .float _ => False
  | .ref target => target.index < UInt64.size
  | .none | .bool _ | .int _ | .str _ => True

/-- A value that carries something is restored if that is. -/
theorem restores_choice {α : Type} [JsonForm α] {payload : α} (h : Restores payload)
    {name : String} {make : α → Value}
    (hwritten : toJson (make payload) = .ofFields [(name, toJson payload)])
    (haccepted : ∀ form, ofJson? (.ofFields [(name, form)]) = (ofJson? form).map make) :
    Restores (make payload) where
  proper := by
    rw [hwritten]
    exact Json.proper_ofFields (by simpa using h.proper)
  accepted := by
    rw [hwritten, haccepted, h.accepted]
    rfl

/-- A value that is no float is restored. -/
theorem restores_value {value : Value} (h : value.Saves) : Restores value := by
  cases value with
  | none => exact ⟨.string _, rfl⟩
  | bool value => exact restores_choice (restores_bool value) rfl fun _ => rfl
  | int value => exact restores_choice (restores_int64 value) rfl fun _ => rfl
  | float value => exact h.elim
  | str value => exact restores_choice (restores_string value) rfl fun _ => rfl
  | ref target => exact restores_choice (restores_heapId h) rfl fun _ => rfl

/-- A location is restored if its index fits 32 bits. -/
theorem restores_location {location : Location} (h : location.index < UInt32.size) :
    Restores location where
  proper := Json.proper_ofFields (by
    simpa using ⟨(restores_kind location.kind).proper, Json.proper_ofNat location.index⟩)
  accepted := by
    unfold ofJson? instJsonFormLocation
    simp [Json.fields?_ofFields, (restores_kind location.kind).accepted, Json.nat32?,
      Json.natBelow?_ofNat h]

/-- The description of an attribute is restored if its index fits 64 bits. -/
theorem restores_attributeDescription {entry : AttributeDescription}
    (h : entry.index < UInt64.size) : Restores entry where
  proper := Json.proper_ofFields (by
    simpa using ⟨(restores_string entry.name).proper, (restores_kind entry.kind).proper,
      Json.proper_ofNat entry.index⟩)
  accepted := by
    unfold ofJson? instJsonFormAttributeDescription
    simp [Json.fields?_ofFields, (restores_string entry.name).accepted,
      (restores_kind entry.kind).accepted, Json.nat64?, Json.natBelow?_ofNat h]

/-- A description of a shape whose numbers fit what they are stored in. -/
structure ShapeDescription.Saves (shape : ShapeDescription) : Prop where
  /-- The number of the shape fits 32 bits. -/
  id : shape.id.index < UInt32.size
  /-- The index of every attribute fits 64 bits. -/
  attributes : ∀ entry ∈ shape.attributes, entry.index < UInt64.size
  /-- The number of unboxed words fits 64 bits. -/
  primitiveSlots : shape.primitiveSlots < UInt64.size
  /-- The number of boxed slots fits 64 bits. -/
  objectSlots : shape.objectSlots < UInt64.size

/-- The description of a shape is restored. -/
theorem restores_shapeDescription {shape : ShapeDescription} (h : shape.Saves) :
    Restores shape := by
  have hentries : Restores shape.attributes := restores_list fun entry hentry =>
    restores_attributeDescription (h.attributes entry hentry)
  constructor
  · refine Json.proper_ofFields ?_
    simpa using ⟨(restores_shapeId h.id).proper, hentries.proper,
      Json.proper_ofNat shape.primitiveSlots, Json.proper_ofNat shape.objectSlots⟩
  · unfold ofJson? instJsonFormShapeDescription
    simp [Json.fields?_ofFields, (restores_shapeId h.id).accepted, hentries.accepted, Json.nat64?,
      Json.natBelow?_ofNat h.primitiveSlots, Json.natBelow?_ofNat h.objectSlots]

/-- Limits that fit 64 bits where there are any. -/
structure Limits.Saves (limits : Limits) : Prop where
  /-- The limit of allocations fits. -/
  maxAllocations : ∀ limit ∈ limits.maxAllocations, limit < UInt64.size
  /-- The limit of slots fits. -/
  maxSlotsPerObject : ∀ limit ∈ limits.maxSlotsPerObject, limit < UInt64.size

/-- Limits are restored. -/
theorem restores_limits {limits : Limits} (h : limits.Saves) : Restores limits where
  proper := Json.proper_ofFields (by
    simpa using ⟨Json.proper_ofOption limits.maxAllocations,
      Json.proper_ofOption limits.maxSlotsPerObject⟩)
  accepted := by
    unfold ofJson? instJsonFormLimits
    simp [Json.fields?_ofFields, Json.option64?_ofOption h.maxAllocations,
      Json.option64?_ofOption h.maxSlotsPerObject]

/-- A tracker is restored if its limits are and its count fits 64 bits. -/
theorem restores_limitedTracker {tracker : LimitedTracker} (h : tracker.limits.Saves)
    (hcount : tracker.allocationCount < UInt64.size) : Restores tracker where
  proper := Json.proper_ofFields (by
    simpa using ⟨(restores_limits h).proper, Json.proper_ofNat tracker.allocationCount⟩)
  accepted := by
    unfold ofJson? instJsonFormLimitedTracker
    simp [Json.fields?_ofFields, (restores_limits h).accepted, Json.nat64?,
      Json.natBelow?_ofNat hcount]

end ShapedObjects
