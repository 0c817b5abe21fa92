import ShapedObjects.Proofs.JsonForms
import ShapedObjects.Proofs.Refusals

/-!
# Saved layouts and trackers

A shape with many attributes was reached by as many steps, and every step leads to a larger
number. So the numbers in the description of an issued shape are not above the number of the shape,
and where this one fits 32 bits they all do. A tracker counts the objects of its heap, so its count
fits 64 bits as long as their number does. Hence both are restored from their texts, and a session
goes on with a restored tracker as if it had never been saved.
-/

namespace ShapedObjects

section Except

variable {α β : Type} {act : α → Except Fault β} {items : List α}

/-- Every result comes from one of the items. -/
theorem exists_of_mem_mapM {results : List β} (h : items.mapM act = .ok results) {result : β}
    (hresult : result ∈ results) : ∃ item ∈ items, act item = .ok result := by
  induction items generalizing results with
  | nil =>
    cases h
    cases hresult
  | cons item items ih =>
    rw [List.mapM_cons] at h
    obtain ⟨first, hfirst, hrest⟩ := ok_of_bind h
    obtain ⟨more, hmore, heq⟩ := ok_of_bind hrest
    cases heq
    rcases List.mem_cons.mp hresult with rfl | hmem
    · exact ⟨item, List.mem_cons_self, hfirst⟩
    · obtain ⟨other, hother, hact⟩ := ih hmore hmem
      exact ⟨other, List.mem_cons_of_mem item hother, hact⟩

/-- There are results exactly if every item has one. -/
theorem exists_mapM_iff :
    (∃ results, items.mapM act = .ok results) ↔
      ∀ item ∈ items, ∃ result, act item = .ok result := by
  induction items with
  | nil => simp [pure, Except.pure]
  | cons item items ih =>
    rw [List.forall_mem_cons, ← ih, List.mapM_cons]
    constructor
    · rintro ⟨results, h⟩
      obtain ⟨first, hfirst, hrest⟩ := ok_of_bind h
      obtain ⟨more, hmore, _⟩ := ok_of_bind hrest
      exact ⟨⟨first, hfirst⟩, more, hmore⟩
    · rintro ⟨⟨first, hfirst⟩, more, hmore⟩
      refine ⟨first :: more, ?_⟩
      rw [hfirst, hmore]
      rfl

end Except

namespace Shape

variable {shape : Shape} {interner : Interner} {description : ShapeDescription}

/-- An attribute is described exactly if its name is known. -/
theorem exists_describeAttribute_iff (entry : NameId × Location) :
    (∃ result, describeAttribute interner entry = .ok result) ↔
      entry.1.index < interner.names.length := by
  rw [describeAttribute, Interner.text?]
  cases htext : interner.names[entry.1.index]? with
  | none => simpa using htext
  | some text => simpa using (List.getElem?_eq_some_iff.mp htext).1

/-- A shape is described exactly if the names of its attributes are known. -/
theorem exists_describe_iff : (∃ description, shape.describe interner = .ok description) ↔
    ∀ entry ∈ shape.layout.attributes, entry.1.index < interner.names.length := by
  have hentries : (∃ entries, shape.layout.attributes.mapM (describeAttribute interner) =
      .ok entries) ↔ _ := exists_mapM_iff
  simp only [exists_describeAttribute_iff] at hentries
  rw [← hentries]
  constructor
  · rintro ⟨description, h⟩
    obtain ⟨entries, hentries, _⟩ := ok_of_bind h
    exact ⟨entries, hentries⟩
  · rintro ⟨entries, hentries⟩
    exact ⟨⟨shape.id, entries, _, _⟩, by rw [describe, hentries]; rfl⟩

/-- A description has the numbers of its shape. -/
theorem describe_numbers (h : shape.describe interner = .ok description) :
    description.id = shape.id ∧ description.primitiveSlots = shape.layout.primitiveCount ∧
      description.objectSlots = shape.layout.objectCount ∧
      ∀ entry ∈ description.attributes, ∃ item ∈ shape.layout.attributes,
        item.2.index = entry.index := by
  obtain ⟨entries, hentries, heq⟩ := ok_of_bind h
  cases heq
  refine ⟨rfl, rfl, rfl, fun entry hentry => ?_⟩
  obtain ⟨item, hitem, hdescribe⟩ := exists_of_mem_mapM hentries hentry
  refine ⟨item, hitem, ?_⟩
  rw [describeAttribute] at hdescribe
  split at hdescribe
  · cases hdescribe
    rfl
  · cases hdescribe

end Shape

namespace Registry

variable {registry : Registry} {shape : Shape} {steps : List Transition}

/-- A shape has at most as many attributes as its number says. -/
theorem Reaches.attributes_le (h : registry.Reaches steps shape) (hregistry : registry.WellFormed)
    (hordered : registry.Ordered) : shape.layout.attributes.length ≤ shape.id.index := by
  induction h with
  | root => exact Nat.zero_le _
  | @next steps start step reached hstart hknown ih =>
    have hlt : start.id.index < reached.shape.id.index := hordered _ (mem_memo_of_known? hknown)
    have hleads := (takes_of_known hregistry (hstart.issued hregistry) hknown).leads
    cases hleads with
    | add _ hlayout _ =>
      rw [hlayout, Layout.append, List.length_append, List.length_singleton]
      omega
    | @generalize _ _ name _ _ _ hlayout _ =>
      have hlength := congrArg List.length (Layout.map_fst_widen start.layout name)
      rw [← hlayout, List.length_map, List.length_map] at hlength
      omega

/-- No slot of an issued shape has a number above the one of the shape. -/
theorem WellFormed.slotCount_le (h : registry.WellFormed) (hordered : registry.Ordered)
    (hshape : shape ∈ registry.shapes) : shape.layout.slotCount ≤ shape.id.index := by
  obtain ⟨steps, hsteps⟩ := h.reached shape hshape
  rw [(h.packed hshape).slotCount_eq]
  exact hsteps.attributes_le h hordered

/-- The description of an issued shape is restored, if the number of the shape fits 32 bits. -/
theorem WellFormed.restores_description (h : registry.WellFormed) (hordered : registry.Ordered)
    (hshape : shape ∈ registry.shapes) (hsize : registry.size ≤ UInt32.size) {interner : Interner}
    {description : ShapeDescription} (hdescribe : shape.describe interner = .ok description) :
    Restores description := by
  have hid : shape.id.index < UInt32.size := (h.index_lt hshape).trans_le hsize
  have hwords : UInt32.size < UInt64.size := by decide
  have hslots : shape.layout.primitiveCount + shape.layout.objectCount ≤ shape.id.index :=
    h.slotCount_le hordered hshape
  obtain ⟨hsame, hprimitive, hobject, hindices⟩ := Shape.describe_numbers hdescribe
  refine restores_shapeDescription ⟨?_, fun entry hentry => ?_, ?_, ?_⟩
  · rwa [hsame]
  · obtain ⟨item, hitem, hindex⟩ := hindices entry hentry
    have hlt : item.2.index < shape.layout.primitiveCount + shape.layout.objectCount :=
      ((h.packed hshape).index_lt hitem).trans_le (Layout.capacity_le_slotCount _ _)
    omega
  · omega
  · omega

end Registry

namespace Session

variable {setups : List (Tracker × Tracer)} {actions : List Action} {index : Nat} {space : Space}

/-- A session in which a tracker takes the place of the one of a space. -/
def withTracker (session : Session) (index : Nat) (space : Space) (tracker : LimitedTracker) :
    Session :=
  session.withSpace index { space with heap := { space.heap with tracker := .limited tracker } }

/-- The saved tracker of a space that started with limits is restored, however the session went on
since then. -/
theorem exists_restored {limits : Limits} {tracer : Tracer}
    (hsetup : setups[index]? = some (.limited (.new limits), tracer)) (hlimits : limits.Saves)
    (hspace : ((start setups).run actions).spaces[index]? = some space)
    (hsize : space.heap.size < UInt64.size) :
    ∃ restored : LimitedTracker,
      JsonForm.ofText? space.heap.tracker.savedText = some restored ∧
        ((start setups).run actions).withTracker index space restored =
          (start setups).run actions := by
  have hwithin := run_within hsetup hspace
  refine ⟨⟨limits, space.heap.size⟩, ?_, ?_⟩
  · rw [hwithin.counted]
    exact (restores_limitedTracker hlimits hsize).roundTrips
  · rw [withTracker, ← hwithin.counted]
    exact withSpace_self hspace

end Session

/-- Saved data is restored. Every value that is no float, every kind and all numbers, descriptions,
limits and trackers that fit what they are stored in are read back from their compact texts, and
descriptions from their pretty texts too. A shape of a registry is described for every interner that
knows its names, and the description is restored. The saved tracker of a space is restored at every
point of a run, and the session with the restored tracker is the same session. -/
theorem saved_data_restored :
    ((∀ value : Value, value.Saves → RoundTrips value) ∧ (∀ kind : Kind, RoundTrips kind) ∧
      (∀ location : Location, location.index < UInt32.size → RoundTrips location) ∧
      (∀ id : ShapeId, id.index < UInt32.size → RoundTrips id) ∧
      (∀ id : NameId, id.index < UInt32.size → RoundTrips id) ∧
      (∀ id : HeapId, id.index < UInt64.size → RoundTrips id) ∧
      (∀ entry : AttributeDescription, entry.index < UInt64.size → RoundTrips entry) ∧
      (∀ shape : ShapeDescription, shape.Saves → RoundTrips shape ∧ PrettyRoundTrips shape) ∧
      (∀ limits : Limits, limits.Saves → RoundTrips limits) ∧
      (∀ tracker : LimitedTracker, tracker.limits.Saves →
        tracker.allocationCount < UInt64.size → RoundTrips tracker)) ∧
    (∀ serial registry, (Registry.new serial).Becomes registry → registry.size ≤ UInt32.size →
      ∀ shape ∈ registry.shapes, ∀ interner : Interner,
        ((∃ description, shape.describe interner = .ok description) ↔
          ∀ entry ∈ shape.layout.attributes, entry.1.index < interner.size) ∧
        ∀ description, shape.describe interner = .ok description →
          RoundTrips description ∧ PrettyRoundTrips description) ∧
    (∀ (setups : List (Tracker × Tracer)) (actions : List Action) (index : Nat) (limits : Limits)
      (tracer : Tracer) (space : Space), setups[index]? = some (.limited (.new limits), tracer) →
      limits.Saves → ((Session.start setups).run actions).spaces[index]? = some space →
      space.heap.size < UInt64.size →
      ∃ restored : LimitedTracker,
        JsonForm.ofText? space.heap.tracker.savedText = some restored ∧
          ((Session.start setups).run actions).withTracker index space restored =
            (Session.start setups).run actions) := by
  refine ⟨⟨fun value h => (restores_value h).roundTrips,
    fun kind => (restores_kind kind).roundTrips, fun location h => (restores_location h).roundTrips,
    fun id h => (restores_shapeId h).roundTrips, fun id h => (restores_nameId h).roundTrips,
    fun id h => (restores_heapId h).roundTrips,
    fun entry h => (restores_attributeDescription h).roundTrips, fun shape h => ?_,
    fun limits h => (restores_limits h).roundTrips,
    fun tracker h hcount => (restores_limitedTracker h hcount).roundTrips⟩, ?_, ?_⟩
  · have hrestores := restores_shapeDescription h
    exact ⟨hrestores.roundTrips, hrestores.prettyRoundTrips⟩
  · intro serial registry hbecomes hsize shape hshape interner
    obtain ⟨_, hwell, hordered⟩ := hbecomes.extends (Registry.wellFormed_new serial)
    refine ⟨Shape.exists_describe_iff, fun description hdescribe => ?_⟩
    have hrestores := hwell.restores_description (hordered (Registry.ordered_new serial)) hshape
      hsize hdescribe
    exact ⟨hrestores.roundTrips, hrestores.prettyRoundTrips⟩
  · intro setups actions index limits tracer space hsetup hlimits hspace hsize
    exact Session.exists_restored hsetup hlimits hspace hsize

/-- A string is written with its quote, its line break and its control character escaped and is
restored. So is the description of a shape whose attribute has quotes in its name. A tracker that
has counted an object is restored, and the session is as if it had never been saved. -/
theorem saved_data_restored_sample :
    let value : Value := .str "\"\n\x01é"
    let asked := (Registry.new 0).ask (Registry.new 0).root (.add ⟨0⟩ .int)
    let description : ShapeDescription := ⟨⟨1⟩, [⟨"\"x\"", .int, 0⟩], 1, 0⟩
    let setups : List (Tracker × Tracer) := [(.limited (.new ⟨some 1, none⟩), .silent)]
    let session := (Session.start setups).run [.call 0 .allocate]
    (JsonForm.text value = "\x7b\"Str\":\"\\\"\\n\\u0001é\"\x7d" ∧ RoundTrips value) ∧
      (asked.2.shape.describe ⟨["\"x\""], [("\"x\"", ⟨0⟩)]⟩ = .ok description ∧
        PrettyRoundTrips description) ∧
      ∃ space, session.spaces[0]? = some space ∧ space.heap.tracker.allocationCount? = some 1 ∧
        ∃ restored : LimitedTracker,
          JsonForm.ofText? space.heap.tracker.savedText = some restored ∧
            session.withTracker 0 space restored = session := by
  intro value asked description setups session
  obtain ⟨⟨hvalue, _⟩, hshape, htracker⟩ := saved_data_restored
  have hbecomes : (Registry.new 0).Becomes asked.1 := .ask _ .refl (by decide)
  obtain ⟨_, hdescription⟩ :=
    hshape 0 asked.1 hbecomes (by decide) asked.2.shape (by decide)
      ⟨["\"x\""], [("\"x\"", ⟨0⟩)]⟩
  refine ⟨⟨by decide, hvalue value trivial⟩, ⟨by decide, (hdescription description (by decide)).2⟩,
    session.spaces[0], rfl, by decide, ?_⟩
  exact htracker setups [.call 0 .allocate] 0 ⟨some 1, none⟩ .silent session.spaces[0] rfl
    ⟨by decide, by decide⟩ rfl (by decide)

end ShapedObjects
