import ShapedObjects.Proofs.AttributeMap
import ShapedObjects.Proofs.Moves

/-!
# Typed stores and boxed ones

A site can be asked to store any value, or to store a primitive that need not be boxed. The
second way spares the box where the slot is of the primitive's own kind, and is no other
assignment: the slot has the same kind afterwards and holds the same value, so the object, the
registry and the site end up the same, and of the events only the path of the closing write may
differ. There is one exception, which is what the entry for booleans is for: where a boolean
meets an integer slot that the site does not box, it becomes a number.
-/

namespace ShapedObjects

namespace Write

variable {write : Write} {kind : Kind}

/-- The kind of slot that takes a store without a box, if the store is of a primitive. -/
def ownKind? : Write → Option Kind
  | boxed _ => none
  | int _ => some .int
  | float _ => some .float
  | bool _ => some .boolean

/-- A slot that is boxed is no store's own. -/
theorem ownKind?_ne_object (write : Write) : some .object ≠ write.ownKind? := by
  cases write <;> simp [ownKind?]

/-- A new attribute gets the same kind of slot whether its value is boxed or not. -/
theorem initialKind_boxed (write : Write) :
    (boxed write.value).initialKind = write.initialKind := by
  cases write <;> rfl

/-- A boxed value that fits a kind fits it also without a box. -/
theorem fits_of_boxed (h : (boxed write.value).fits kind = true) : write.fits kind = true := by
  cases write with
  | bool _ => cases kind <;> first | rfl | exact h
  | boxed _ | int _ | float _ => exact h

/-- Where the value is kept as it is, it fits with a box if it fits without. -/
theorem fits_boxed (hkept : write.stored kind = write.value) :
    (boxed write.value).fits kind = write.fits kind := by
  rw [← write.accepts_stored, hkept]
  rfl

end Write

/-- Where the value is kept as it is, a store takes the fast path exactly into slots of its own
kind. -/
theorem WriteNode.path_eq_ite {location : Location} {write : Write}
    (hkept : write.stored location.kind = write.value) :
    path ⟨location⟩ write = if some location.kind = write.ownKind? then .fast else .generic := by
  obtain ⟨kind, index⟩ := location
  cases write with
  | boxed _ | int _ | float _ => cases kind <;> rfl
  | bool _ => cases kind <;> first | rfl | cases hkept

/-- Two lists of events that end in a write to a slot of some kind and are the same before it. In
the first list the write took the fast path if the kind is `own`, and in the second it did not. -/
def SameButPath (own : Option Kind) (kind : Kind) (first second : List Event) : Prop :=
  ∃ earlier, first = earlier ++ [.written kind (if some kind = own then .fast else .generic)] ∧
    second = earlier ++ [.written kind .generic]

namespace SetSite

variable {site : SetSite} {space : Space} {target : HeapId} {object : Object} {write : Write}

/-- A slot that an assignment does not leave as it was is boxed. -/
theorem kindAfter_of_changed {shape : Shape} {location : Location}
    (hlocation : shape.location? site.name = some location)
    (hchanged : location.kind ≠ site.kindAfter shape write) :
    site.kindAfter shape write = .object := by
  rw [kindAfter_of_location? hlocation] at hchanged ⊢
  exact if_neg fun hstays => hchanged (if_pos hstays).symm

/-- Where the value is kept as it is, the slot has the same kind afterwards whether the value was
boxed or not. -/
theorem kindAfter_boxed {shape : Shape}
    (hkept : write.stored (site.kindAfter shape write) = write.value) :
    site.kindAfter shape (.boxed write.value) = site.kindAfter shape write := by
  cases hlocation : shape.location? site.name with
  | none =>
    rw [kindAfter_of_absent hlocation, kindAfter_of_absent hlocation, write.initialKind_boxed]
  | some location =>
    rw [kindAfter_of_location? hlocation] at hkept ⊢
    rw [kindAfter_of_location? hlocation]
    by_cases hstays : site.isGeneral = false ∧ write.fits location.kind = true
    · rw [if_pos hstays] at hkept
      rw [Write.fits_boxed hkept]
    · rw [if_neg hstays, if_neg]
      exact fun hboxed => hstays ⟨hboxed.1, Write.fits_of_boxed hboxed.2⟩

/-- Where the value is kept as it is, the store of the boxed value comes to the same, and shows the
same events up to the path of the write at the end. -/
theorem Performs.boxed_value {effect : Effect}
    (hperforms : site.Performs space.heap space.registry target object write effect)
    (h : space.WellFormed) (hobject : space.heap.object? target = some object)
    (hkept : write.stored (site.kindAfter object.shape write) = write.value) :
    ∃ events, site.Performs space.heap space.registry target object (.boxed write.value)
        { effect with events := events } ∧
      ((∃ error, effect.result = .error error) ∧ effect.events = [] ∧ events = [] ∨
        effect.result = .ok () ∧
          SameButPath write.ownKind? (site.kindAfter object.shape write) effect.events events) := by
  have hkind := kindAfter_boxed hkept
  cases hperforms with
  | @stored location hlocation hstays =>
    have hboxed : site.Performs space.heap space.registry target object (.boxed write.value) _ :=
      .stored hlocation (hstays.trans hkind.symm)
    rw [← hstays] at hkept ⊢
    rw [WriteNode.path_eq_ite hkept, hkept]
    exact ⟨_, hboxed, Or.inr ⟨rfl, _, rfl, rfl⟩⟩
  | @boxed location grown reached migrated hlocation hchanged hgeneralize hmigrate =>
    have hboxed : site.Performs space.heap space.registry target object (.boxed write.value) _ :=
      .boxed hlocation (hkind ▸ hchanged) hgeneralize hmigrate
    refine ⟨_, hboxed, Or.inr ⟨rfl, site.refusalEvents object.shape location.kind ++
      [.moved object.shape.id reached.shape.id .generalize, .specialized site.name .object], ?_⟩⟩
    rw [kindAfter_of_changed hlocation hchanged, if_neg write.ownKind?_ne_object,
      List.append_assoc]
    exact ⟨rfl, rfl⟩
  | @added grown reached habsent hadd hslots =>
    have hslot : reached.location.kind = site.kindAfter object.shape write :=
      (added_takes h hobject habsent hadd).leads.kind_eq (h.of_object? hobject).2.packed
    have hboxed : site.Performs space.heap space.registry target object (.boxed write.value) _ :=
      .added habsent (hkind ▸ hadd) hslots
    rw [hkind] at hboxed
    rw [← hslot] at hkept hboxed ⊢
    rw [WriteNode.path_eq_ite hkept, hkept]
    exact ⟨_, hboxed, Or.inr ⟨rfl, [_, _], rfl, rfl⟩⟩
  | refused habsent hadd hslots =>
    rw [← hkind] at hadd
    exact ⟨_, .refused habsent hadd hslots, Or.inl ⟨⟨_, rfl⟩, rfl, rfl⟩⟩

/-- Whether a boolean becomes a number: it meets an integer slot, and the site does not box it. -/
def MakesNumber (site : SetSite) (shape : Shape) : Prop :=
  (shape.location? site.name).map (·.kind) = some .int ∧ site.state ≠ some .object

/-- A boolean that does not become a number is kept as it is. -/
theorem stored_bool_of_not_makesNumber {shape : Shape} (h : ¬ site.MakesNumber shape)
    (value : Bool) :
    (Write.bool value).stored (site.kindAfter shape (.bool value)) = .bool value := by
  rw [← site.valueAfter_eq]
  exact if_neg h

/-- The integer slot in which a boolean becomes a number stays what it is for booleans and integers,
and is boxed for a boxed boolean. -/
theorem kindAfter_of_makesNumber {shape : Shape} (h : site.MakesNumber shape) :
    ∃ location, shape.location? site.name = some location ∧ location.kind = .int ∧
      (∀ value, site.kindAfter shape (.bool value) = .int) ∧
      (∀ value, site.kindAfter shape (.int value) = .int) ∧
      ∀ value, site.kindAfter shape (.boxed (.bool value)) = .object := by
  obtain ⟨hslot, hstate⟩ := h
  obtain ⟨location, hlocation, hkind⟩ := Option.map_eq_some_iff.mp hslot
  have hgeneral : site.isGeneral = false := decide_eq_false hstate
  refine ⟨location, hlocation, hkind, ?_, ?_, ?_⟩ <;> intro value <;>
    rw [kindAfter_of_location? hlocation, hgeneral, hkind] <;> rfl

/-- A boolean that becomes a number comes to the same as that number. -/
theorem Performs.number {value : Bool} {effect : Effect}
    (hperforms : site.Performs space.heap space.registry target object (.bool value) effect)
    (h : site.MakesNumber object.shape) :
    site.Performs space.heap space.registry target object (.int (if value then 1 else 0))
      effect := by
  obtain ⟨location, hlocation, hkind, hbool, hint, _⟩ := kindAfter_of_makesNumber h
  have hstored : site.Performs space.heap space.registry target object (.bool value) _ :=
    .stored hlocation (hkind.trans (hbool value).symm)
  have hnumber : site.Performs space.heap space.registry target object
      (.int (if value then 1 else 0)) _ :=
    .stored hlocation (hkind.trans (hint _).symm)
  have hvalue : (Write.int (if value then 1 else 0)).stored location.kind =
      (Write.bool value).stored location.kind := by
    rw [hkind]
    rfl
  have hpath : WriteNode.path ⟨location⟩ (.int (if value then 1 else 0)) =
      WriteNode.path ⟨location⟩ (.bool value) := by
    simp [WriteNode.path, WriteNode.kind, hkind]
  rw [hvalue, hpath] at hnumber
  rwa [hperforms.unique hstored]

/-- A boolean that becomes a number does not come to the same as a boxed boolean, for which the slot
is boxed. -/
theorem Performs.number_ne_boxed {value : Bool} {effect other : Effect}
    (hperforms : site.Performs space.heap space.registry target object (.bool value) effect)
    (hother : site.Performs space.heap space.registry target object (.boxed (.bool value)) other)
    (hwell : space.WellFormed) (hobject : space.heap.object? target = some object)
    (h : site.MakesNumber object.shape) : effect.heap ≠ other.heap := by
  obtain ⟨location, hlocation, hkind, hbool, _, hboxed⟩ := kindAfter_of_makesNumber h
  have hstored : site.Performs space.heap space.registry target object (.bool value) _ :=
    .stored hlocation (hkind.trans (hbool value).symm)
  obtain rfl := hperforms.unique hstored
  intro hheap
  cases hother with
  | stored hlocation' hkind' =>
    cases hlocation.symm.trans hlocation'
    rw [hkind, hboxed] at hkind'
    cases hkind'
  | @boxed _ grown reached migrated hlocation' _ hgeneralize hmigrate =>
    cases hlocation.symm.trans hlocation'
    have hprimitive : location.kind ≠ .object := by
      rw [hkind]
      decide
    obtain ⟨hslot, hshape⟩ := boxed_slot hwell hobject hlocation hprimitive hgeneralize hmigrate
    have hthere : reached.shape.location? site.name = some reached.location :=
      (boxed_takes hwell hobject hlocation hprimitive hgeneralize).leads.location_eq
    -- The two objects would be on one shape, in which the slot is boxed and is not.
    have hobjects := congrArg Object.shape (Heap.eq_of_put_eq hobject hheap)
    rw [Object.overwrite_shape, Object.overwrite_shape, hshape] at hobjects
    rw [hobjects] at hlocation
    cases hlocation.symm.trans hthere
    exact hprimitive hslot
  | added habsent | refused habsent => cases hlocation.symm.trans habsent

/-- What two assignments through one site have in common when a typed store agrees with the store of
the boxed value: the results, the sites, the heaps with their trackers, the registries and the names
are equal. If they are refused they show no events, and otherwise their events are the same up to
the path of the write to the slot at the end, which is the fast one in the first list if the slot is
of the kind `own`. -/
def AgreesWithBoxed (site : SetSite) (space : Space) (target : HeapId) (write : Write)
    (own : Kind) : Prop :=
  ∃ typed boxed, site.execute space target write = .ok typed ∧
    site.execute space target (.boxed write.value) = .ok boxed ∧
    typed.result = boxed.result ∧ typed.site = boxed.site ∧
    typed.space.heap = boxed.space.heap ∧ typed.space.registry = boxed.space.registry ∧
    typed.space.interner = boxed.space.interner ∧
    typed.space.tracer = space.tracer.observeAll (site.emitted space target write) ∧
    boxed.space.tracer = space.tracer.observeAll (site.emitted space target (.boxed write.value)) ∧
    ((∃ error, typed.result = .error error) ∧ site.emitted space target write = [] ∧
        site.emitted space target (.boxed write.value) = [] ∨
      typed.result = .ok () ∧ ∃ changed location,
        typed.space.heap.object? target = some changed ∧
        changed.shape.location? site.name = some location ∧
        SameButPath (some own) location.kind (site.emitted space target write)
          (site.emitted space target (.boxed write.value)))

/-- After an assignment that succeeds, the slot of the attribute has the kind that it was to
have. -/
theorem slot_of_execute (h : space.WellFormed) (hobject : space.heap.object? target = some object)
    (hreliable : site.Reliable object.shape) {outcome : Outcome SetSite Unit}
    (hexecute : site.execute space target write = .ok outcome) (hresult : outcome.result = .ok ()) :
    ∃ changed location, outcome.space.heap.object? target = some changed ∧
      changed.shape.location? site.name = some location ∧
      location.kind = site.kindAfter object.shape write := by
  obtain ⟨outcome', hexecute', hassigns⟩ := exists_assigns h hobject hreliable write
  cases hexecute.symm.trans hexecute'
  rcases hassigns.succeeds_or_refuses h hobject hreliable with
    ⟨changed, node, _, _, hequips, _⟩ | ⟨refusal, hrefuses⟩
  · exact ⟨changed, node.location, hequips.object? hobject, hequips.location, hequips.node_kind⟩
  · rw [hrefuses.result] at hresult
    cases hresult

/-- A store whose value is kept as it is agrees with the store of the boxed value. -/
theorem agreesWithBoxed_of_kept (h : space.WellFormed)
    (hobject : space.heap.object? target = some object) (hreliable : site.Reliable object.shape)
    (hkept : write.stored (site.kindAfter object.shape write) = write.value) {own : Kind}
    (hown : write.ownKind? = some own) : site.AgreesWithBoxed space target write own := by
  obtain ⟨effect, hperforms, hexecute⟩ := exists_performs h hobject hreliable write
  obtain ⟨events, hboxed, hevents⟩ := hperforms.boxed_value h hobject hkept
  refine ⟨_, _, hexecute, hboxed.execute_eq h hobject hreliable, rfl, rfl, rfl, rfl, rfl, ?_⟩
  rw [hperforms.emitted_eq h hobject hreliable, hboxed.emitted_eq h hobject hreliable]
  refine ⟨rfl, rfl, ?_⟩
  rcases hevents with hrefused | ⟨hresult, hsame⟩
  · exact Or.inl hrefused
  · obtain ⟨changed, location, hchanged, hlocation, hkind⟩ :=
      slot_of_execute h hobject hreliable hexecute hresult
    rw [← hkind, hown] at hsame
    exact Or.inr ⟨hresult, changed, location, hchanged, hlocation, hsame⟩

end SetSite

namespace Session

/-- Storing an integer or a float as one agrees with storing the boxed value, whatever the site, the
object and the slot are: all but the path of the closing write is the same. So it is for a boolean,
unless it meets an integer slot that the site does not box. Then storing it is storing the number 0
or 1 in everything, and not what storing the boxed boolean is. -/
theorem typed_entries_agree {session : Session} (h : session.Reachable) {index : Nat}
    {space : Space} {site : SetSite} {target : HeapId} {object : Object}
    (hspace : session.spaces[index]? = some space) (hsite : site ∈ session.setSites)
    (hobject : space.heap.object? target = some object) :
    (∀ value, site.AgreesWithBoxed space target (.int value) .int) ∧
    (∀ value, site.AgreesWithBoxed space target (.float value) .float) ∧
    (¬ site.MakesNumber object.shape →
      ∀ value, site.AgreesWithBoxed space target (.bool value) .boolean) ∧
    (site.MakesNumber object.shape → ∀ value,
      site.execute space target (.bool value) =
        site.execute space target (.int (if value then 1 else 0)) ∧
      site.emitted space target (.bool value) =
        site.emitted space target (.int (if value then 1 else 0)) ∧
      ¬ site.AgreesWithBoxed space target (.bool value) .boolean) := by
  have hwell := h.wellFormed.spaces space (List.mem_of_getElem? hspace)
  have hreliable := h.wellFormed.setSite_reliable hsite hspace (hwell.of_object? hobject).1
  refine ⟨?_, ?_, ?_, ?_⟩
  · exact fun value => SetSite.agreesWithBoxed_of_kept hwell hobject hreliable rfl rfl
  · exact fun value => SetSite.agreesWithBoxed_of_kept hwell hobject hreliable rfl rfl
  · intro hkeeps value
    exact SetSite.agreesWithBoxed_of_kept hwell hobject hreliable
      (SetSite.stored_bool_of_not_makesNumber hkeeps value) rfl
  · intro hnumber value
    obtain ⟨effect, hperforms, hexecute⟩ :=
      SetSite.exists_performs hwell hobject hreliable (.bool value)
    have hsame := hperforms.number hnumber
    refine ⟨?_, ?_, ?_⟩
    · rw [hexecute, hsame.execute_eq hwell hobject hreliable]
    · rw [hperforms.emitted_eq hwell hobject hreliable, hsame.emitted_eq hwell hobject hreliable]
    · rintro ⟨typed, boxed, htyped, hboxed, _, _, hheap, _⟩
      obtain ⟨other, hother, hexecute'⟩ :=
        SetSite.exists_performs hwell hobject hreliable (.boxed (.bool value))
      cases hexecute.symm.trans htyped
      cases hexecute'.symm.trans hboxed
      exact hperforms.number_ne_boxed hother hwell hobject hnumber hheap

/-- The integer slot of the sample takes a boolean as a number and a float in a box. -/
theorem typed_entries_agree_sample :
    sampleSite.AgreesWithBoxed sample.spaces[0] ⟨0⟩ (.float ⟨0⟩) .float ∧
      sampleSite.execute sample.spaces[0] ⟨0⟩ (.bool true) =
        sampleSite.execute sample.spaces[0] ⟨0⟩ (.int 1) ∧
      ¬ sampleSite.AgreesWithBoxed sample.spaces[0] ⟨0⟩ (.bool true) .boolean := by
  have hspace : sample.spaces[0]? = some sample.spaces[0] := by rfl
  have hsite : sampleSite ∈ sample.setSites := by decide
  have hobject : sample.spaces[0].heap.object? ⟨0⟩ = some sampleObject := by decide
  have hnumber : sampleSite.MakesNumber sampleObject.shape := ⟨by decide, by decide⟩
  obtain ⟨_, hfloat, _, hbool⟩ := typed_entries_agree sample_reachable hspace hsite hobject
  obtain ⟨hexecute, _, hdiffers⟩ := hbool hnumber true
  exact ⟨hfloat ⟨0⟩, hexecute, hdiffers⟩

end Session

end ShapedObjects
