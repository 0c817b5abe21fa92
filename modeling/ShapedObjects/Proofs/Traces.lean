import ShapedObjects.Proofs.Moves

/-!
# The trace of an assignment

An assignment that succeeds shows the tracer a sequence of events in one of six forms, and one
that is refused shows nothing. The sequence tells whether and how the object changed its shape, and
which way the store took. Since every reported move is a step that the registry remembers, no
shape is ever moved to from two others.
-/

namespace ShapedObjects

/-- The events of boxing an attribute and storing a value in the boxed slot. -/
def boxing (name : NameId) (start target : ShapeId) : List Event :=
  [.moved start target .generalize, .specialized name .object, .written .object .generic]

/-- The forms of what an assignment that succeeds shows the tracer. -/
inductive CallTrace (name : NameId) : List Event → Prop
  /-- The cached node was used. -/
  | hit (kind : Kind) (path : Path) : CallTrace name [.written kind path]
  /-- The attribute's slot was looked up. -/
  | found (kind : Kind) (path : Path) :
      CallTrace name [.specialized name kind, .written kind path]
  /-- The object gained the attribute. -/
  | added (start target : ShapeId) (kind : Kind) (path : Path) :
      CallTrace name
        [.moved start target .addAttribute, .specialized name kind, .written kind path]
  /-- A general site boxed the attribute. -/
  | boxed (start target : ShapeId) : CallTrace name (boxing name start target)
  /-- The slot of the cached node refused the value. -/
  | refused (start target : ShapeId) {kind : Kind} :
      kind.isPrimitive = true →
      CallTrace name (.generalized name kind :: boxing name start target)
  /-- The slot that was looked up refused the value. -/
  | foundRefused (start target : ShapeId) {kind : Kind} :
      kind.isPrimitive = true →
      CallTrace name
        (.specialized name kind :: .generalized name kind :: boxing name start target)

/-- Whether a store of a primitive meets a slot of its own kind. The integer slots are also a
boolean's own. -/
def Write.meetsOwn : Write → Kind → Bool
  | .int _, .int | .float _, .float | .bool _, .boolean | .bool _, .int => true
  | _, _ => false

/-- What the events of an assignment tell of it, where `object` became `changed`. -/
structure SetSite.Traces (site : SetSite) (object changed : Object) (write : Write)
    (events : List Event) : Prop where
  /-- The events are in one of the listed forms. -/
  form : CallTrace site.name events
  /-- No event but the last is a write. -/
  onlyWrite : ∀ event ∈ events.dropLast, event.isWrite = false
  /-- The last event is a write to the slot that the attribute has then. Its path is the fast one
  exactly if the store met a slot of its own kind and no value was refused. -/
  written : ∃ location path, events.getLast? = some (.written location.kind path) ∧
    changed.shape.location? site.name = some location ∧
    (path = .fast ↔
      write.meetsOwn (site.slotKind object.shape write.initialKind) = true ∧
        ∀ kind, Event.generalized site.name kind ∉ events)
  /-- A move is reported exactly if the object changed its shape, and it is the one from the old
  shape to the new one, which has a larger number. -/
  moved : changed.shape = object.shape ∧ moves events = [] ∨
    ∃ reason, moves events = [⟨object.shape.id, changed.shape.id, reason⟩] ∧
      object.shape.id.index < changed.shape.id.index
  /-- An attribute that is added is not boxed in the same call. -/
  added : object.shape.location? site.name = none →
    ∃ kind path, events = [.moved object.shape.id changed.shape.id .addAttribute,
      .specialized site.name kind, .written kind path]

namespace CallTrace

variable {name : NameId} {events : List Event}

/-- In every form, no event but the last is a write. -/
theorem isWrite_of_mem_dropLast (h : CallTrace name events) :
    ∀ event ∈ events.dropLast, event.isWrite = false := by
  cases h <;> simp [boxing, Event.isWrite]

/-- A store that took the fast path was not refused before. -/
theorem not_mem_of_fast (h : CallTrace name events) {kind : Kind}
    (hfast : events.getLast? = some (.written kind .fast)) (refused : Kind) :
    Event.generalized name refused ∉ events := by
  cases h with
  | hit | found | added => simp
  | boxed | refused | foundRefused => simp [boxing] at hfast

end CallTrace

section Paths

/-- A store through a node takes the fast path exactly if it meets a slot of its own kind. -/
theorem WriteNode.path_eq_fast_iff (node : WriteNode) (write : Write) :
    node.path write = .fast ↔ write.meetsOwn node.kind = true := by
  cases write <;> cases hkind : node.kind <;> simp [path, Write.meetsOwn, hkind]

/-- A slot of a store's own kind holds what is stored. -/
theorem Write.fits_of_meetsOwn {write : Write} {kind : Kind} (h : write.meetsOwn kind = true) :
    write.fits kind = true := by
  cases write <;> cases kind <;> first | rfl | cases h

/-- A store meets no slot of its own kind where the slot is boxed. -/
@[simp] theorem Write.meetsOwn_object (write : Write) : write.meetsOwn .object = false := by
  cases write <;> rfl

/-- A store ends in a slot of its own kind exactly if it has met one. -/
theorem SetSite.meetsOwn_kindAfter (site : SetSite) (shape : Shape) (write : Write) :
    write.meetsOwn (site.kindAfter shape write) =
      write.meetsOwn (site.slotKind shape write.initialKind) := by
  rw [kindAfter_eq]
  split
  · rfl
  · rename_i hfits
    rw [Write.meetsOwn_object, eq_comm, ← Bool.not_eq_true]
    exact fun howns => hfits (Write.fits_of_meetsOwn howns)

/-- Where the slot that was met is used, the path is the fast one exactly if the slot is of the
store's own kind and no value was refused. -/
theorem CallTrace.path_eq_fast_iff {site : SetSite} {shape : Shape} {write : Write}
    {location : Location} {events : List Event} (h : CallTrace site.name events)
    (hkind : location.kind = site.kindAfter shape write)
    (hlast : events.getLast? =
      some (.written location.kind (WriteNode.path ⟨location⟩ write))) :
    WriteNode.path ⟨location⟩ write = .fast ↔
      write.meetsOwn (site.slotKind shape write.initialKind) = true ∧
        ∀ kind, Event.generalized site.name kind ∉ events := by
  rw [← site.meetsOwn_kindAfter, ← hkind]
  constructor
  · intro hfast
    rw [hfast] at hlast
    exact ⟨(WriteNode.path_eq_fast_iff ⟨location⟩ write).mp hfast, h.not_mem_of_fast hlast⟩
  · exact fun howns => (WriteNode.path_eq_fast_iff ⟨location⟩ write).mpr howns.1

end Paths

namespace SetSite

variable {site : SetSite} {space : Space} {target : HeapId} {object changed : Object}
  {write : Write} {effect : Effect}

/-- The events of an assignment that succeeds are in one of the listed forms. -/
theorem Performs.form
    (hperforms : site.Performs space.heap space.registry target object write effect)
    (hresult : effect.result = .ok ()) : CallTrace site.name effect.events := by
  cases hperforms with
  | stored =>
    simp only [lookupEvents]
    split
    · exact .hit _ _
    · exact .found _ _
  | boxed hlocation hkind =>
    have hprimitive := Kind.isPrimitive_iff.mpr (ne_object_of_ne_kindAfter hlocation hkind)
    simp only [refusalEvents, lookupEvents]
    split
    · exact .boxed _ _
    · split
      · exact .refused _ _ hprimitive
      · exact .foundRefused _ _ hprimitive
  | added => exact .added _ _ _ _
  | refused => cases hresult

/-- The last event is a write to the slot that the attribute has then, on the path that the store
took. -/
theorem Performs.written
    (hperforms : site.Performs space.heap space.registry target object write effect)
    (h : space.WellFormed) (hobject : space.heap.object? target = some object)
    (hheap : effect.heap = space.heap.put target changed) (hresult : effect.result = .ok ()) :
    ∃ location path, effect.events.getLast? = some (.written location.kind path) ∧
      changed.shape.location? site.name = some location ∧
      (path = .fast ↔
        write.meetsOwn (site.slotKind object.shape write.initialKind) = true ∧
          ∀ kind, Event.generalized site.name kind ∉ effect.events) := by
  have hform := hperforms.form hresult
  cases hperforms with
  | @stored location hlocation hkind =>
    obtain rfl := Heap.eq_of_put_eq hobject hheap
    refine ⟨location, _, List.getLast?_concat, ?_,
      hform.path_eq_fast_iff hkind List.getLast?_concat⟩
    rwa [Object.overwrite_shape]
  | @boxed location grown reached migrated hlocation hkind hgeneralize hmigrate =>
    obtain rfl := Heap.eq_of_put_eq hobject hheap
    have hprimitive := ne_object_of_ne_kindAfter hlocation hkind
    obtain ⟨hslot, hshape⟩ := boxed_slot h hobject hlocation hprimitive hgeneralize hmigrate
    refine ⟨reached.location, .generic, ?_, ?_, ?_⟩
    · rw [hslot, List.getLast?_append]
      rfl
    · rw [Object.overwrite_shape, hshape]
      exact (boxed_takes h hobject hlocation hprimitive hgeneralize).leads.location_eq
    · -- A general site meets a boxed slot, and any other site has had the value refused.
      refine iff_of_false (by decide) ?_
      rintro ⟨howns, hnone⟩
      cases hgeneral : site.isGeneral with
      | true =>
        rw [slotKind, if_pos hgeneral, Write.meetsOwn_object] at howns
        cases howns
      | false =>
        refine hnone location.kind (List.mem_append_left _ ?_)
        rw [refusalEvents, hgeneral]
        exact List.mem_append_right _ (List.mem_singleton.mpr rfl)
  | @added grown reached habsent hadd hslots =>
    obtain rfl := Heap.eq_of_put_eq hobject hheap
    have hleads := (added_takes h hobject habsent hadd).leads
    have hkind : reached.location.kind = site.kindAfter object.shape write :=
      hleads.kind_eq (h.of_object? hobject).2.packed
    rw [← hkind] at hform ⊢
    refine ⟨reached.location, _, rfl, ?_, hform.path_eq_fast_iff hkind rfl⟩
    rw [Object.overwrite_shape]
    exact hleads.location_eq
  | refused => cases hresult

/-- A move is reported exactly if the object changed its shape, and leads from its shape to one
with a larger number. -/
theorem Performs.moved
    (hperforms : site.Performs space.heap space.registry target object write effect)
    (h : space.WellFormed) (hordered : space.registry.Ordered)
    (hobject : space.heap.object? target = some object)
    (hheap : effect.heap = space.heap.put target changed) :
    changed.shape = object.shape ∧ moves effect.events = [] ∨
      ∃ reason, moves effect.events =
          [⟨object.shape.id, changed.shape.id, reason⟩] ∧
        object.shape.id.index < changed.shape.id.index := by
  rcases hperforms.moves_eq h hobject hheap with hsame | ⟨step, reached, htakes, hshape, hmoves⟩
  · exact Or.inl hsame
  · right
    rw [hshape]
    exact ⟨step.reason, hmoves, htakes.ordered h.registry (h.of_object? hobject).1 hordered _
      (Registry.mem_memo_of_known? htakes.known)⟩

/-- An attribute that is added is not boxed in the same call. -/
theorem Performs.added_events
    (hperforms : site.Performs space.heap space.registry target object write effect)
    (hobject : space.heap.object? target = some object)
    (hheap : effect.heap = space.heap.put target changed) (hresult : effect.result = .ok ())
    (habsent : object.shape.location? site.name = none) :
    ∃ kind path, effect.events = [.moved object.shape.id changed.shape.id .addAttribute,
      .specialized site.name kind, .written kind path] := by
  cases hperforms with
  | stored hlocation | boxed hlocation => cases habsent.symm.trans hlocation
  | added =>
    obtain rfl := Heap.eq_of_put_eq hobject hheap
    rw [Object.overwrite_shape]
    exact ⟨_, _, rfl⟩
  | refused => cases hresult

/-- An assignment that is refused shows nothing, and one that succeeds shows what it did. -/
theorem Performs.traces
    (hperforms : site.Performs space.heap space.registry target object write effect)
    (h : space.WellFormed) (hordered : space.registry.Ordered)
    (hobject : space.heap.object? target = some object) :
    (∃ error, effect.result = .error error) ∧ effect.events = [] ∨
      effect.result = .ok () ∧ ∃ changed, effect.heap = space.heap.put target changed ∧
        site.Traces object changed write effect.events := by
  obtain ⟨changed, hheap⟩ := hperforms.heap_eq hobject
  cases hresult : effect.result with
  | ok _ =>
    have hform := hperforms.form hresult
    exact Or.inr ⟨rfl, changed, hheap, hform, hform.isWrite_of_mem_dropLast,
      hperforms.written h hobject hheap hresult, hperforms.moved h hordered hobject hheap,
      hperforms.added_events hobject hheap hresult⟩
  | error error =>
    refine Or.inl ⟨⟨error, rfl⟩, ?_⟩
    cases hperforms with
    | stored | boxed | added => cases hresult
    | refused => rfl

end SetSite

/-- The move that is reported when a remembered step is taken. -/
def Move.ofEntry (entry : (ShapeId × Transition) × Reached) : Move :=
  ⟨entry.1.1, entry.2.shape.id, entry.1.2.reason⟩

/-- Every recorded move is a step that the registry remembers. -/
def Space.Remembers (space : Space) (recorded : List Move) : Prop :=
  ∀ move ∈ recorded, ∃ entry ∈ space.registry.memo, Move.ofEntry entry = move

/-- Whatever happens to the shapes of objects, the registry remembers the moves that are reported
of it. -/
theorem Space.remembers_followsShifts : FollowsShifts Space.Remembers := by
  intro space after recorded reported _ hshifts hgrown h
  have hold : after.Remembers recorded := by
    intro move hmove
    obtain ⟨entry, hentry, heq⟩ := h move hmove
    exact ⟨entry, hgrown.memo.subset hentry, heq⟩
  cases hshifts with
  | same | gained =>
    rw [List.append_nil]
    exact hold
  | moved _ htakes _ =>
    intro move hmove
    rcases List.mem_append.mp hmove with hmove | hmove
    · exact hold move hmove
    · rw [List.mem_singleton.mp hmove]
      exact ⟨_, Registry.mem_memo_of_known? htakes.known, rfl⟩

/-- No two recorded moves lead to one shape from different ones, or for different reasons. -/
theorem Space.Remembers.eq_of_target_eq {space : Space} {recorded : List Move}
    (h : space.Remembers recorded) (hregistry : space.registry.WellFormed) {first second : Move}
    (hfirst : first ∈ recorded) (hsecond : second ∈ recorded)
    (htarget : first.target = second.target) : first = second := by
  obtain ⟨entry, hentry, rfl⟩ := h first hfirst
  obtain ⟨other, hother, rfl⟩ := h second hsecond
  have hshape : entry.2.shape = other.2.shape :=
    hregistry.eq_of_id_eq (hregistry.memo entry hentry).1 (hregistry.memo other hother).1 htarget
  rw [hregistry.eq_of_shape_eq hentry hother hshape]

namespace Session

/-- In a reachable session, an assignment to an allocated object returns. A recorder that keeps
writes records nothing if it is refused, and what it did if it succeeds. -/
theorem Reachable.traced {session : Session} (h : session.Reachable) {index position : Nat}
    {space : Space} {site : SetSite} {target : HeapId} {object : Object} {before : List Event}
    (hspace : session.spaces[index]? = some space)
    (htracer : space.tracer = .recorder ⟨true, none, before⟩)
    (hsite : session.setSites[position]? = some site)
    (hobject : space.heap.object? target = some object) (write : Write) :
    ∃ later after result,
      session.step (.call index (.set position target write)) = .ok (later, .set result) ∧
      later.spaces[index]? = some after ∧
      ((∃ error, result = .error error) ∧ after.tracer = space.tracer ∨
        result = .ok () ∧ ∃ changed events, after.heap.object? target = some changed ∧
          after.tracer = .recorder ⟨true, none, before ++ events⟩ ∧
          site.Traces object changed write events) := by
  have hwell := h.wellFormed.spaces space (List.mem_of_getElem? hspace)
  obtain ⟨effect, hperforms, _, hexecute, _⟩ :=
    h.wellFormed.exists_effect hspace (List.mem_of_getElem? hsite) hobject write
  refine ⟨_, (effect.outcome space).space, effect.result,
    (Steps.assigned hspace hsite hexecute).step_eq, spaces_withSpace_self hspace _, ?_⟩
  change _ ∧ space.tracer.observeAll effect.events = _ ∨ _ ∧ ∃ changed events,
    effect.heap.object? target = some changed ∧ space.tracer.observeAll effect.events = _ ∧ _
  rw [htracer, Tracer.observeAll_recorder_all]
  rcases hperforms.traces hwell (h.ordered hspace) hobject with
    ⟨herror, hnone⟩ | ⟨hok, changed, hheap, htraces⟩
  · rw [hnone, List.append_nil]
    exact Or.inl ⟨herror, rfl⟩
  · refine Or.inr ⟨hok, changed, effect.events, ?_, rfl, htraces⟩
    rw [hheap]
    exact Heap.object?_put_self hobject changed

/-- In the moves that a recorder has seen of call sites, no shape is moved to from two others. -/
theorem moves_unique {setups : List (Tracker × Tracer)} {actions : List Action} {index : Nat}
    {tracker : Tracker} {writes : Bool} {space : Space}
    (hsetup : setups[index]? = some (tracker, .recorder (.new writes none)))
    (hquiet : ∀ event, Action.call index (.observe event) ∉ actions)
    (hspace : ((start setups).run actions).spaces[index]? = some space) :
    ∃ events, space.tracer = .recorder ⟨writes, none, events⟩ ∧
      ∀ first ∈ moves events, ∀ second ∈ moves events, first.target = second.target →
        first = second := by
  have hnew : ∀ tracer, (Space.new index tracker tracer).Remembers [] :=
    fun _ _ hmove => absurd hmove List.not_mem_nil
  obtain ⟨events, htracer, hremembers⟩ :=
    Space.remembers_followsShifts.run hnew hsetup hquiet hspace
  have hwell := ((wellFormed_start setups).run actions).spaces space (List.mem_of_getElem? hspace)
  exact ⟨events, htracer, fun _ hfirst _ hsecond htarget =>
    hremembers.eq_of_target_eq hwell.registry hfirst hsecond htarget⟩

/-- With a recorder that keeps writes and has no limit, an assignment that succeeds records events
in one of the listed forms, which tell what it did to its object, and one that is refused records
nothing. If only call sites have shown events to the recorder, no two recorded moves lead to one
shape from different shapes. -/
theorem calls_traced {setups : List (Tracker × Tracer)} {actions : List Action} {index : Nat}
    {space : Space} {before : List Event}
    (hspace : ((start setups).run actions).spaces[index]? = some space)
    (htracer : space.tracer = .recorder ⟨true, none, before⟩) :
    (∀ (position : Nat) (site : SetSite) (target : HeapId) (object : Object) (write : Write),
      ((start setups).run actions).setSites[position]? = some site →
      space.heap.object? target = some object →
      ∃ later after result,
        ((start setups).run actions).step (.call index (.set position target write)) =
          .ok (later, .set result) ∧
        later.spaces[index]? = some after ∧
        ((∃ error, result = .error error) ∧ after.tracer = space.tracer ∨
          result = .ok () ∧ ∃ changed events, after.heap.object? target = some changed ∧
            after.tracer = .recorder ⟨true, none, before ++ events⟩ ∧
            site.Traces object changed write events)) ∧
    (∀ tracker, setups[index]? = some (tracker, .recorder (.new true none)) →
      (∀ event, Action.call index (.observe event) ∉ actions) →
      ∀ first ∈ moves before, ∀ second ∈ moves before, first.target = second.target →
        first.start = second.start ∧ first.reason = second.reason) := by
  have hreachable : ((start setups).run actions).Reachable := ⟨setups, actions, rfl⟩
  constructor
  · intro position site target object write hsite hobject
    exact hreachable.traced hspace htracer hsite hobject write
  · intro tracker hsetup hquiet first hfirst second hsecond htarget
    obtain ⟨events, hevents, hunique⟩ := moves_unique hsetup hquiet hspace
    cases htracer.symm.trans hevents
    rw [hunique first hfirst second hsecond htarget]
    exact ⟨rfl, rfl⟩

/-- The integer slot of the first object was boxed. So the second object gains the attribute boxed
at once, which is what the recorder sees, and no two of its moves lead to one shape. -/
theorem calls_traced_sample :
    let setups : List (Tracker × Tracer) := [(.unlimited, .recorder (.new true none))]
    let actions : List Action := [.call 0 (.intern "x"), .call 0 .allocate, .call 0 .allocate,
      .newSetSite ⟨0⟩, .call 0 (.set 0 ⟨0⟩ (.int 7)), .call 0 (.set 0 ⟨0⟩ (.float ⟨0⟩))]
    let before : List Event := [.moved ⟨0⟩ ⟨1⟩ .addAttribute, .specialized ⟨0⟩ .int,
      .written .int .fast, .generalized ⟨0⟩ .int, .moved ⟨1⟩ ⟨2⟩ .generalize,
      .specialized ⟨0⟩ .object, .written .object .generic]
    let events : List Event :=
      [.moved ⟨0⟩ ⟨3⟩ .addAttribute, .specialized ⟨0⟩ .object, .written .object .generic]
    let site : SetSite :=
      ⟨⟨0⟩, some (⟨0, ⟨2⟩, Layout.empty.append ⟨0⟩ .object⟩, ⟨⟨.object, 0⟩⟩)⟩
    (∃ later after changed,
      ((start setups).run actions).step (.call 0 (.set 0 ⟨1⟩ (.int 8))) =
        .ok (later, .set (.ok ())) ∧
      later.spaces[0]? = some after ∧ after.tracer = .recorder ⟨true, none, before ++ events⟩ ∧
      site.Traces (.new ⟨0, ⟨0⟩, Layout.empty⟩) changed (.int 8) events) ∧
    ∀ first ∈ moves before, ∀ second ∈ moves before, first.target = second.target →
      first.start = second.start ∧ first.reason = second.reason := by
  intro setups actions before events site
  have htracers : ((start setups).run actions).spaces[0]?.map (·.tracer) =
      some (.recorder ⟨true, none, before⟩) := by decide
  have hobject : ((start setups).run actions).object? 0 ⟨1⟩ =
      some (.new ⟨0, ⟨0⟩, Layout.empty⟩) := by decide
  obtain ⟨space, hspace, htracer⟩ := Option.map_eq_some_iff.mp htracers
  rw [object?_of_space hspace] at hobject
  obtain ⟨hcalls, hmoves⟩ := calls_traced hspace htracer
  refine ⟨?_, hmoves .unlimited rfl (by simp [actions])⟩
  obtain ⟨later, after, result, hstep, hafter, hcases⟩ :=
    hcalls 0 site ⟨1⟩ _ (.int 8) (by decide) hobject
  -- Running the call shows what the recorder has then.
  have hshown : ((start setups).run (actions ++ [.call 0 (.set 0 ⟨1⟩ (.int 8))])).spaces[0]?.map
      (·.tracer) = some (.recorder ⟨true, none, before ++ events⟩) := by decide
  have hlater : (start setups).run (actions ++ [.call 0 (.set 0 ⟨1⟩ (.int 8))]) = later := by
    rw [run_append, run, List.foldl_cons, List.foldl_nil, next, hstep]
  rw [hlater, hafter] at hshown
  have hshown : after.tracer = .recorder ⟨true, none, before ++ events⟩ := Option.some.inj hshown
  rcases hcases with ⟨_, hsame⟩ | ⟨rfl, changed, recorded, _, hrecorded, htraces⟩
  · rw [hshown, htracer] at hsame
    simp [events] at hsame
  · obtain rfl : events = recorded := by
      rw [hshown] at hrecorded
      simpa using hrecorded
    exact ⟨later, after, changed, hstep, hafter, hshown, htraces⟩

end Session

end ShapedObjects
