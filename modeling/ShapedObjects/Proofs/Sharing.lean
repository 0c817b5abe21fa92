import ShapedObjects.Proofs.Effects

/-!
# Sharing of shapes

Every assignment shows the tracer which step between shapes its object takes, if any. The
steps that an object was seen to take since its allocation are its history. The shape of
an object is reached by exactly these steps from the empty shape, whatever else happened
on the way. So two objects of one space are on the same shape exactly if they have the same
history.
-/

namespace ShapedObjects

/-- The steps that are seen in the events of a call: that an object moved to another shape, for
which then the slot of the attribute was cached. -/
def stepsShown : List Event → List Transition
  | .moved _ _ .addAttribute :: .specialized name kind :: events =>
    .add name kind :: stepsShown events
  | .moved _ _ .generalize :: .specialized name _ :: events =>
    .generalize name :: stepsShown events
  | _ :: events => stepsShown events
  | [] => []

namespace SetSite

variable {site : SetSite} {space : Space} {target : HeapId} {object : Object} {write : Write}

/-- Looking up a slot is no step. -/
theorem stepsShown_lookupEvents (site : SetSite) (shape : Shape) (kind : Kind)
    (rest : List Event) : stepsShown (site.lookupEvents shape kind ++ rest) = stepsShown rest := by
  unfold lookupEvents
  split <;> rfl

/-- Neither is the refusal of a value. -/
theorem stepsShown_refusalEvents (site : SetSite) (shape : Shape) (kind : Kind)
    (rest : List Event) : stepsShown (site.refusalEvents shape kind ++ rest) = stepsShown rest := by
  unfold refusalEvents
  split
  · rfl
  · rw [List.append_assoc, stepsShown_lookupEvents]
    rfl

/-- An assignment takes its object on by the step that it shows, if it shows one, from whatever
history the object has. It touches no other object. -/
theorem Performs.reaches {effect : Effect} {steps : List Transition}
    (hperforms : site.Performs space.heap space.registry target object write effect)
    (h : space.WellFormed) (hobject : space.heap.object? target = some object)
    (hsteps : space.registry.Reaches steps object.shape) :
    ∃ changed, effect.heap = space.heap.put target changed ∧
      effect.registry.Reaches (steps ++ stepsShown effect.events) changed.shape := by
  cases hperforms with
  | stored =>
    refine ⟨_, rfl, ?_⟩
    rw [Object.overwrite_shape, stepsShown_lookupEvents]
    change space.registry.Reaches (steps ++ []) object.shape
    rwa [List.append_nil]
  | boxed hlocation hkind hgeneralize hmigrate =>
    refine ⟨_, rfl, ?_⟩
    have hprimitive := ne_object_of_ne_kindAfter hlocation hkind
    obtain ⟨_, hshape⟩ := boxed_slot h hobject hlocation hprimitive hgeneralize hmigrate
    rw [Object.overwrite_shape, stepsShown_refusalEvents, hshape]
    exact (boxed_takes h hobject hlocation hprimitive hgeneralize).reaches hsteps
  | added habsent hadd hslots =>
    refine ⟨_, rfl, ?_⟩
    rw [Object.overwrite_shape]
    exact (added_takes h hobject habsent hadd).reaches hsteps
  | refused habsent hadd hslots =>
    refine ⟨object, (Heap.put_object? hobject).symm, ?_⟩
    rw [stepsShown, List.append_nil]
    exact hsteps.extends (added_takes h hobject habsent hadd).grown

end SetSite

/-- Lists of steps are the histories of the objects of a space: they lead to the shapes that the
objects are on, and what is not allocated has none. -/
structure Space.Tracks (space : Space) (histories : HeapId → List Transition) : Prop where
  /-- The history of an object leads to its shape. -/
  allocated : ∀ target object, space.heap.object? target = some object →
    space.registry.Reaches (histories target) object.shape
  /-- There is no history before the allocation. -/
  free : ∀ target, space.heap.object? target = none → histories target = []

namespace Space.Tracks

variable {space : Space} {histories : HeapId → List Transition}

/-- An object starts on the empty shape. -/
theorem allocate (h : space.Tracks histories) : space.allocate.1.Tracks histories := by
  rcases space.heap.allocate_objects space.registry.root with hsame | hmore
  · have hobject? : ∀ target, space.allocate.1.heap.object? target = space.heap.object? target :=
      fun target => congrArg (·[target.index]?) hsame
    exact ⟨fun target object hobject => h.allocated target object (hobject? target ▸ hobject),
      fun target hfree => h.free target (hobject? target ▸ hfree)⟩
  · have hobject? : ∀ target, space.allocate.1.heap.object? target =
        (space.heap.objects ++ [.new space.registry.root])[target.index]? :=
      fun target => congrArg (·[target.index]?) hmore
    constructor
    · intro target object hobject
      rw [hobject?] at hobject
      cases hold : space.heap.object? target with
      | some old =>
        obtain ⟨hlt, _⟩ := List.getElem?_eq_some_iff.mp hold
        rw [List.getElem?_append_left hlt] at hobject
        exact h.allocated target object hobject
      | none =>
        rw [h.free target hold]
        have hle := List.getElem?_eq_none_iff.mp hold
        rw [List.getElem?_append_right hle] at hobject
        obtain rfl := List.mem_singleton.mp (List.mem_of_getElem? hobject)
        exact .root
    · intro target hfree
      rw [hobject?, List.getElem?_eq_none_iff, List.length_append] at hfree
      exact h.free target (List.getElem?_eq_none_iff.mpr (by omega))

/-- An assignment extends the history of its object by the step that it shows. -/
theorem performs {site : SetSite} {target : HeapId} {object : Object} {write : Write}
    {effect : Effect} (h : space.Tracks histories) (hwell : space.WellFormed)
    (hobject : space.heap.object? target = some object)
    (hperforms : site.Performs space.heap space.registry target object write effect) :
    (effect.outcome space).space.Tracks fun other =>
      histories other ++ if target = other then stepsShown effect.events else [] := by
  obtain ⟨changed, hheap, hreaches⟩ :=
    hperforms.reaches hwell hobject (h.allocated target object hobject)
  have hother : ∀ other, target ≠ other →
      effect.heap.object? other = space.heap.object? other := by
    intro other hne
    rw [hheap, Heap.object?_put_of_ne hne.symm]
  constructor
  · intro other found hfound
    by_cases heq : target = other
    · subst heq
      have hself : effect.heap.object? target = some found := hfound
      rw [hheap, Heap.object?_put_self hobject] at hself
      cases hself
      rw [if_pos rfl]
      exact hreaches
    · rw [if_neg heq, List.append_nil]
      exact (h.allocated other found ((hother other heq).symm.trans hfound)).extends
        (hperforms.grown hwell hobject)
  · intro other hfree
    by_cases heq : target = other
    · subst heq
      have hself : effect.heap.object? target = none := hfree
      rw [hheap, Heap.object?_put_self hobject] at hself
      cases hself
    · rw [if_neg heq, List.append_nil]
      exact h.free other ((hother other heq).symm.trans hfree)

end Space.Tracks

namespace Session

/-- The steps that an object is seen to take in the course of an action. -/
def taken (session : Session) (index : Nat) (target : HeapId) : Action → List Transition
  | .call place (.set position assignee write) =>
    if place = index ∧ assignee = target then
      match session.spaces[index]?, session.setSites[position]? with
      | some space, some site => stepsShown (site.emitted space target write)
      | _, _ => []
    else []
  | _ => []

/-- The steps that an object is seen to take in the course of some actions. -/
def history (session : Session) (index : Nat) (target : HeapId) : List Action → List Transition
  | [] => []
  | action :: actions =>
    session.taken index target action ++ (session.next action).history index target actions

/-- Lists of steps are the histories of all objects of a session. -/
def Tracks (session : Session) (histories : Nat → HeapId → List Transition) : Prop :=
  ∀ (index : Nat) (space : Space), session.spaces[index]? = some space →
    space.Tracks (histories index)

section Runs

variable {session later : Session} {action : Action} {reply : Reply}
  {histories later' : Nat → HeapId → List Transition}

/-- At the start nothing is allocated. -/
theorem tracks_start (setups : List (Tracker × Tracer)) :
    (start setups).Tracks fun _ _ => [] := by
  intro index space hspace
  rw [start, List.getElem?_mapIdx, Option.map_eq_some_iff] at hspace
  obtain ⟨setup, _, rfl⟩ := hspace
  refine ⟨?_, fun _ _ => rfl⟩
  intro target object hobject
  simp [Space.new, Heap.new, Heap.object?] at hobject

/-- One space may be replaced by one of which the histories are known. -/
theorem Tracks.withSpace (h : session.Tracks histories) {place : Nat} {space after : Space}
    (hspace : session.spaces[place]? = some space) (hafter : after.Tracks (later' place))
    (hother : ∀ index, place ≠ index → later' index = histories index) :
    (session.withSpace place after).Tracks later' := by
  intro index other hindex
  by_cases heq : place = index
  · subst heq
    cases (spaces_withSpace_self hspace after).symm.trans hindex
    exact hafter
  · rw [spaces_withSpace_of_ne heq] at hindex
    rw [hother index heq]
    exact h index other hindex

/-- Of an assignment, the object that is assigned to takes what is shown, and no other object takes
a step. -/
theorem taken_set {place position : Nat} {space : Space} {site : SetSite} {assignee : HeapId}
    {write : Write} (hspace : session.spaces[place]? = some space)
    (hsite : session.setSites[position]? = some site) (index : Nat) (target : HeapId) :
    session.taken index target (.call place (.set position assignee write)) =
      if place = index ∧ assignee = target then stepsShown (site.emitted space assignee write)
      else [] := by
  simp only [taken]
  split_ifs with heq
  · obtain ⟨rfl, rfl⟩ := heq
    simp only [hspace, hsite]
  · rfl

/-- Every step extends the histories by what is seen of it. -/
theorem Steps.tracks (hsteps : session.Steps action later reply) (hwell : session.WellFormed)
    (h : session.Tracks histories) :
    later.Tracks fun index target =>
      histories index target ++ session.taken index target action := by
  cases hsteps with
  | interned name hspace =>
    simp only [taken, List.append_nil]
    have hspaces := h _ _ hspace
    exact h.withSpace hspace ⟨hspaces.allocated, hspaces.free⟩ fun _ _ => rfl
  | observed event hspace =>
    simp only [taken, List.append_nil]
    have hspaces := h _ _ hspace
    exact h.withSpace hspace ⟨hspaces.allocated, hspaces.free⟩ fun _ _ => rfl
  | allocated hspace =>
    simp only [taken, List.append_nil]
    exact h.withSpace hspace (h _ _ hspace).allocate fun _ _ => rfl
  | loaded hspace hsite hexecute =>
    simp only [taken, List.append_nil]
    have hspaces := h _ _ hspace
    obtain ⟨source, hsource⟩ := GetSite.object?_of_execute hexecute
    refine h.withSpace hspace ?_ fun _ _ => rfl
    cases hwell.loads hspace hsite hsource hexecute <;>
      exact ⟨hspaces.allocated, hspaces.free⟩
  | newSetSite | newGetSite | copySetSite | copyGetSite =>
    simp only [taken, List.append_nil]
    exact h
  | @assigned place position space site assignee write outcome hspace hsite hexecute =>
    obtain ⟨object, hobject⟩ := SetSite.object?_of_execute hexecute
    have hspaceWell := hwell.spaces space (List.mem_of_getElem? hspace)
    obtain ⟨effect, hperforms, _, hexecute', hevents⟩ :=
      hwell.exists_effect hspace (List.mem_of_getElem? hsite) hobject write
    cases hexecute.symm.trans hexecute'
    simp only [taken_set hspace hsite, hevents]
    refine h.withSpace hspace ?_ ?_
    · simpa only [true_and] using (h place space hspace).performs hspaceWell hobject hperforms
    · intro index hne
      simp only [hne, false_and, if_false, List.append_nil]

/-- Nothing is seen of an action that faults. -/
theorem WellFormed.taken_of_fault (hwell : session.WellFormed) {fault : Fault}
    (hstep : session.step action = .error fault) (index : Nat) (target : HeapId) :
    session.taken index target action = [] := by
  unfold taken
  split
  · rename_i place position assignee write
    split
    · rename_i hplace
      obtain ⟨rfl, rfl⟩ := hplace
      split
      · rename_i space site hspace hsite
        cases hobject : space.heap.object? assignee with
        | none =>
          rw [SetSite.emitted_of_unallocated hobject]
          rfl
        | some object =>
          obtain ⟨outcome, hexecute, _⟩ := hwell.exists_assignment hspace hsite hobject write
          cases hstep.symm.trans (Steps.assigned hspace hsite hexecute).step_eq
      · rfl
    · rfl
  · rfl

/-- Every action extends the histories by what is seen of it, also one that faults. -/
theorem WellFormed.next_tracks (hwell : session.WellFormed) (h : session.Tracks histories)
    (action : Action) : (session.next action).Tracks
      fun index target => histories index target ++ session.taken index target action := by
  rcases session.next_cases action with ⟨later, reply, hstep, hnext⟩ | ⟨fault, hstep, hnext⟩
  · rw [hnext]
    exact (steps_of_step hstep).tracks hwell h
  · simp only [hnext, hwell.taken_of_fault hstep, List.append_nil]
    exact h

/-- Every run extends the histories by what is seen of it. -/
theorem WellFormed.run_tracks (hwell : session.WellFormed) (h : session.Tracks histories)
    (actions : List Action) : (session.run actions).Tracks
      fun index target => histories index target ++ session.history index target actions := by
  induction actions generalizing session histories with
  | nil =>
    simp only [history, List.append_nil]
    exact h
  | cons action actions ih =>
    simp only [history, ← List.append_assoc]
    exact ih (hwell.next action) (hwell.next_tracks h action)

/-- Two objects of a space are on the same shape, and on shapes of the same number, exactly if they
have the same history, whatever else was done before, between and after the steps. The history
of an object says what its layout is. -/
theorem same_shape_iff_same_history (setups : List (Tracker × Tracer)) (actions : List Action)
    {index : Nat} {first second : HeapId} {a b : Object}
    (ha : ((start setups).run actions).object? index first = some a)
    (hb : ((start setups).run actions).object? index second = some b) :
    (a.shape.same b.shape = true ↔
      (start setups).history index first actions = (start setups).history index second actions) ∧
    (a.shape.id = b.shape.id ↔
      (start setups).history index first actions = (start setups).history index second actions) ∧
    a.shape.layout = ((start setups).history index first actions).foldl
      (fun layout step => step.apply layout) Layout.empty := by
  have hwell := (wellFormed_start setups).run actions
  have htracks := (wellFormed_start setups).run_tracks (tracks_start setups) actions
  obtain ⟨space, hspace, ha⟩ := Option.bind_eq_some_iff.mp ha
  rw [object?_of_space hspace] at hb
  have hregistry := (hwell.spaces space (List.mem_of_getElem? hspace)).registry
  have hfirst : space.registry.Reaches ((start setups).history index first actions) a.shape :=
    (htracks index space hspace).allocated first a ha
  have hsecond : space.registry.Reaches ((start setups).history index second actions) b.shape :=
    (htracks index space hspace).allocated second b hb
  have hissued := hfirst.issued hregistry
  have hissued' := hsecond.issued hregistry
  refine ⟨?_, ?_, hfirst.layout_eq hregistry⟩
  · rw [hregistry.same_iff hissued hissued']
    exact hfirst.eq_iff hsecond hregistry
  · rw [← hfirst.eq_iff hsecond hregistry]
    exact ⟨hregistry.eq_of_id_eq hissued hissued', fun heq => congrArg Shape.id heq⟩

end Runs

/-- Through different sites, one object after the other gains an integer slot and has it boxed. -/
theorem same_shape_iff_same_history_sample :
    let actions : List Action := [.call 0 (.intern "x"), .call 0 .allocate, .call 0 .allocate,
      .newSetSite ⟨0⟩, .newSetSite ⟨0⟩, .call 0 (.set 0 ⟨0⟩ (.int 7)),
      .call 0 (.set 0 ⟨0⟩ (.float ⟨0⟩)), .call 0 (.set 1 ⟨1⟩ (.int 8)),
      .call 0 (.set 1 ⟨1⟩ (.bool true)), .call 0 (.set 1 ⟨1⟩ (.boxed .none))]
    ∃ a b, ((start [(.unlimited, .silent)]).run actions).object? 0 ⟨0⟩ = some a ∧
      ((start [(.unlimited, .silent)]).run actions).object? 0 ⟨1⟩ = some b ∧
      (start [(.unlimited, .silent)]).history 0 ⟨0⟩ actions = [.add ⟨0⟩ .int, .generalize ⟨0⟩] ∧
      a.shape.same b.shape = true := by
  intro actions
  have ha : ((start [(.unlimited, .silent)]).run actions).object? 0 ⟨0⟩ = some
      ⟨⟨0, ⟨2⟩, Layout.empty.append ⟨0⟩ .object⟩, [], [.float ⟨0⟩]⟩ := by decide
  have hb : ((start [(.unlimited, .silent)]).run actions).object? 0 ⟨1⟩ = some
      ⟨⟨0, ⟨2⟩, Layout.empty.append ⟨0⟩ .object⟩, [], [.none]⟩ := by decide
  have hfirst : (start [(.unlimited, .silent)]).history 0 ⟨0⟩ actions =
      [.add ⟨0⟩ .int, .generalize ⟨0⟩] := by decide
  have hsecond : (start [(.unlimited, .silent)]).history 0 ⟨1⟩ actions =
      [.add ⟨0⟩ .int, .generalize ⟨0⟩] := by decide
  exact ⟨_, _, ha, hb, hfirst,
    (same_shape_iff_same_history _ actions ha hb).1.mpr (hfirst.trans hsecond.symm)⟩

end Session

end ShapedObjects
