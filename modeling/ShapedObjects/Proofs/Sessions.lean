import ShapedObjects.Session
import ShapedObjects.Proofs.Spaces

/-!
# Reachable sessions

A session starts with some spaces and goes on action by action. This file says what it
is to be reachable, and lists once what each action does when it does not fault, so that
whatever is to be shown of all actions is shown case by case.
-/

namespace ShapedObjects

namespace Session

/-- A session of spaces with the given trackers and tracers, without objects and sites. -/
def start (setups : List (Tracker × Tracer)) : Session where
  spaces := setups.mapIdx fun serial setup => .new serial setup.1 setup.2
  setSites := []
  getSites := []

/-- A session of equal spaces starts so. -/
theorem new_eq_start (count : Nat) (tracker : Tracker) (tracer : Tracer) :
    new count tracker tracer = start (List.replicate count (tracker, tracer)) := by
  have hspaces : (List.range count).map (fun serial => Space.new serial tracker tracer) =
      (List.replicate count (tracker, tracer)).mapIdx
        fun serial setup => .new serial setup.1 setup.2 := by
    refine List.ext_getElem (by simp) fun index _ _ => ?_
    simp
  rw [new, start, hspaces]

/-- The sessions that some actions lead to. -/
def Reachable (session : Session) : Prop :=
  ∃ setups actions, session = (start setups).run actions

/-- Every session of equal spaces can be reached. -/
theorem reachable_new (count : Nat) (tracker : Tracker) (tracer : Tracer) :
    (new count tracker tracer).Reachable :=
  ⟨List.replicate count (tracker, tracer), [], new_eq_start count tracker tracer⟩

/-- A run can be split. -/
theorem run_append (session : Session) (first second : List Action) :
    session.run (first ++ second) = (session.run first).run second :=
  List.foldl_append

/-- What can be reached can be gone on from. -/
theorem Reachable.run {session : Session} (h : session.Reachable) (actions : List Action) :
    (session.run actions).Reachable := by
  obtain ⟨setups, before, rfl⟩ := h
  exact ⟨setups, before ++ actions, (run_append _ _ _).symm⟩

/-- Two spaces that share a set site and a get site for one attribute. The object of the first space
holds 7 there, and the object of the second, on which no slot is allowed, lacks it. -/
def sample : Session :=
  (start [(.unlimited, .silent), (.limited ⟨⟨none, some 0⟩, 0⟩, .silent)]).run
    [.call 0 (.intern "x"), .call 0 .allocate, .call 1 .allocate, .newSetSite ⟨0⟩, .newGetSite ⟨0⟩,
      .call 0 (.set 0 ⟨0⟩ (.int 7))]

theorem sample_reachable : sample.Reachable :=
  ⟨_, _, rfl⟩

/-- The object of the first space of the sample. -/
def sampleObject : Object :=
  ⟨⟨0, ⟨1⟩, Layout.empty.append ⟨0⟩ .int⟩, [7], []⟩

/-- The set site of the sample, which has cached the shape of that object. -/
def sampleSite : SetSite :=
  ⟨⟨0⟩, some (sampleObject.shape, ⟨⟨.int, 0⟩⟩)⟩

/-- The session with another space at a position. -/
def withSpace (session : Session) (index : Nat) (space : Space) : Session :=
  { session with spaces := session.spaces.set index space }

/-- The object of a given number on the space at a position. -/
def object? (session : Session) (index : Nat) (target : HeapId) : Option Object :=
  session.spaces[index]?.bind (·.heap.object? target)

/-- Putting back an item as it is changes nothing. -/
theorem set_item {α : Type} {items : List α} {index : Nat} {item : α}
    (hitem : items[index]? = some item) : items.set index item = items := by
  obtain ⟨_, rfl⟩ := List.getElem?_eq_some_iff.mp hitem
  exact List.set_getElem_self _

section Objects

variable {session : Session} {index : Nat} {space : Space}

/-- Putting back a space as it is changes nothing. -/
theorem withSpace_self (hspace : session.spaces[index]? = some space) :
    session.withSpace index space = session := by
  rw [withSpace, set_item hspace]

/-- A space that was put at a position is found there. -/
theorem spaces_withSpace_self (hspace : session.spaces[index]? = some space) (after : Space) :
    (session.withSpace index after).spaces[index]? = some after := by
  obtain ⟨hlt, _⟩ := List.getElem?_eq_some_iff.mp hspace
  exact List.getElem?_set_self hlt

/-- What a new space has in common with the one in its place is the same for all spaces. -/
theorem map_withSpace {α : Type} {f : Space → α} {after : Space}
    (hspace : session.spaces[index]? = some space) (hsame : f after = f space) :
    (session.withSpace index after).spaces.map f = session.spaces.map f := by
  have hitem : (session.spaces.map f)[index]? = some (f after) := by
    rw [List.getElem?_map, hspace, hsame, Option.map_some]
  rw [withSpace, List.map_set, set_item hitem]

/-- All other spaces are found as before. -/
theorem spaces_withSpace_of_ne {other : Nat} (hne : index ≠ other) (after : Space) :
    (session.withSpace index after).spaces[other]? = session.spaces[other]? :=
  List.getElem?_set_ne hne

theorem object?_of_space (hspace : session.spaces[index]? = some space) (target : HeapId) :
    session.object? index target = space.heap.object? target := by
  rw [object?, hspace]
  rfl

/-- The objects of a space that was replaced are those of the new space. -/
theorem object?_withSpace_self (hspace : session.spaces[index]? = some space) (after : Space)
    (target : HeapId) : (session.withSpace index after).object? index target =
      after.heap.object? target :=
  object?_of_space (spaces_withSpace_self hspace after) target

/-- The objects of all other spaces stay. -/
theorem object?_withSpace_of_ne {other : Nat} (hne : index ≠ other) (after : Space)
    (target : HeapId) :
    (session.withSpace index after).object? other target = session.object? other target := by
  rw [object?, spaces_withSpace_of_ne hne, object?]

/-- All objects stay if the new space has the heap of the old one. -/
theorem object?_withSpace_of_heap_eq {after : Space} (hspace : session.spaces[index]? = some space)
    (hheap : after.heap = space.heap) (other : Nat) (target : HeapId) :
    (session.withSpace index after).object? other target = session.object? other target := by
  by_cases heq : index = other
  · subst heq
    rw [object?_withSpace_self hspace, hheap, object?_of_space hspace]
  · exact object?_withSpace_of_ne heq after target

/-- Replacing one object of one space leaves all others. -/
theorem object?_of_replaced {after : Space} (hspace : session.spaces[index]? = some space)
    {target : HeapId} {changed : Object} (hheap : after.heap = space.heap.put target changed)
    {otherIndex : Nat} {other : HeapId} (hne : (otherIndex, other) ≠ (index, target)) :
    (session.withSpace index after).object? otherIndex other =
      session.object? otherIndex other := by
  by_cases hindex : index = otherIndex
  · subst hindex
    have hother : other ≠ target := fun heq => hne (by rw [heq])
    rw [object?_withSpace_self hspace, hheap, Heap.object?_put_of_ne hother,
      object?_of_space hspace]
  · exact object?_withSpace_of_ne hindex after other

end Objects

/-- What an action that does not fault makes of a session, and what it answers. -/
inductive Steps (session : Session) : Action → Session → Reply → Prop
  | interned {index : Nat} {space : Space} (name : String) :
      session.spaces[index]? = some space →
      Steps session (.call index (.intern name)) (session.withSpace index (space.intern name).1)
        (.interned (space.intern name).2)
  | allocated {index : Nat} {space : Space} :
      session.spaces[index]? = some space →
      Steps session (.call index .allocate) (session.withSpace index space.allocate.1)
        (.allocated space.allocate.2)
  | assigned {index position : Nat} {space : Space} {site : SetSite} {target : HeapId}
      {write : Write} {outcome : Outcome SetSite Unit} :
      session.spaces[index]? = some space → session.setSites[position]? = some site →
      site.execute space target write = .ok outcome →
      Steps session (.call index (.set position target write))
        { session.withSpace index outcome.space with
          setSites := session.setSites.set position outcome.site }
        (.set outcome.result)
  | loaded {index position : Nat} {space : Space} {site : GetSite} {target : HeapId}
      {load : Load} {outcome : Outcome GetSite Loaded} :
      session.spaces[index]? = some space → session.getSites[position]? = some site →
      site.execute space target load = .ok outcome →
      Steps session (.call index (.get position target load))
        { session.withSpace index outcome.space with
          getSites := session.getSites.set position outcome.site }
        (.got outcome.result)
  | observed {index : Nat} {space : Space} (event : Event) :
      session.spaces[index]? = some space →
      Steps session (.call index (.observe event)) (session.withSpace index (space.observe event))
        .observed
  | newSetSite (name : NameId) :
      Steps session (.newSetSite name)
        { session with setSites := session.setSites ++ [.new name] }
        (.site session.setSites.length)
  | newGetSite (name : NameId) :
      Steps session (.newGetSite name)
        { session with getSites := session.getSites ++ [.new name] }
        (.site session.getSites.length)
  | copySetSite {position : Nat} {site : SetSite} :
      session.setSites[position]? = some site →
      Steps session (.copySetSite position)
        { session with setSites := session.setSites ++ [site] } (.site session.setSites.length)
  | copyGetSite {position : Nat} {site : GetSite} :
      session.getSites[position]? = some site →
      Steps session (.copyGetSite position)
        { session with getSites := session.getSites ++ [site] } (.site session.getSites.length)

section Inversion

variable {session later : Session} {action : Action} {reply : Reply}

theorem item_eq_ok_iff {α : Type} {items : List α} {index : Nat} {found : α} :
    item items index = .ok found ↔ items[index]? = some found := by
  unfold item
  cases items[index]? with
  | none => simp
  | some found' => simp

/-- A step that does not fault is one of those listed. -/
theorem steps_of_step (h : session.step action = .ok (later, reply)) :
    session.Steps action later reply := by
  cases action with
  | newSetSite name =>
    cases h
    exact .newSetSite name
  | newGetSite name =>
    cases h
    exact .newGetSite name
  | copySetSite position =>
    obtain ⟨site, hsite, h⟩ := ok_of_bind h
    cases h
    exact .copySetSite (item_eq_ok_iff.mp hsite)
  | copyGetSite position =>
    obtain ⟨site, hsite, h⟩ := ok_of_bind h
    cases h
    exact .copyGetSite (item_eq_ok_iff.mp hsite)
  | call index call =>
    obtain ⟨space, hspace, h⟩ := ok_of_bind h
    have hspace := item_eq_ok_iff.mp hspace
    cases call with
    | intern name =>
      cases h
      exact .interned name hspace
    | allocate =>
      cases h
      exact .allocated hspace
    | observe event =>
      cases h
      exact .observed event hspace
    | set position target write =>
      obtain ⟨site, hsite, h⟩ := ok_of_bind h
      obtain ⟨outcome, hexecute, h⟩ := ok_of_bind h
      cases h
      exact .assigned hspace (item_eq_ok_iff.mp hsite) hexecute
    | get position target load =>
      obtain ⟨site, hsite, h⟩ := ok_of_bind h
      obtain ⟨outcome, hexecute, h⟩ := ok_of_bind h
      cases h
      exact .loaded hspace (item_eq_ok_iff.mp hsite) hexecute

/-- An action makes of a session what its step makes of it, or nothing if the step faults. -/
theorem next_cases (session : Session) (action : Action) :
    (∃ later reply, session.step action = .ok (later, reply) ∧ session.next action = later) ∨
      ∃ fault, session.step action = .error fault ∧ session.next action = session := by
  unfold next
  cases session.step action with
  | ok answer => exact Or.inl ⟨answer.1, answer.2, rfl, rfl⟩
  | error fault => exact Or.inr ⟨fault, rfl, rfl⟩

/-- An assignment that does not fault is a call through a set site on a space. -/
theorem assigned_of_step {index position : Nat} {target : HeapId} {write : Write}
    (h : session.step (.call index (.set position target write)) = .ok (later, reply)) :
    ∃ space site outcome, session.spaces[index]? = some space ∧
      session.setSites[position]? = some site ∧
      site.execute space target write = .ok outcome ∧ reply = .set outcome.result ∧
      later = { session.withSpace index outcome.space with
        setSites := session.setSites.set position outcome.site } := by
  cases steps_of_step h with
  | assigned hspace hsite hexecute => exact ⟨_, _, _, hspace, hsite, hexecute, rfl, rfl⟩

/-- A load that does not fault is a call through a get site on a space. -/
theorem loaded_of_step {index position : Nat} {target : HeapId} {load : Load}
    (h : session.step (.call index (.get position target load)) = .ok (later, reply)) :
    ∃ space site outcome, session.spaces[index]? = some space ∧
      session.getSites[position]? = some site ∧
      site.execute space target load = .ok outcome ∧ reply = .got outcome.result ∧
      later = { session.withSpace index outcome.space with
        getSites := session.getSites.set position outcome.site } := by
  cases steps_of_step h with
  | loaded hspace hsite hexecute => exact ⟨_, _, _, hspace, hsite, hexecute, rfl, rfl⟩

/-- What the listed steps do is what taking the action does. -/
theorem Steps.step_eq (h : session.Steps action later reply) :
    session.step action = .ok (later, reply) := by
  cases h with
  | newSetSite | newGetSite => rfl
  | copySetSite hsite | copyGetSite hsite =>
    simp only [step, bind, Except.bind, item_eq_ok_iff.mpr hsite]
    rfl
  | interned _ hspace | allocated hspace | observed _ hspace =>
    simp only [step, Session.call, bind, Except.bind, item_eq_ok_iff.mpr hspace]
    rfl
  | assigned hspace hsite hexecute | loaded hspace hsite hexecute =>
    simp only [step, Session.call, bind, Except.bind, item_eq_ok_iff.mpr hspace,
      item_eq_ok_iff.mpr hsite, hexecute]
    rfl

end Inversion

end Session

end ShapedObjects
