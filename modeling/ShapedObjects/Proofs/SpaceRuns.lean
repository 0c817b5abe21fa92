import ShapedObjects.Proofs.Effects
import ShapedObjects.Proofs.TransitionTree

/-!
# What a session does to one space

Seen from one space, an action of a session does nothing, interns a name, allocates an object,
assigns to one, fills the cache of a load, or shows an event to the tracer. So what these few
things keep is kept by every run, and nothing need be known of the sites and of the other
spaces. In this way the steps that a registry remembers stay in order over every run.
-/

namespace ShapedObjects

/-- What an action can make of a space, other than to show it an event. -/
inductive Space.Works (space : Space) : Space → Prop
  /-- Nothing happens here. -/
  | kept : Works space space
  /-- A name is interned. -/
  | interned (name : String) : Works space (space.intern name).1
  /-- An object is allocated, or refused. -/
  | allocated : Works space space.allocate.1
  /-- An object is assigned to. -/
  | assigned {site : SetSite} {target : HeapId} {object : Object} {write : Write}
      {effect : Effect} :
      space.heap.object? target = some object →
      site.Performs space.heap space.registry target object write effect →
      Works space (effect.outcome space).space
  /-- A load caches the slot that it has looked up. -/
  | loaded (name : NameId) (kind : Kind) : Works space (space.observe (.specialized name kind))

/-- What an action makes of the space at a position. -/
inductive Action.Affects : Action → Nat → Space → Space → Prop
  | works {action : Action} {index : Nat} {space after : Space} :
      space.Works after → Affects action index space after
  | shows {index : Nat} {space : Space} (event : Event) :
      Affects (.call index (.observe event)) index space (space.observe event)

/-- The steps that the registry remembers stay in order. -/
theorem Space.Works.ordered {space after : Space} (hworks : space.Works after)
    (h : space.WellFormed) (hordered : space.registry.Ordered) : after.registry.Ordered := by
  cases hworks with
  | kept | interned | allocated | loaded => exact hordered
  | assigned hobject hperforms =>
    change Registry.Ordered (Effect.registry _)
    rcases hperforms.takes h hobject with ⟨_, hsame⟩ | ⟨_, _, _, htakes⟩
    · rw [hsame]
      exact hordered
    · exact htakes.ordered h.registry (h.of_object? hobject).1 hordered

namespace Session

variable {session later : Session} {action : Action} {reply : Reply} {index : Nat}
  {space after : Space}

/-- At the start every space is new. -/
theorem spaces_start {setups : List (Tracker × Tracer)}
    (hspace : (start setups).spaces[index]? = some space) :
    ∃ setup, setups[index]? = some setup ∧ space = .new index setup.1 setup.2 := by
  rw [start, List.getElem?_mapIdx, Option.map_eq_some_iff] at hspace
  obtain ⟨setup, hsetup, rfl⟩ := hspace
  exact ⟨setup, hsetup, rfl⟩

/-- An action that replaces one space has its effect there and none elsewhere. -/
theorem affects_withSpace {place : Nat} {old changed : Space}
    (hold : session.spaces[place]? = some old) (haffects : action.Affects place old changed)
    (hafter : (session.withSpace place changed).spaces[index]? = some after) :
    ∃ space, session.spaces[index]? = some space ∧ action.Affects index space after := by
  by_cases heq : place = index
  · subst heq
    cases (spaces_withSpace_self hold changed).symm.trans hafter
    exact ⟨old, hold, haffects⟩
  · rw [spaces_withSpace_of_ne heq] at hafter
    exact ⟨after, hafter, .works .kept⟩

/-- On every space a step does one of the things listed. -/
theorem Steps.affects (hsteps : session.Steps action later reply) (h : session.WellFormed)
    (hafter : later.spaces[index]? = some after) :
    ∃ space, session.spaces[index]? = some space ∧ action.Affects index space after := by
  cases hsteps with
  | newSetSite | newGetSite | copySetSite | copyGetSite =>
    exact ⟨after, hafter, .works .kept⟩
  | interned name hspace => exact affects_withSpace hspace (.works (.interned name)) hafter
  | allocated hspace => exact affects_withSpace hspace (.works .allocated) hafter
  | observed event hspace => exact affects_withSpace hspace (.shows event) hafter
  | assigned hspace hsite hexecute =>
    obtain ⟨object, hobject⟩ := SetSite.object?_of_execute hexecute
    obtain ⟨effect, hperforms, _, hexecute', _⟩ :=
      h.exists_effect hspace (List.mem_of_getElem? hsite) hobject _
    cases hexecute.symm.trans hexecute'
    exact affects_withSpace hspace (.works (.assigned hobject hperforms)) hafter
  | loaded hspace hsite hexecute =>
    obtain ⟨object, hobject⟩ := GetSite.object?_of_execute hexecute
    refine affects_withSpace hspace (.works ?_) hafter
    cases h.loads hspace hsite hobject hexecute with
    | hit | missing => exact .kept
    | found => exact .loaded _ _

/-- On every space an action does one of the things listed, also one that faults. -/
theorem WellFormed.affects (h : session.WellFormed)
    (hafter : (session.next action).spaces[index]? = some after) :
    ∃ space, session.spaces[index]? = some space ∧ action.Affects index space after := by
  rcases session.next_cases action with ⟨later, reply, hstep, hnext⟩ | ⟨_, _, hnext⟩
  · rw [hnext] at hafter
    exact (steps_of_step hstep).affects h hafter
  · rw [hnext] at hafter
    exact ⟨after, hafter, .works .kept⟩

/-- What is kept by all that is done on a well-formed space, and by the events that are shown to the
space at a position, is kept there by every run. -/
theorem WellFormed.run_keeps (h : session.WellFormed) {Kept : Space → Prop}
    (hworks : ∀ space after, space.WellFormed → space.Works after → Kept space → Kept after)
    (actions : List Action)
    (hshows : ∀ event, Action.call index (.observe event) ∈ actions →
      ∀ space, Kept space → Kept (space.observe event))
    (hafter : (session.run actions).spaces[index]? = some after) :
    ∃ space, session.spaces[index]? = some space ∧ (Kept space → Kept after) := by
  induction actions generalizing session with
  | nil => exact ⟨after, hafter, id⟩
  | cons action actions ih =>
    -- The first action leads to `between`, from where the rest goes on.
    obtain ⟨between, hbetween, hlast⟩ :=
      ih (h.next action) (fun event hmem => hshows event (List.mem_cons_of_mem _ hmem)) hafter
    obtain ⟨space, hspace, haffects⟩ := h.affects hbetween
    refine ⟨space, hspace, fun hkept => hlast ?_⟩
    cases haffects with
    | works hwork =>
      exact hworks space between (h.spaces space (List.mem_of_getElem? hspace)) hwork hkept
    | shows event => exact hshows event List.mem_cons_self space hkept

/-- In every reachable session, the steps that a registry remembers lead to larger numbers. -/
theorem Reachable.ordered (h : session.Reachable) (hspace : session.spaces[index]? = some space) :
    space.registry.Ordered := by
  obtain ⟨setups, actions, rfl⟩ := h
  obtain ⟨first, hfirst, hkept⟩ := (wellFormed_start setups).run_keeps
    (fun _ _ hwell hworks => hworks.ordered hwell) actions (fun _ _ _ hordered => hordered) hspace
  obtain ⟨setup, _, rfl⟩ := spaces_start hfirst
  exact hkept (Registry.ordered_new index)

end Session

end ShapedObjects
