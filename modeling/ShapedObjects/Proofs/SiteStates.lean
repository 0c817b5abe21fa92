import ShapedObjects.Proofs.Effects

/-!
# The states of a set site

A set site starts without a node, gets one by its first assignment that succeeds, and has
one ever after. An assignment that fails leaves it as it was. A site that has become
general stays so: it never has a slot refuse a value again, and every object that it
assigns to has its attribute boxed afterwards. Copies of a site go on from the state of
the original.
-/

namespace ShapedObjects

namespace SetSite

/-- What calls with some answers may make of a site: one that succeeded leaves it with a node, and
none does if all failed. A general site stays general. -/
structure Advances (site : SetSite) (answers : List (Except CallError Unit)) (now : SetSite) :
    Prop where
  /-- It is a site for the same attribute. -/
  name : now.name = site.name
  /-- Calls that fail leave no trace. -/
  failed : .ok () ∉ answers → now = site
  /-- A call that succeeds leaves a node. -/
  succeeded : .ok () ∈ answers → now.state ≠ none
  /-- A general site stays general. -/
  general : site.isGeneral = true → now.isGeneral = true

namespace Advances

/-- Without a call a site stays as it is. -/
theorem refl (site : SetSite) : site.Advances [] site :=
  ⟨rfl, fun _ => rfl, nofun, id⟩

/-- What calls make of a site, further calls may go on from. -/
theorem trans {site middle now : SetSite} {before after : List (Except CallError Unit)}
    (h : site.Advances before middle) (h' : middle.Advances after now) :
    site.Advances (before ++ after) now where
  name := h'.name.trans h.name
  failed := by
    intro hnone
    rw [List.mem_append, not_or] at hnone
    exact (h'.failed hnone.2).trans (h.failed hnone.1)
  succeeded := by
    intro hsome
    by_cases hafter : .ok () ∈ after
    · exact h'.succeeded hafter
    · rw [h'.failed hafter]
      exact h.succeeded ((List.mem_append.mp hsome).resolve_right hafter)
  general := fun hgeneral => h'.general (h.general hgeneral)

/-- A site has no node exactly if it had none and no call has succeeded since. -/
theorem state_eq_none_iff {site now : SetSite} {answers : List (Except CallError Unit)}
    (h : site.Advances answers now) :
    now.state = none ↔ site.state = none ∧ .ok () ∉ answers := by
  constructor
  · intro hnone
    have hanswers : .ok () ∉ answers := fun hok => h.succeeded hok hnone
    rw [h.failed hanswers] at hnone
    exact ⟨hnone, hanswers⟩
  · rintro ⟨hnone, hanswers⟩
    rw [h.failed hanswers]
    exact hnone

end Advances

section General

variable {site : SetSite} {heap : Heap} {registry : Registry} {space : Space} {target : HeapId}
  {object : Object} {write : Write}

/-- A general site boxes its attribute, whatever it is given. -/
theorem kindAfter_of_isGeneral (hgeneral : site.isGeneral = true) (shape : Shape)
    (write : Write) : site.kindAfter shape write = .object := by
  cases hlocation : shape.location? site.name with
  | none => rw [kindAfter_of_absent hlocation, if_pos hgeneral]
  | some location =>
    rw [kindAfter_of_location? hlocation, hgeneral]
    exact if_neg fun hstays => nomatch hstays.1

/-- No slot refuses a value that is assigned through a general site. -/
theorem Performs.not_generalized (hgeneral : site.isGeneral = true) {effect : Effect}
    (h : site.Performs heap registry target object write effect) (name : NameId) (kind : Kind) :
    .generalized name kind ∉ effect.events := by
  cases h with
  | stored =>
    unfold lookupEvents
    split <;> simp
  | boxed => simp [refusalEvents, hgeneral]
  | added => simp
  | refused => simp

/-- An assignment that succeeds leaves the site with a node for the kind of slot that the attribute
has then, and one that is refused leaves it as it was. -/
theorem Succeeds.advances {outcome : Outcome SetSite Unit}
    (h : site.Succeeds space target object write outcome) :
    site.Advances [outcome.result] outcome.site := by
  obtain ⟨changed, node, hsite, hresult, hequips, _⟩ := h
  have hstate : outcome.site.state = some (site.kindAfter object.shape write) := by
    rw [hsite, ← hequips.node_kind]
    rfl
  refine ⟨by rw [hsite]; rfl, ?_, ?_, ?_⟩
  · intro hnone
    rw [hresult] at hnone
    exact absurd (List.mem_singleton.mpr rfl) hnone
  · intro _
    rw [hstate]
    exact Option.some_ne_none _
  · intro hgeneral
    rw [isGeneral, hstate, kindAfter_of_isGeneral hgeneral]
    rfl

theorem Refuses.advances {refusal : LimitError} {outcome : Outcome SetSite Unit}
    (h : site.Refuses space object refusal outcome) :
    site.Advances [outcome.result] outcome.site := by
  rw [h.result, h.kept]
  exact ⟨rfl, fun _ => rfl, by simp, id⟩

end General

end SetSite

namespace Session

/-- What an action answers as a call through the set site at a position: nothing if it is none, or
if it faults. -/
def answered (session : Session) (position : Nat) (action : Action) :
    List (Except CallError Unit) :=
  match action, session.step action with
  | .call _ (.set site _ _), .ok (_, .set result) => if site = position then [result] else []
  | _, _ => []

/-- What becomes of a set site in the course of some actions: it stays at its position, and copies
of it come to other ones. The answers are those of the calls through it, and for a copy before
that those of the calls through what it was copied from. -/
inductive Descends (session : Session) (position : Nat) :
    List Action → Nat → List (Except CallError Unit) → Prop
  | itself : Descends session position [] position []
  | kept {actions : List Action} {place : Nat} {answers : List (Except CallError Unit)}
      (action : Action) :
      Descends session position actions place answers →
      Descends session position (actions ++ [action]) place
        (answers ++ (session.run actions).answered place action)
  | copied {actions : List Action} {place : Nat} {answers : List (Except CallError Unit)} :
      Descends session position actions place answers →
      Descends session position (actions ++ [.copySetSite place])
        (session.run actions).setSites.length answers

section Runs

variable {session later : Session} {action : Action} {reply : Reply} {position place : Nat}
  {site : SetSite} {actions : List Action} {answers : List (Except CallError Unit)}

/-- A set site stays at its position when more sites are created. -/
theorem setSites_append (hsite : session.setSites[place]? = some site) (more : List SetSite) :
    (session.setSites ++ more)[place]? = some site := by
  obtain ⟨hlt, _⟩ := List.getElem?_eq_some_iff.mp hsite
  rwa [List.getElem?_append_left hlt]

/-- Every step makes of a set site what its answer allows. -/
theorem Steps.advances (hsteps : session.Steps action later reply) (h : session.WellFormed)
    (hsite : session.setSites[place]? = some site) :
    ∃ now, later.setSites[place]? = some now ∧
      site.Advances (session.answered place action) now := by
  have hstep := hsteps.step_eq
  cases hsteps with
  | interned | allocated | observed | loaded | newGetSite | copyGetSite =>
    exact ⟨site, hsite, .refl site⟩
  | newSetSite | copySetSite => exact ⟨site, setSites_append hsite _, .refl site⟩
  | @assigned index position space site' target write outcome hspace hsite' hexecute =>
    obtain ⟨hlt, _⟩ := List.getElem?_eq_some_iff.mp hsite'
    simp only [answered, hstep]
    by_cases hplace : position = place
    · subst hplace
      cases hsite.symm.trans hsite'
      refine ⟨outcome.site, List.getElem?_set_self hlt, ?_⟩
      rw [if_pos rfl]
      obtain ⟨object, hobject⟩ := SetSite.object?_of_execute hexecute
      rcases h.succeeds_or_refuses hspace hsite hobject hexecute with
        hsucceeds | ⟨_, hrefuses⟩
      · exact hsucceeds.advances
      · exact hrefuses.advances
    · rw [if_neg hplace]
      exact ⟨site, (List.getElem?_set_ne hplace).trans hsite, .refl site⟩

/-- Every action makes of a set site what its answer allows, also one that faults. -/
theorem WellFormed.next_advances (h : session.WellFormed)
    (hsite : session.setSites[place]? = some site) (action : Action) :
    ∃ now, (session.next action).setSites[place]? = some now ∧
      site.Advances (session.answered place action) now := by
  rcases session.next_cases action with ⟨later, reply, hstep, hnext⟩ | ⟨fault, hstep, hnext⟩
  · rw [hnext]
    exact (steps_of_step hstep).advances h hsite
  · have hnone : session.answered place action = [] := by
      unfold answered
      split
      · rename_i hok
        cases hstep.symm.trans hok
      · rfl
    rw [hnext, hnone]
    exact ⟨site, hsite, .refl site⟩

/-- A copy of a set site comes behind all others. -/
theorem next_copySetSite (hsite : session.setSites[place]? = some site) :
    (session.next (.copySetSite place)).setSites[session.setSites.length]? = some site := by
  have hstep := (Steps.copySetSite hsite).step_eq
  rw [Session.next, hstep]
  exact List.getElem?_concat_length

/-- Over a run, a set site and its copies become what the answers allow. -/
theorem Descends.advances (hdescends : session.Descends position actions place answers)
    (h : session.WellFormed) (hsite : session.setSites[position]? = some site) :
    ∃ now, (session.run actions).setSites[place]? = some now ∧ site.Advances answers now := by
  induction hdescends with
  | itself => exact ⟨site, hsite, .refl site⟩
  | kept action _ ih =>
    obtain ⟨middle, hmiddle, hadvances⟩ := ih
    obtain ⟨now, hnow, hmore⟩ := (h.run _).next_advances hmiddle action
    rw [run_append]
    exact ⟨now, hnow, hadvances.trans hmore⟩
  | copied _ ih =>
    obtain ⟨now, hnow, hadvances⟩ := ih
    rw [run_append]
    exact ⟨now, next_copySetSite hnow, hadvances⟩

/-- A set site leaves its first state exactly with the first call through it that succeeds, and a
call that fails, or faults, leaves it as it was. Once general, it and its copies are general
for ever: no call through them has a slot refuse a value, and after every call that succeeds
the object's slot for the attribute is a boxed one. -/
theorem general_for_ever (h : session.Reachable)
    (hsite : session.setSites[position]? = some site)
    (hdescends : session.Descends position actions place answers) :
    ∃ now, (session.run actions).setSites[place]? = some now ∧ now.name = site.name ∧
      (now.state = none ↔ site.state = none ∧ .ok () ∉ answers) ∧
      (.ok () ∉ answers → now = site) ∧
      (site.state = some .object → now.state = some .object ∧
        ∀ index space target write, (session.run actions).spaces[index]? = some space →
          (∀ name kind, .generalized name kind ∉ now.emitted space target write) ∧
          ∀ later, (session.run actions).step (.call index (.set place target write)) =
              .ok (later, .set (.ok ())) →
            ∃ changed location, later.object? index target = some changed ∧
              changed.shape.location? site.name = some location ∧
              location.kind = .object) := by
  have hwell := (h.run actions).wellFormed
  obtain ⟨now, hnow, hadvances⟩ := hdescends.advances h.wellFormed hsite
  refine ⟨now, hnow, hadvances.name, hadvances.state_eq_none_iff, hadvances.failed, ?_⟩
  intro hstate
  have hgeneral : now.isGeneral = true := hadvances.general (decide_eq_true hstate)
  refine ⟨of_decide_eq_true hgeneral, ?_⟩
  intro index space target write hspace
  constructor
  · intro name kind
    cases hobject : space.heap.object? target with
    | none =>
      rw [SetSite.emitted_of_unallocated hobject]
      exact List.not_mem_nil
    | some object =>
      obtain ⟨effect, hperforms, _, _, hevents⟩ :=
        hwell.exists_effect hspace (List.mem_of_getElem? hnow) hobject write
      rw [hevents]
      exact hperforms.not_generalized hgeneral name kind
  · intro later hstep
    obtain ⟨_, now', _, hspace', hnow', hexecute, _⟩ := assigned_of_step hstep
    cases hspace.symm.trans hspace'
    cases hnow.symm.trans hnow'
    obtain ⟨object, hobject⟩ := SetSite.object?_of_execute hexecute
    rw [← object?_of_space hspace] at hobject
    obtain ⟨_, outcome, hspace', hfound, hsucceeds, rfl⟩ :=
      hwell.succeeds_of_step hnow hobject hstep
    obtain ⟨changed, node, _, _, hequips, _⟩ := hsucceeds
    refine ⟨changed, node.location, ?_, hadvances.name ▸ hequips.location, ?_⟩
    · exact (object?_withSpace_self hspace' outcome.space target).trans (hequips.object? hfound)
    · exact hequips.node_kind.trans (SetSite.kindAfter_of_isGeneral hgeneral object.shape write)

end Runs

/-- A float makes the site of the sample general, and then neither a refusal on the second space nor
copying it changes that. -/
theorem general_for_ever_sample :
    ∃ now, ((sample.run [.call 0 (.set 0 ⟨0⟩ (.float ⟨0⟩))]).run
      [.call 1 (.set 0 ⟨0⟩ (.int 7)), .copySetSite 0]).setSites[1]? = some now ∧
      now.state = some .object := by
  have hreachable := sample_reachable.run [.call 0 (.set 0 ⟨0⟩ (.float ⟨0⟩))]
  have hsite : (sample.run [.call 0 (.set 0 ⟨0⟩ (.float ⟨0⟩))]).setSites[0]? = some
      ⟨⟨0⟩, some (⟨0, ⟨2⟩, Layout.empty.append ⟨0⟩ .object⟩, ⟨⟨.object, 0⟩⟩)⟩ := by decide
  have hdescends := Descends.copied (Descends.kept (.call 1 (.set 0 ⟨0⟩ (.int 7)))
    (@Descends.itself (sample.run [.call 0 (.set 0 ⟨0⟩ (.float ⟨0⟩))]) 0))
  obtain ⟨now, hnow, _, _, _, hgeneral⟩ := general_for_ever hreachable hsite hdescends
  exact ⟨now, hnow, (hgeneral rfl).1⟩

end Session

end ShapedObjects
