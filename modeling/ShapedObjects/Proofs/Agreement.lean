import ShapedObjects.Proofs.Numbering

/-!
# Calls that agree

Two sessions may have issued the shapes of their spaces in another order. As long as they do not
differ otherwise in the site and in the object that a call uses, the call answers the same
in both, leaves its site and its object alike, and lets the registries learn the same
history. It touches nothing else.
-/

namespace ShapedObjects

/-- What a program needs for itself. -/
inductive Resource where
  /-- An object of the space at a position. -/
  | object (index : Nat) (target : HeapId)
  /-- The set site at a position. -/
  | setSite (position : Nat)
  /-- The get site at a position. -/
  | getSite (position : Nat)
deriving DecidableEq, Repr

/-- A call of a program: an assignment or a load on the space at a position. -/
inductive Access where
  /-- Assigns through a set site. -/
  | set (index position : Nat) (target : HeapId) (write : Write)
  /-- Loads through a get site. -/
  | get (index position : Nat) (target : HeapId) (load : Load)
deriving DecidableEq, Repr

namespace Access

/-- The action that makes the call. -/
def action : Access → Action
  | set index position target write => .call index (.set position target write)
  | get index position target load => .call index (.get position target load)

/-- What the call uses. -/
def uses : Access → List Resource
  | set index position target _ => [.setSite position, .object index target]
  | get index position target _ => [.getSite position, .object index target]

end Access

/-- Two optional items with the same image are both missing or both there. -/
theorem none_or_some_of_map_eq {α β : Type} {view : α → β} {first second : Option α}
    (h : first.map view = second.map view) : (first = none ∧ second = none) ∨
      ∃ a b, first = some a ∧ second = some b ∧ view a = view b := by
  cases first with
  | none => exact Or.inl ⟨rfl, Option.map_eq_none_iff.mp h.symm⟩
  | some a =>
    obtain ⟨b, hb, hview⟩ := Option.map_eq_some_iff.mp h.symm
    exact Or.inr ⟨a, b, rfl, hb, hview.symm⟩

namespace Session

/-- What of the spaces no call of a program changes. -/
def settings (session : Session) : List (Tracker × Interner) :=
  session.spaces.map fun space => (space.heap.tracker, space.interner)

/-- A history is known on the space at a position. -/
def Knows (session : Session) (index : Nat) (steps : List Transition) : Prop :=
  ∃ space, session.spaces[index]? = some space ∧ space.registry.Knows steps

/-- A later state of a session, as calls of programs leave it: the spaces have the settings that
they had, and registries that have grown. -/
structure Grows (session later : Session) : Prop where
  /-- The settings are the same. -/
  settings : later.settings = session.settings
  /-- The registries are the same or have grown. -/
  registries : ∀ (index : Nat) (space : Space), session.spaces[index]? = some space →
    ∃ after, later.spaces[index]? = some after ∧ space.registry.Extends after.registry

/-- A resource is the same in a later state. -/
def SameAt (session later : Session) : Resource → Prop
  | .object index target => later.object? index target = session.object? index target
  | .setSite position => later.setSites[position]? = session.setSites[position]?
  | .getSite position => later.getSites[position]? = session.getSites[position]?

/-- Two sessions in which a resource does not differ but in the numbers of shapes. -/
inductive AlikeAt (first second : Session) : Resource → Prop
  | absent {index : Nat} {target : HeapId} :
      first.object? index target = none → second.object? index target = none →
      AlikeAt first second (.object index target)
  | object {index : Nat} {target : HeapId} {space other : Space} {a b : Object} :
      first.spaces[index]? = some space → second.spaces[index]? = some other →
      space.heap.object? target = some a → other.heap.object? target = some b →
      a.Alike space.registry b other.registry →
      AlikeAt first second (.object index target)
  | setSite {position : Nat} :
      (first.setSites[position]?).map SetSite.unnumbered =
        (second.setSites[position]?).map SetSite.unnumbered →
      AlikeAt first second (.setSite position)
  | getSite {position : Nat} :
      (first.getSites[position]?).map GetSite.unnumbered =
        (second.getSites[position]?).map GetSite.unnumbered →
      AlikeAt first second (.getSite position)

section Relations

variable {session later last first second third : Session} {resource : Resource}

theorem Grows.refl (session : Session) : session.Grows session :=
  ⟨rfl, fun _ space hspace => ⟨space, hspace, .refl _⟩⟩

theorem Grows.trans (h : session.Grows later) (h' : later.Grows last) : session.Grows last := by
  refine ⟨h'.settings.trans h.settings, ?_⟩
  intro index space hspace
  obtain ⟨after, hafter, hgrown⟩ := h.registries index space hspace
  obtain ⟨final, hfinal, hmore⟩ := h'.registries index after hafter
  exact ⟨final, hfinal, hgrown.trans hmore⟩

/-- A session grows when one space is replaced by one with a grown registry. -/
theorem grows_withSpace {index : Nat} {space : Space}
    (hspace : session.spaces[index]? = some space) (after : Space)
    (hgrown : space.registry.Extends after.registry)
    (htracker : after.heap.tracker = space.heap.tracker)
    (hinterner : after.interner = space.interner) :
    session.Grows (session.withSpace index after) := by
  constructor
  · refine List.ext_getElem? fun position => ?_
    rw [settings, settings, List.getElem?_map, List.getElem?_map]
    by_cases heq : index = position
    · subst heq
      rw [spaces_withSpace_self hspace, hspace, Option.map_some, Option.map_some, htracker,
        hinterner]
    · rw [spaces_withSpace_of_ne heq]
  · intro position other hother
    by_cases heq : index = position
    · subst heq
      cases hspace.symm.trans hother
      exact ⟨after, spaces_withSpace_self hspace after, hgrown⟩
    · exact ⟨other, (spaces_withSpace_of_ne heq after).trans hother, .refl _⟩

theorem SameAt.refl (session : Session) (resource : Resource) :
    session.SameAt session resource := by
  cases resource <;> rfl

theorem SameAt.trans (h : session.SameAt later resource) (h' : later.SameAt last resource) :
    session.SameAt last resource := by
  cases resource <;> exact Eq.trans h' h

theorem AlikeAt.refl (h : session.WellFormed) (resource : Resource) :
    session.AlikeAt session resource := by
  cases resource with
  | setSite => exact .setSite rfl
  | getSite => exact .getSite rfl
  | object index target =>
    cases hobject : session.object? index target with
    | none => exact .absent hobject hobject
    | some object =>
      obtain ⟨space, hspace, hobject⟩ := Option.bind_eq_some_iff.mp hobject
      have hwell := h.spaces space (List.mem_of_getElem? hspace)
      obtain ⟨steps, hsteps⟩ := hwell.registry.reached _ (hwell.of_object? hobject).1
      exact .object hspace hspace hobject hobject ⟨⟨steps, hsteps, hsteps⟩, rfl⟩

theorem AlikeAt.symm (h : first.AlikeAt second resource) : second.AlikeAt first resource := by
  cases h with
  | absent hfirst hsecond => exact .absent hsecond hfirst
  | object hspace hother ha hb halike => exact .object hother hspace hb ha halike.symm
  | setSite hsite => exact .setSite hsite.symm
  | getSite hsite => exact .getSite hsite.symm

/-- Two objects at an alike resource are both missing, or alike. -/
theorem AlikeAt.object_cases {index : Nat} {target : HeapId} {space other : Space}
    (h : first.AlikeAt second (.object index target))
    (hspace : first.spaces[index]? = some space) (hother : second.spaces[index]? = some other) :
    (space.heap.object? target = none ∧ other.heap.object? target = none) ∨
      ∃ a b, space.heap.object? target = some a ∧ other.heap.object? target = some b ∧
        a.Alike space.registry b other.registry := by
  cases h with
  | absent ha hb =>
    rw [object?_of_space hspace] at ha
    rw [object?_of_space hother] at hb
    exact Or.inl ⟨ha, hb⟩
  | object hspace' hother' ha hb halike =>
    cases hspace.symm.trans hspace'
    cases hother.symm.trans hother'
    exact Or.inr ⟨_, _, ha, hb, halike⟩

/-- Two objects at an alike resource are alike. -/
theorem AlikeAt.alike {index : Nat} {target : HeapId} {space other : Space} {a b : Object}
    (h : first.AlikeAt second (.object index target))
    (hspace : first.spaces[index]? = some space) (hother : second.spaces[index]? = some other)
    (ha : space.heap.object? target = some a) (hb : other.heap.object? target = some b) :
    a.Alike space.registry b other.registry := by
  rcases h.object_cases hspace hother with ⟨hnone, _⟩ | ⟨_, _, ha', hb', halike⟩
  · cases hnone.symm.trans ha
  · cases ha.symm.trans ha'
    cases hb.symm.trans hb'
    exact halike

/-- Two set sites at an alike resource are both missing, or differ in the numbers of shapes only. -/
theorem AlikeAt.setSite_cases {position : Nat} (h : first.AlikeAt second (.setSite position)) :
    (first.setSites[position]? = none ∧ second.setSites[position]? = none) ∨
      ∃ p q, first.setSites[position]? = some p ∧ second.setSites[position]? = some q ∧
        p.unnumbered = q.unnumbered := by
  cases h with | setSite hsite => exact none_or_some_of_map_eq hsite

/-- So are two get sites. -/
theorem AlikeAt.getSite_cases {position : Nat} (h : first.AlikeAt second (.getSite position)) :
    (first.getSites[position]? = none ∧ second.getSites[position]? = none) ∨
      ∃ p q, first.getSites[position]? = some p ∧ second.getSites[position]? = some q ∧
        p.unnumbered = q.unnumbered := by
  cases h with | getSite hsite => exact none_or_some_of_map_eq hsite

theorem AlikeAt.trans (h : first.AlikeAt second resource) (hwell : second.WellFormed)
    (h' : second.AlikeAt third resource) : first.AlikeAt third resource := by
  cases h with
  | setSite hsite =>
    cases h' with
    | setSite hsite' => exact .setSite (hsite.trans hsite')
  | getSite hsite =>
    cases h' with
    | getSite hsite' => exact .getSite (hsite.trans hsite')
  | absent hfirst hsecond =>
    cases h' with
    | absent _ hthird => exact .absent hfirst hthird
    | object hspace _ hb =>
      rw [object?_of_space hspace] at hsecond
      cases hsecond.symm.trans hb
  | object hspace hother ha hb halike =>
    cases h' with
    | absent hsecond =>
      rw [object?_of_space hother] at hsecond
      cases hsecond.symm.trans hb
    | object hother' hthird hb' hc halike' =>
      cases hother.symm.trans hother'
      cases hb.symm.trans hb'
      have hregistry := (hwell.spaces _ (List.mem_of_getElem? hother)).registry
      exact .object hspace hthird ha hc (halike.trans hregistry halike')

/-- A resource that stays the same stays alike. -/
theorem AlikeAt.of_same (h : first.AlikeAt second resource) (hgrows : first.Grows later)
    (hsame : first.SameAt later resource) : later.AlikeAt second resource := by
  cases h with
  | absent hfirst hsecond => exact .absent (Eq.trans hsame hfirst) hsecond
  | setSite hsite => exact .setSite ((congrArg _ hsame).trans hsite)
  | getSite hsite => exact .getSite ((congrArg _ hsame).trans hsite)
  | object hspace hother ha hb halike =>
    obtain ⟨after, hafter, hgrown⟩ := hgrows.registries _ _ hspace
    refine .object hafter hother ?_ hb (halike.grow hgrown)
    rw [← object?_of_space hafter, ← ha, ← object?_of_space hspace]
    exact hsame

/-- A resource that stays the same in both sessions stays alike. -/
theorem AlikeAt.of_same_of_same (h : first.AlikeAt second resource) (hgrows : first.Grows later)
    (hsame : first.SameAt later resource) (hgrows' : second.Grows last)
    (hsame' : second.SameAt last resource) : later.AlikeAt last resource :=
  ((h.of_same hgrows hsame).symm.of_same hgrows' hsame').symm

end Relations

section Steps

variable {session later : Session} {index position : Nat} {space : Space} {target : HeapId}
  {object : Object}

/-- An assignment changes nothing but its site, its object and the registry, which grows. -/
theorem WellFormed.next_set (h : session.WellFormed) (index position : Nat) (target : HeapId)
    (write : Write) :
    session.Grows (session.next (.call index (.set position target write))) ∧
      ∀ resource ∉ (Access.set index position target write).uses,
        session.SameAt (session.next (.call index (.set position target write))) resource := by
  rcases session.next_cases (.call index (.set position target write)) with
    ⟨later, reply, hstep, hnext⟩ | ⟨_, _, hnext⟩
  · obtain ⟨space, site, _, hspace, hsite, hexecute, _, rfl⟩ := assigned_of_step hstep
    rw [hnext]
    obtain ⟨object, hobject⟩ := SetSite.object?_of_execute hexecute
    obtain ⟨effect, hperforms, _, hexecute', _⟩ :=
      h.exists_effect hspace (List.mem_of_getElem? hsite) hobject write
    cases hexecute.symm.trans hexecute'
    have hwell := h.spaces space (List.mem_of_getElem? hspace)
    obtain ⟨changed, hheap⟩ := hperforms.heap_eq hobject
    have hgrows := grows_withSpace hspace (effect.outcome space).space
      (hperforms.grown hwell hobject) (by rw [Effect.outcome, hheap]; rfl) rfl
    refine ⟨⟨hgrows.settings, hgrows.registries⟩, ?_⟩
    intro resource hnot
    cases resource with
    | setSite other =>
      have hne : position ≠ other := by
        rintro rfl
        exact hnot List.mem_cons_self
      exact List.getElem?_set_ne hne
    | getSite other => rfl
    | object otherIndex other =>
      refine object?_of_replaced hspace hheap ?_
      intro heq
      cases heq
      exact hnot (List.mem_cons_of_mem _ List.mem_cons_self)
  · rw [hnext]
    exact ⟨.refl session, fun resource _ => .refl session resource⟩

/-- A load changes nothing but its site. -/
theorem WellFormed.next_get (h : session.WellFormed) (index position : Nat) (target : HeapId)
    (load : Load) :
    session.Grows (session.next (.call index (.get position target load))) ∧
      ∀ resource ≠ .getSite position,
        session.SameAt (session.next (.call index (.get position target load))) resource := by
  rcases session.next_cases (.call index (.get position target load)) with
    ⟨later, reply, hstep, hnext⟩ | ⟨_, _, hnext⟩
  · obtain ⟨space, site, outcome, hspace, hsite, hexecute, rfl, rfl⟩ := loaded_of_step hstep
    rw [hnext]
    obtain ⟨object, hobject⟩ := GetSite.object?_of_execute hexecute
    have hsame := (h.loads hspace hsite hobject hexecute).space_eq
    have hgrows := grows_withSpace hspace outcome.space (by rw [hsame]; exact .refl _)
      (by rw [hsame]) (by rw [hsame])
    refine ⟨⟨hgrows.settings, hgrows.registries⟩, ?_⟩
    intro resource hne
    cases resource with
    | getSite other =>
      have hposition : position ≠ other := by
        rintro rfl
        exact hne rfl
      exact List.getElem?_set_ne hposition
    | setSite other => rfl
    | object otherIndex other =>
      exact object?_withSpace_of_heap_eq hspace (by rw [hsame]) otherIndex other
  · rw [hnext]
    exact ⟨.refl session, fun resource _ => .refl session resource⟩

/-- A call changes nothing but what it uses and the registries, which grow. -/
theorem WellFormed.next_access (h : session.WellFormed) (access : Access) :
    session.Grows (session.next access.action) ∧
      ∀ resource ∉ access.uses, session.SameAt (session.next access.action) resource := by
  cases access with
  | set index position target write => exact h.next_set index position target write
  | get index position target load =>
    obtain ⟨hgrows, hsame⟩ := h.next_get index position target load
    exact ⟨hgrows, fun resource hnot =>
      hsame resource fun heq => hnot (heq ▸ List.mem_cons_self)⟩

/-- Without a space every call faults. -/
theorem step_of_no_space (hspace : session.spaces[index]? = none) (call : Call) :
    session.step (.call index call) = .error .indexOutOfBounds := by
  simp only [step, Session.call, bind, Except.bind, item, hspace]

/-- Without a site every assignment faults. -/
theorem step_of_no_setSite (hspace : session.spaces[index]? = some space)
    (hsite : session.setSites[position]? = none) (target : HeapId) (write : Write) :
    session.step (.call index (.set position target write)) = .error .indexOutOfBounds := by
  simp only [step, Session.call, bind, Except.bind, item, hspace, hsite]

/-- Without a site every load faults. -/
theorem step_of_no_getSite (hspace : session.spaces[index]? = some space)
    (hsite : session.getSites[position]? = none) (target : HeapId) (load : Load) :
    session.step (.call index (.get position target load)) = .error .indexOutOfBounds := by
  simp only [step, Session.call, bind, Except.bind, item, hspace, hsite]

/-- An assignment faults with its site. -/
theorem step_of_set_fault (hspace : session.spaces[index]? = some space) {site : SetSite}
    (hsite : session.setSites[position]? = some site) {write : Write} {fault : Fault}
    (hexecute : site.execute space target write = .error fault) :
    session.step (.call index (.set position target write)) = .error fault := by
  simp only [step, Session.call, bind, Except.bind, item, hspace, hsite, hexecute]

/-- A load faults with its site. -/
theorem step_of_get_fault (hspace : session.spaces[index]? = some space) {site : GetSite}
    (hsite : session.getSites[position]? = some site) {load : Load} {fault : Fault}
    (hexecute : site.execute space target load = .error fault) :
    session.step (.call index (.get position target load)) = .error fault := by
  simp only [step, Session.call, bind, Except.bind, item, hspace, hsite, hexecute]

end Steps

/-- What a call answers. -/
def answer (session : Session) (access : Access) : Except Fault Reply :=
  (session.step access.action).map Prod.snd

/-- A call does the same in two sessions, up to the numbers of shapes: it answers the same, leaves
alike what it uses, and lets the registries learn the same histories. -/
structure Agrees (first second : Session) (access : Access) : Prop where
  /-- The answers are the same. -/
  answer : first.answer access = second.answer access
  /-- What the call uses is left alike. -/
  alike : ∀ resource ∈ access.uses,
    (first.next access.action).AlikeAt (second.next access.action) resource
  /-- The same histories are asked for. -/
  knows : ∃ asked : Nat → List Transition → Prop, ∀ index steps,
    ((first.next access.action).Knows index steps ↔ first.Knows index steps ∨ asked index steps) ∧
    ((second.next access.action).Knows index steps ↔ second.Knows index steps ∨ asked index steps)

section Agreement

variable {first second : Session} {access : Access} {index position : Nat} {target : HeapId}

/-- A call that faults in both sessions does the same there. -/
theorem agrees_of_faults (halike : ∀ resource ∈ access.uses, first.AlikeAt second resource)
    {fault : Fault} (hfirst : first.step access.action = .error fault)
    (hsecond : second.step access.action = .error fault) : first.Agrees second access := by
  have hnext : first.next access.action = first := by rw [next, hfirst]
  have hnext' : second.next access.action = second := by rw [next, hsecond]
  refine ⟨by rw [Session.answer, Session.answer, hfirst, hsecond], ?_, fun _ _ => False, ?_⟩
  · rw [hnext, hnext']
    exact halike
  · intro index steps
    rw [hnext, hnext', or_false, or_false]
    exact ⟨Iff.rfl, Iff.rfl⟩

/-- Sessions of equal settings have spaces at the same positions, with equal trackers and names. -/
theorem space_cases (hsettings : first.settings = second.settings) (index : Nat) :
    (first.spaces[index]? = none ∧ second.spaces[index]? = none) ∨
      ∃ space other, first.spaces[index]? = some space ∧ second.spaces[index]? = some other ∧
        space.heap.tracker = other.heap.tracker ∧ space.interner = other.interner := by
  have hindex := congrArg (·[index]?) hsettings
  simp only [settings, List.getElem?_map] at hindex
  rcases none_or_some_of_map_eq hindex with hnone | ⟨space, other, hspace, hother, hsame⟩
  · exact Or.inl hnone
  · obtain ⟨htracker, hinterner⟩ := Prod.mk.inj hsame
    exact Or.inr ⟨space, other, hspace, hother, htracker, hinterner⟩

theorem knows_of_space {session : Session} {space : Space}
    (hspace : session.spaces[index]? = some space) (steps : List Transition) :
    session.Knows index steps ↔ space.registry.Knows steps := by
  simp [Knows, hspace]

/-- After an assignment, the histories that were known are known, and the one that the assignment
asked for. -/
theorem knows_of_performs {session : Session} {space : Space} {site : SetSite} {object : Object}
    {write : Write} {effect : Effect} {history : List Transition} (hwell : space.WellFormed)
    (hspace : session.spaces[index]? = some space)
    (hobject : space.heap.object? target = some object)
    (hhistory : space.registry.Reaches history object.shape)
    (hperforms : site.Performs space.heap space.registry target object write effect)
    (place : Nat) (steps : List Transition) :
    (session.withSpace index (effect.outcome space).space).Knows place steps ↔
      session.Knows place steps ∨ place = index ∧
        ∃ step, site.step? object.shape write = some step ∧ steps = history ++ [step] := by
  by_cases heq : index = place
  · subst heq
    rw [knows_of_space (spaces_withSpace_self hspace _), knows_of_space hspace, eq_self, true_and]
    exact hperforms.knows_iff hwell hobject hhistory
  · simp [Knows, spaces_withSpace_of_ne heq, Ne.symm heq]

/-- After a load, the histories that were known are known. -/
theorem knows_of_loads {session : Session} {space : Space} {site : GetSite} {object : Object}
    {load : Load} {outcome : Outcome GetSite Loaded} (hspace : session.spaces[index]? = some space)
    (hloads : site.Loads space object load outcome) (place : Nat) (steps : List Transition) :
    (session.withSpace index outcome.space).Knows place steps ↔ session.Knows place steps := by
  by_cases heq : index = place
  · subst heq
    rw [knows_of_space (spaces_withSpace_self hspace _), knows_of_space hspace, hloads.space_eq]
  · simp [Knows, spaces_withSpace_of_ne heq]

/-- Assignments through alike sites to alike objects do the same. -/
theorem WellFormed.agrees_set_of_alike (hfirst : first.WellFormed) (hsecond : second.WellFormed)
    {space other : Space} {p q : SetSite} {a b : Object}
    (hspace : first.spaces[index]? = some space) (hother : second.spaces[index]? = some other)
    (htracker : space.heap.tracker = other.heap.tracker)
    (hp : first.setSites[position]? = some p) (hq : second.setSites[position]? = some q)
    (hsite : p.unnumbered = q.unnumbered)
    (ha : space.heap.object? target = some a) (hb : other.heap.object? target = some b)
    (hobjects : a.Alike space.registry b other.registry) (write : Write) :
    first.Agrees second (.set index position target write) := by
  obtain ⟨effect, hperforms, hreliable, hexecute, _⟩ :=
    hfirst.exists_effect hspace (List.mem_of_getElem? hp) ha write
  obtain ⟨effect', hperforms', hreliable', hexecute', _⟩ :=
    hsecond.exists_effect hother (List.mem_of_getElem? hq) hb write
  have hstep := (Steps.assigned hspace hp hexecute).step_eq
  have hstep' := (Steps.assigned hother hq hexecute').step_eq
  have hwell := hfirst.spaces space (List.mem_of_getElem? hspace)
  have hwell' := hsecond.spaces other (List.mem_of_getElem? hother)
  obtain ⟨hresult, hleft, changed, changed', hheap, hheap', hchanged⟩ :=
    hperforms.alike hperforms' hwell hwell' ha hb hreliable hreliable' htracker hsite hobjects
  obtain ⟨history, hhistory, hhistory'⟩ := hobjects.history
  have hstepEq : p.step? a.shape write = q.step? b.shape write :=
    SetSite.step?_congr (congrArg Prod.fst hsite) (SetSite.isGeneral_eq_of_unnumbered hsite)
      (hobjects.layout_eq hwell.registry hwell'.registry) write
  constructor
  · rw [Session.answer, Session.answer, Access.action, hstep, hstep']
    exact congrArg (fun result => Except.ok (Reply.set result)) hresult
  · rw [Access.action, Session.next, Session.next, hstep, hstep']
    intro resource hresource
    simp only [Access.uses, List.mem_cons, List.not_mem_nil, or_false] at hresource
    obtain ⟨hltp, _⟩ := List.getElem?_eq_some_iff.mp hp
    obtain ⟨hltq, _⟩ := List.getElem?_eq_some_iff.mp hq
    rcases hresource with rfl | rfl
    · refine .setSite ?_
      rw [List.getElem?_set_self hltp, List.getElem?_set_self hltq]
      exact congrArg some hleft
    · refine .object (spaces_withSpace_self hspace _) (spaces_withSpace_self hother _) ?_ ?_
        hchanged
      · rw [Effect.outcome, hheap]
        exact Heap.object?_put_self ha changed
      · rw [Effect.outcome, hheap']
        exact Heap.object?_put_self hb changed'
  · rw [Access.action, Session.next, Session.next, hstep, hstep']
    refine ⟨_, fun place steps =>
      ⟨knows_of_performs hwell hspace ha hhistory hperforms place steps, ?_⟩⟩
    rw [hstepEq]
    exact knows_of_performs hwell' hother hb hhistory' hperforms' place steps

/-- Two sessions that are alike at what an assignment uses agree on it. -/
theorem WellFormed.agrees_set (hfirst : first.WellFormed) (hsecond : second.WellFormed)
    (hsettings : first.settings = second.settings) (write : Write)
    (halike : ∀ resource ∈ (Access.set index position target write).uses,
      first.AlikeAt second resource) :
    first.Agrees second (.set index position target write) := by
  rcases space_cases hsettings index with
    ⟨hspace, hother⟩ | ⟨space, other, hspace, hother, htracker, _⟩
  · exact agrees_of_faults halike (step_of_no_space hspace _) (step_of_no_space hother _)
  rcases (halike (.setSite position) List.mem_cons_self).setSite_cases with
    ⟨hp, hq⟩ | ⟨p, q, hp, hq, hsite⟩
  · exact agrees_of_faults halike (step_of_no_setSite hspace hp _ _)
      (step_of_no_setSite hother hq _ _)
  rcases (halike (.object index target) (List.mem_cons_of_mem _ List.mem_cons_self)).object_cases
      hspace hother with
    ⟨ha, hb⟩ | ⟨a, b, ha, hb, hobjects⟩
  · exact agrees_of_faults halike
      (step_of_set_fault hspace hp (SetSite.execute_of_unallocated ha p write))
      (step_of_set_fault hother hq (SetSite.execute_of_unallocated hb q write))
  exact hfirst.agrees_set_of_alike hsecond hspace hother htracker hp hq hsite ha hb hobjects write

/-- Loads through alike sites from alike objects do the same. -/
theorem WellFormed.agrees_get_of_alike (hfirst : first.WellFormed) (hsecond : second.WellFormed)
    {space other : Space} {p q : GetSite} {a b : Object}
    (hspace : first.spaces[index]? = some space) (hother : second.spaces[index]? = some other)
    (hinterner : space.interner = other.interner)
    (hp : first.getSites[position]? = some p) (hq : second.getSites[position]? = some q)
    (hsite : p.unnumbered = q.unnumbered)
    (ha : space.heap.object? target = some a) (hb : other.heap.object? target = some b)
    (hobjects : a.Alike space.registry b other.registry) (load : Load)
    (halike : ∀ resource ∈ (Access.get index position target load).uses,
      first.AlikeAt second resource) :
    first.Agrees second (.get index position target load) := by
  have hwell := hfirst.spaces space (List.mem_of_getElem? hspace)
  have hwell' := hsecond.spaces other (List.mem_of_getElem? hother)
  have hreliable := hfirst.getSite_reliable (List.mem_of_getElem? hp) hspace
    (hwell.of_object? ha).1
  have hreliable' := hsecond.getSite_reliable (List.mem_of_getElem? hq) hother
    (hwell'.of_object? hb).1
  rcases GetSite.execute_alike hwell hwell' ha hb hreliable hreliable' hinterner hsite hobjects
      load with
    ⟨_, hfault, hfault'⟩ | ⟨outcome, outcome', hexecute, hexecute', hresult, hleft⟩
  · exact agrees_of_faults halike (step_of_get_fault hspace hp hfault)
      (step_of_get_fault hother hq hfault')
  have hstep := (Steps.loaded hspace hp hexecute).step_eq
  have hstep' := (Steps.loaded hother hq hexecute').step_eq
  constructor
  · rw [Session.answer, Session.answer, Access.action, hstep, hstep', hresult]
    rfl
  · intro resource hresource
    have hobject := halike resource hresource
    simp only [Access.uses, List.mem_cons, List.not_mem_nil, or_false] at hresource
    rcases hresource with rfl | rfl
    · obtain ⟨hlt, _⟩ := List.getElem?_eq_some_iff.mp hp
      obtain ⟨hlt', _⟩ := List.getElem?_eq_some_iff.mp hq
      rw [Access.action, Session.next, Session.next, hstep, hstep']
      refine .getSite ?_
      rw [List.getElem?_set_self hlt, List.getElem?_set_self hlt', Option.map_some,
        Option.map_some, hleft]
    · obtain ⟨hgrows, hsame⟩ := hfirst.next_get index position target load
      obtain ⟨hgrows', hsame'⟩ := hsecond.next_get index position target load
      exact hobject.of_same_of_same hgrows (hsame _ nofun) hgrows' (hsame' _ nofun)
  · have hloads := hfirst.loads hspace hp ha hexecute
    have hloads' := hsecond.loads hother hq hb hexecute'
    rw [Access.action, Session.next, Session.next, hstep, hstep']
    refine ⟨fun _ _ => False, fun place steps => ?_⟩
    rw [or_false, or_false]
    exact ⟨knows_of_loads hspace hloads place steps, knows_of_loads hother hloads' place steps⟩

/-- Two sessions that are alike at what a load uses agree on it. -/
theorem WellFormed.agrees_get (hfirst : first.WellFormed) (hsecond : second.WellFormed)
    (hsettings : first.settings = second.settings) (load : Load)
    (halike : ∀ resource ∈ (Access.get index position target load).uses,
      first.AlikeAt second resource) :
    first.Agrees second (.get index position target load) := by
  rcases space_cases hsettings index with
    ⟨hspace, hother⟩ | ⟨space, other, hspace, hother, _, hinterner⟩
  · exact agrees_of_faults halike (step_of_no_space hspace _) (step_of_no_space hother _)
  rcases (halike (.getSite position) List.mem_cons_self).getSite_cases with
    ⟨hp, hq⟩ | ⟨p, q, hp, hq, hsite⟩
  · exact agrees_of_faults halike (step_of_no_getSite hspace hp _ _)
      (step_of_no_getSite hother hq _ _)
  rcases (halike (.object index target) (List.mem_cons_of_mem _ List.mem_cons_self)).object_cases
      hspace hother with
    ⟨ha, hb⟩ | ⟨a, b, ha, hb, hobjects⟩
  · exact agrees_of_faults halike
      (step_of_get_fault hspace hp (GetSite.execute_of_unallocated ha p load))
      (step_of_get_fault hother hq (GetSite.execute_of_unallocated hb q load))
  exact hfirst.agrees_get_of_alike hsecond hspace hother hinterner hp hq hsite ha hb hobjects load
    halike

/-- Two sessions that are alike at what a call uses agree on it. -/
theorem WellFormed.agrees (hfirst : first.WellFormed) (hsecond : second.WellFormed)
    (hsettings : first.settings = second.settings)
    (halike : ∀ resource ∈ access.uses, first.AlikeAt second resource) :
    first.Agrees second access := by
  cases access with
  | set index position target write => exact hfirst.agrees_set hsecond hsettings write halike
  | get index position target load => exact hfirst.agrees_get hsecond hsettings load halike

end Agreement

end Session

end ShapedObjects
