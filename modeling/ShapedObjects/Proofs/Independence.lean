import Mathlib.Data.List.Induction
import ShapedObjects.Proofs.Agreement

/-!
# Independent work commutes

Programs that assign and load through sites of their own, and on objects of their own, still share
the registries of the spaces: which of them is first to take a step decides which number
the new shape gets. This file follows one program through an interleaving, and beside it
through a run of its own. At every step the two runs are alike at whatever no other program
uses, so they answer the same. Every interleaving therefore comes to the same, up to the
numbers of the shapes.
-/

namespace ShapedObjects

variable {ι α : Type}

/-- What of a list of items, each with its program, belongs to one program. -/
def part [DecidableEq ι] (program : ι) (items : List (ι × α)) : List (ι × α) :=
  items.filter fun item => item.1 = program

/-- A schedule interleaves the calls of some programs: what of it belongs to a program is that
program, in its own order. -/
def Interleaves [DecidableEq ι] (schedule : List (ι × Access)) (programs : ι → List Access) :
    Prop :=
  ∀ program, part program schedule = (programs program).map fun access => (program, access)

/-- No two programs use the same object or the same site. -/
def Independent (programs : ι → List Access) : Prop :=
  ∀ program other, program ≠ other → ∀ access ∈ programs program, ∀ call ∈ programs other,
    ∀ resource ∈ access.uses, resource ∉ call.uses

/-- Calls of a schedule that use the same object or the same site are of one program. -/
def Separate (schedule : List (ι × Access)) : Prop :=
  ∀ call ∈ schedule, ∀ other ∈ schedule, ∀ resource ∈ call.2.uses, resource ∈ other.2.uses →
    call.1 = other.1

section Schedules

variable {program : ι} {schedule : List (ι × Access)} {programs : ι → List Access}

/-- What comes first of a separate schedule is separate. -/
theorem Separate.of_concat {call : ι × Access} (h : Separate (schedule ++ [call])) :
    Separate schedule :=
  fun call hcall other hother =>
    h call (List.mem_append_left _ hcall) other (List.mem_append_left _ hother)

variable [DecidableEq ι]

theorem part_concat_self (program : ι) (items : List (ι × α)) (item : α) :
    part program (items ++ [(program, item)]) = part program items ++ [(program, item)] := by
  simp [part]

theorem part_concat_of_ne {other : ι} (hne : other ≠ program) (items : List (ι × α)) (item : α) :
    part program (items ++ [(other, item)]) = part program items := by
  simp [part, hne]

/-- A call belongs to the part of its program. -/
theorem mem_part_self {call : ι × Access} : call ∈ part call.1 schedule ↔ call ∈ schedule := by
  simp [part]

/-- The calls of a schedule are those of the programs. -/
theorem Interleaves.mem_iff (h : Interleaves schedule programs) {call : ι × Access} :
    call ∈ schedule ↔ call.2 ∈ programs call.1 := by
  rw [← mem_part_self, h call.1]
  simp [Prod.ext_iff]

/-- A schedule of independent programs is separate. -/
theorem Interleaves.separate (h : Interleaves schedule programs)
    (hindependent : Independent programs) : Separate schedule := by
  intro call hcall other hother resource huses huses'
  by_contra hne
  exact hindependent _ _ hne _ (h.mem_iff.mp hcall) _ (h.mem_iff.mp hother) resource huses huses'

end Schedules

namespace Session

/-- The session after the calls of a schedule. -/
def follow (session : Session) (schedule : List (ι × Access)) : Session :=
  session.run (schedule.map fun call => call.2.action)

/-- What the calls of a schedule answer, one after the other. -/
def answers (session : Session) : List (ι × Access) → List (ι × Except Fault Reply)
  | [] => []
  | (program, access) :: schedule =>
    (program, session.answer access) :: (session.next access.action).answers schedule

section Runs

variable {session : Session} {schedule first second : List (ι × Access)} {program : ι}

theorem follow_concat (session : Session) (schedule : List (ι × Access)) (call : ι × Access) :
    session.follow (schedule ++ [call]) = (session.follow schedule).next call.2.action := by
  rw [follow, List.map_append, run_append]
  rfl

theorem answers_concat (session : Session) (schedule : List (ι × Access)) (call : ι × Access) :
    session.answers (schedule ++ [call]) =
      session.answers schedule ++ [(call.1, (session.follow schedule).answer call.2)] := by
  induction schedule generalizing session with
  | nil => rfl
  | cons head schedule ih => exact congrArg _ (ih _)

theorem WellFormed.follow (h : session.WellFormed) (schedule : List (ι × Access)) :
    (session.follow schedule).WellFormed :=
  h.run _

/-- Calls change nothing but what they use and the registries, which grow. -/
theorem WellFormed.follow_grows (h : session.WellFormed) (schedule : List (ι × Access)) :
    session.Grows (session.follow schedule) ∧
      ∀ resource, (∀ call ∈ schedule, resource ∉ call.2.uses) →
        session.SameAt (session.follow schedule) resource := by
  induction schedule using List.reverseRecOn with
  | nil => exact ⟨.refl session, fun resource _ => .refl session resource⟩
  | append_singleton schedule call ih =>
    obtain ⟨hgrows, hsame⟩ := ih
    obtain ⟨hmore, hsame'⟩ := (h.follow schedule).next_access call.2
    rw [follow_concat]
    refine ⟨hgrows.trans hmore, fun resource hunused => ?_⟩
    exact (hsame resource fun call hcall => hunused call (List.mem_append_left _ hcall)).trans
      (hsame' resource (hunused call (List.mem_append_right _ (List.mem_singleton.mpr rfl))))

/-- Schedules leave the spaces with the same settings. -/
theorem WellFormed.settings_eq (h : session.WellFormed) (first second : List (ι × Access)) :
    (session.follow first).settings = (session.follow second).settings :=
  (h.follow_grows first).1.settings.trans (h.follow_grows second).1.settings.symm

variable [DecidableEq ι]

/-- If a program was left so far what it would have been left by itself, its next call does the same
as it would by itself. -/
theorem WellFormed.agrees_of_alike (h : session.WellFormed) {access : Access}
    (hseparate : Separate (schedule ++ [(program, access)]))
    (halike : ∀ resource, (∀ call ∈ schedule, resource ∈ call.2.uses → call.1 = program) →
      (session.follow schedule).AlikeAt (session.follow (part program schedule)) resource) :
    (session.follow schedule).Agrees (session.follow (part program schedule)) access := by
  refine (h.follow _).agrees (h.follow _) (h.settings_eq _ _) ?_
  intro resource huses
  refine halike resource fun call hcall huses' => ?_
  exact hseparate call (List.mem_append_left _ hcall) (program, access)
    (List.mem_append_right _ (List.mem_singleton.mpr rfl)) resource huses' huses

/-- Among others a program is left what it would have been left by itself. -/
theorem WellFormed.follow_alike (h : session.WellFormed) (hseparate : Separate schedule)
    (program : ι) {resource : Resource}
    (howned : ∀ call ∈ schedule, resource ∈ call.2.uses → call.1 = program) :
    (session.follow schedule).AlikeAt (session.follow (part program schedule)) resource := by
  induction schedule using List.reverseRecOn generalizing resource with
  | nil => exact .refl h resource
  | append_singleton schedule call ih =>
    obtain ⟨caller, access⟩ := call
    have hbefore : ∀ resource, (∀ call ∈ schedule, resource ∈ call.2.uses → call.1 = program) →
        (session.follow schedule).AlikeAt (session.follow (part program schedule)) resource :=
      fun _ => ih hseparate.of_concat
    have hsofar := hbefore resource fun call hcall => howned call (List.mem_append_left _ hcall)
    obtain ⟨hgrows, hsame⟩ := (h.follow schedule).next_access access
    by_cases hcaller : caller = program
    · subst hcaller
      rw [part_concat_self, follow_concat, follow_concat]
      by_cases huses : resource ∈ access.uses
      · exact (h.agrees_of_alike hseparate hbefore).alike resource huses
      · obtain ⟨hgrows', hsame'⟩ := (h.follow (part caller schedule)).next_access access
        exact hsofar.of_same_of_same hgrows (hsame _ huses) hgrows' (hsame' _ huses)
    · -- The call of another program does not touch the resource.
      rw [part_concat_of_ne hcaller, follow_concat]
      exact hsofar.of_same hgrows (hsame _ fun huses => hcaller
        (howned _ (List.mem_append_right _ (List.mem_singleton.mpr rfl)) huses))

/-- Among others a program does at every call what it would have done by itself. -/
theorem WellFormed.follow_agrees (h : session.WellFormed) {access : Access}
    (hseparate : Separate (schedule ++ [(program, access)])) :
    (session.follow schedule).Agrees (session.follow (part program schedule)) access :=
  h.agrees_of_alike hseparate fun _ => h.follow_alike hseparate.of_concat program

/-- Among others a program is answered what it would have been answered by itself. -/
theorem WellFormed.part_answers (h : session.WellFormed) (hseparate : Separate schedule)
    (program : ι) :
    part program (session.answers schedule) = session.answers (part program schedule) := by
  induction schedule using List.reverseRecOn with
  | nil => rfl
  | append_singleton schedule call ih =>
    obtain ⟨caller, access⟩ := call
    rw [answers_concat]
    by_cases hcaller : caller = program
    · subst hcaller
      rw [part_concat_self, part_concat_self, answers_concat, ih hseparate.of_concat,
        (h.follow_agrees hseparate).answer]
    · rw [part_concat_of_ne hcaller, part_concat_of_ne hcaller, ih hseparate.of_concat]

/-- Together the programs make known the histories that each of them makes known by itself. -/
theorem WellFormed.follow_knows (h : session.WellFormed) (hseparate : Separate schedule)
    (index : Nat) (steps : List Transition) :
    (session.follow schedule).Knows index steps ↔ session.Knows index steps ∨
      ∃ program, (session.follow (part program schedule)).Knows index steps := by
  induction schedule using List.reverseRecOn with
  | nil => exact ⟨Or.inl, fun hknows => hknows.elim id fun ⟨_, hsome⟩ => hsome⟩
  | append_singleton schedule call ih =>
    obtain ⟨caller, access⟩ := call
    obtain ⟨asked, hasked⟩ := (h.follow_agrees hseparate).knows
    obtain ⟨htogether, halone⟩ := hasked index steps
    have hcaller :
        (session.follow (part caller (schedule ++ [(caller, access)]))).Knows index steps ↔
          (session.follow (part caller schedule)).Knows index steps ∨ asked index steps := by
      rw [part_concat_self, follow_concat]
      exact halone
    rw [follow_concat, htogether, ih hseparate.of_concat]
    constructor
    · rintro ((hstart | ⟨program, hknows⟩) | hnew)
      · exact Or.inl hstart
      · by_cases heq : caller = program
        · subst heq
          exact Or.inr ⟨caller, hcaller.mpr (Or.inl hknows)⟩
        · rw [← part_concat_of_ne heq schedule access] at hknows
          exact Or.inr ⟨program, hknows⟩
      · exact Or.inr ⟨caller, hcaller.mpr (Or.inr hnew)⟩
    · rintro (hstart | ⟨program, hknows⟩)
      · exact Or.inl (Or.inl hstart)
      · by_cases heq : caller = program
        · subst heq
          exact (hcaller.mp hknows).imp (fun hold => Or.inr ⟨caller, hold⟩) id
        · rw [part_concat_of_ne heq] at hknows
          exact Or.inl (Or.inr ⟨program, hknows⟩)

end Runs

/-- Two sessions that are the same but for the numbers of their shapes. -/
structure SameButNumbers (first second : Session) : Prop where
  /-- Every object has the same layout and the same attributes with the same values. -/
  objects : ∀ index target, (first.object? index target).map Object.unnumbered =
    (second.object? index target).map Object.unnumbered
  /-- Every set site is for the same attribute, and has cached a shape of the same layout with the
  same node. -/
  setSites : first.setSites.map SetSite.unnumbered = second.setSites.map SetSite.unnumbered
  /-- So has every get site. -/
  getSites : first.getSites.map GetSite.unnumbered = second.getSites.map GetSite.unnumbered
  /-- Every space has issued as many shapes. -/
  sizes : first.spaces.map (·.registry.size) = second.spaces.map (·.registry.size)
  /-- Two objects of a space share a shape in both sessions or in neither. -/
  sharing : ∀ index left right a b a' b',
    first.object? index left = some a → first.object? index right = some b →
    second.object? index left = some a' → second.object? index right = some b' →
    (a.shape.same b.shape = true ↔ a'.shape.same b'.shape = true)
  /-- The shapes of a space can be renamed to those of the other session, so that layouts are kept
  and every object is on the renamed shape. -/
  renamed : ∀ (index : Nat) (space other : Space),
    first.spaces[index]? = some space → second.spaces[index]? = some other →
    ∃ rename : Shape → Shape, (space.registry.shapes.map rename).Perm other.registry.shapes ∧
      (∀ shape ∈ space.registry.shapes, (rename shape).layout = shape.layout) ∧
      ∀ target a b, space.heap.object? target = some a → other.heap.object? target = some b →
        b.shape = rename a.shape

section Comparison

variable {first second : Session}

/-- The shapes of alike sessions can be renamed. -/
theorem WellFormed.exists_renaming (hfirst : first.WellFormed) (hsecond : second.WellFormed)
    (halike : ∀ resource, first.AlikeAt second resource)
    (hknows : ∀ index steps, first.Knows index steps ↔ second.Knows index steps)
    (index : Nat) (space other : Space) (hspace : first.spaces[index]? = some space)
    (hother : second.spaces[index]? = some other) :
    ∃ rename : Shape → Shape, (space.registry.shapes.map rename).Perm other.registry.shapes ∧
      (∀ shape ∈ space.registry.shapes, (rename shape).layout = shape.layout) ∧
      ∀ target a b, space.heap.object? target = some a → other.heap.object? target = some b →
        b.shape = rename a.shape := by
  have hregistry := (hfirst.spaces space (List.mem_of_getElem? hspace)).registry
  have hregistry' := (hsecond.spaces other (List.mem_of_getElem? hother)).registry
  obtain ⟨rename, hperm, hreaches⟩ := hregistry.renumbered hregistry' fun steps => by
    rw [← knows_of_space hspace, ← knows_of_space hother]
    exact hknows index steps
  refine ⟨rename, hperm, ?_, ?_⟩
  · intro shape hshape
    obtain ⟨steps, hsteps⟩ := hregistry.reached shape hshape
    rw [hsteps.layout_eq hregistry, (hreaches steps shape hsteps).layout_eq hregistry']
  · intro target a b ha hb
    obtain ⟨steps, hsteps, hsteps'⟩ :=
      ((halike (.object index target)).alike hspace hother ha hb).history
    exact hsteps'.shape_unique (hreaches steps a.shape hsteps)

/-- Alike objects share a shape in both sessions or in neither. -/
theorem WellFormed.same_iff_same (hfirst : first.WellFormed) (hsecond : second.WellFormed)
    {index : Nat} {left right : HeapId} {a b a' b' : Object}
    (hleft : first.AlikeAt second (.object index left))
    (hright : first.AlikeAt second (.object index right))
    (ha : first.object? index left = some a) (hb : first.object? index right = some b)
    (ha' : second.object? index left = some a') (hb' : second.object? index right = some b') :
    a.shape.same b.shape = true ↔ a'.shape.same b'.shape = true := by
  obtain ⟨space, hspace, ha⟩ := Option.bind_eq_some_iff.mp ha
  obtain ⟨other, hother, ha'⟩ := Option.bind_eq_some_iff.mp ha'
  rw [object?_of_space hspace] at hb
  rw [object?_of_space hother] at hb'
  have hwell := hfirst.spaces space (List.mem_of_getElem? hspace)
  have hwell' := hsecond.spaces other (List.mem_of_getElem? hother)
  obtain ⟨steps, hsteps, hsteps'⟩ := (hleft.alike hspace hother ha ha').history
  obtain ⟨others, hothers, hothers'⟩ := (hright.alike hspace hother hb hb').history
  rw [hwell.registry.same_iff (hwell.of_object? ha).1 (hwell.of_object? hb).1,
    hwell'.registry.same_iff (hwell'.of_object? ha').1 (hwell'.of_object? hb').1,
    hsteps.eq_iff hothers hwell.registry, hsteps'.eq_iff hothers' hwell'.registry]

/-- Sessions that are alike everywhere, and in which the registries know the same histories, are the
same but for the numbers of their shapes. -/
theorem WellFormed.sameButNumbers (hfirst : first.WellFormed) (hsecond : second.WellFormed)
    (hsettings : first.settings = second.settings)
    (halike : ∀ resource, first.AlikeAt second resource)
    (hknows : ∀ index steps, first.Knows index steps ↔ second.Knows index steps) :
    first.SameButNumbers second := by
  have hrenamed := hfirst.exists_renaming hsecond halike hknows
  refine ⟨?_, ?_, ?_, ?_, ?_, hrenamed⟩
  · intro index target
    cases halike (.object index target) with
    | absent hnone hnone' => rw [hnone, hnone']
    | object hspace hother ha hb hobjects =>
      have hwell := hfirst.spaces _ (List.mem_of_getElem? hspace)
      have hwell' := hsecond.spaces _ (List.mem_of_getElem? hother)
      rw [object?_of_space hspace, object?_of_space hother, ha, hb, Option.map_some,
        Option.map_some, Object.unnumbered, Object.unnumbered,
        (hwell.of_object? ha).2.toSized.entries_eq, (hwell'.of_object? hb).2.toSized.entries_eq,
        hobjects.contents, hobjects.layout_eq hwell.registry hwell'.registry]
  · refine List.ext_getElem? fun position => ?_
    rw [List.getElem?_map, List.getElem?_map]
    cases halike (.setSite position) with | setSite hsite => exact hsite
  · refine List.ext_getElem? fun position => ?_
    rw [List.getElem?_map, List.getElem?_map]
    cases halike (.getSite position) with | getSite hsite => exact hsite
  · refine List.ext_getElem? fun index => ?_
    rw [List.getElem?_map, List.getElem?_map]
    rcases space_cases hsettings index with
      ⟨hspace, hother⟩ | ⟨space, other, hspace, hother, _⟩
    · rw [hspace, hother]
    · obtain ⟨rename, hperm, _⟩ := hrenamed index space other hspace hother
      have hlength := hperm.length_eq
      rw [List.length_map] at hlength
      rw [hspace, hother, Option.map_some, Option.map_some, Registry.size, Registry.size, hlength]
  · intro index left right a b a' b'
    exact hfirst.same_iff_same hsecond (halike _) (halike _)

end Comparison

section Programs

variable {ι : Type} [DecidableEq ι] {session : Session} {programs : ι → List Access}
  {first second : List (ι × Access)}

/-- Two schedules of the same programs leave alike whatever there is: what some program uses, they
leave as it would be left by that program alone, and what none uses they leave as it was. -/
theorem WellFormed.follow_alike_follow (h : session.WellFormed) (hfirst : Separate first)
    (hsecond : Separate second) (hparts : ∀ program, part program first = part program second)
    (resource : Resource) :
    (session.follow first).AlikeAt (session.follow second) resource := by
  have hcalls : ∀ {call : ι × Access}, call ∈ first ↔ call ∈ second := by
    intro call
    rw [← mem_part_self, hparts, mem_part_self]
  by_cases hused : ∃ call ∈ first, resource ∈ call.2.uses
  · obtain ⟨user, huser, huses⟩ := hused
    have halike := h.follow_alike hfirst user.1 fun call hcall huses' =>
      hfirst call hcall user huser resource huses' huses
    have halike' := h.follow_alike hsecond user.1 fun call hcall huses' =>
      hsecond call hcall user (hcalls.mp huser) resource huses' huses
    rw [← hparts] at halike'
    exact halike.trans (h.follow _) halike'.symm
  · have hunused : ∀ call ∈ first, resource ∉ call.2.uses :=
      fun call hcall huses => hused ⟨call, hcall, huses⟩
    obtain ⟨hgrows, hsame⟩ := h.follow_grows first
    obtain ⟨hgrows', hsame'⟩ := h.follow_grows second
    exact (AlikeAt.refl h resource).of_same_of_same hgrows (hsame resource hunused) hgrows'
      (hsame' resource fun call hcall => hunused call (hcalls.mpr hcall))

/-- Independent work commutes: however the calls of independent programs are interleaved, every call
is answered the same, and the sessions that are left are the same but for the numbers of
shapes. -/
theorem independent_work_commutes (h : session.Reachable) (hindependent : Independent programs)
    (hfirst : Interleaves first programs) (hsecond : Interleaves second programs) :
    (∀ program, part program (session.answers first) = part program (session.answers second)) ∧
      (session.follow first).SameButNumbers (session.follow second) := by
  have hwell := h.wellFormed
  have hseparate := hfirst.separate hindependent
  have hseparate' := hsecond.separate hindependent
  have hparts : ∀ program, part program first = part program second :=
    fun program => (hfirst program).trans (hsecond program).symm
  constructor
  · intro program
    rw [hwell.part_answers hseparate, hwell.part_answers hseparate', hparts]
  · refine (hwell.follow first).sameButNumbers (hwell.follow second) (hwell.settings_eq _ _) ?_ ?_
    · exact hwell.follow_alike_follow hseparate hseparate' hparts
    · intro index steps
      simp only [hwell.follow_knows hseparate, hwell.follow_knows hseparate', hparts]

end Programs

/-- One program boxes an attribute of its object, the other adds one to its own object and is
refused on the space without slots. Whoever comes first gets the lower number, and nothing else
depends on it. -/
theorem independent_work_commutes_sample :
    let session := sample.run [.call 0 (.intern "y"), .call 0 .allocate, .newSetSite ⟨1⟩]
    let boxing : Bool × Access := (true, .set 0 0 ⟨0⟩ (.float ⟨0⟩))
    let loading : Bool × Access := (true, .get 0 0 ⟨0⟩ .float)
    let adding : Bool × Access := (false, .set 0 1 ⟨1⟩ (.int 8))
    let refused : Bool × Access := (false, .set 1 1 ⟨0⟩ (.int 8))
    let first := [boxing, adding, loading, refused]
    let second := [adding, boxing, refused, loading]
    ∃ a b, (session.follow first).object? 0 ⟨1⟩ = some a ∧
      (session.follow second).object? 0 ⟨1⟩ = some b ∧ a.shape.id = ⟨3⟩ ∧ b.shape.id = ⟨2⟩ ∧
      a.unnumbered = b.unnumbered ∧
      part false (session.answers first) = part false (session.answers second) := by
  intro session boxing loading adding refused first second
  let programs : Bool → List Access := fun program =>
    if program then [boxing.2, loading.2] else [adding.2, refused.2]
  have hreachable : session.Reachable := sample_reachable.run _
  have hindependent : Independent programs := by
    unfold Independent
    decide
  have hfirst : Interleaves first programs := by
    unfold Interleaves
    decide
  have hsecond : Interleaves second programs := by
    unfold Interleaves
    decide
  obtain ⟨hanswers, hsame⟩ := independent_work_commutes hreachable hindependent hfirst hsecond
  have ha : (session.follow first).object? 0 ⟨1⟩ = some
      ⟨⟨0, ⟨3⟩, Layout.empty.append ⟨1⟩ .int⟩, [8], []⟩ := by decide
  have hb : (session.follow second).object? 0 ⟨1⟩ = some
      ⟨⟨0, ⟨2⟩, Layout.empty.append ⟨1⟩ .int⟩, [8], []⟩ := by decide
  have hobjects := hsame.objects 0 ⟨1⟩
  rw [ha, hb] at hobjects
  exact ⟨_, _, ha, hb, rfl, rfl, Option.some.inj hobjects, hanswers false⟩

end Session

end ShapedObjects
