import ShapedObjects.Proofs.WithinLimits

/-!
# Refused assignments

An assignment is refused when the object lacks the attribute and has no slot left for it. By
then the registry has been asked for the larger shape, but neither the heap nor the site nor
the tracer has heard of it. So nothing is left of the assignment but a shape that no object is
on, and the registry finds this shape again when the assignment is tried again.
-/

namespace ShapedObjects

namespace SetSite

variable {site : SetSite} {space : Space} {target : HeapId} {object : Object} {write : Write}
  {effect : Effect}

/-- A larger shape for one more attribute has one slot more than the object has attributes. -/
theorem added_slotCount (h : space.WellFormed) (hobject : space.heap.object? target = some object)
    {name : NameId} {kind : Kind} (habsent : object.shape.location? name = none)
    {grown : Registry} {reached : Reached}
    (hadd : space.registry.addAttribute object.shape name kind = (grown, reached)) :
    reached.shape.layout.slotCount = object.shape.layout.attributes.length + 1 := by
  cases (added_takes h hobject habsent hadd).leads with
  | add _ hlayout _ =>
    rw [hlayout, Layout.slotCount_append, (h.of_object? hobject).2.packed.slotCount_eq]

/-- Where limits are set, an assignment is refused exactly if the object lacks the attribute and one
slot more than it has attributes is beyond the limit, which is what the error says. -/
theorem Performs.error_iff
    (hperforms : site.Performs space.heap space.registry target object write effect)
    (h : space.WellFormed) (hobject : space.heap.object? target = some object)
    {tracker : LimitedTracker} (htracker : space.heap.tracker = .limited tracker)
    (error : CallError) :
    effect.result = .error error ↔ object.shape.location? site.name = none ∧
      ∃ limit, tracker.limits.maxSlotsPerObject = some limit ∧
        limit < object.shape.layout.attributes.length + 1 ∧
        error = .ofLimit (.slots limit (object.shape.layout.attributes.length + 1)) := by
  cases hperforms with
  | stored hlocation | boxed hlocation => simp [hlocation]
  | added habsent hadd hslots =>
    rw [added_slotCount h hobject habsent hadd, htracker] at hslots
    refine iff_of_false (fun herror => by cases herror) ?_
    rintro ⟨_, limit, hlimit, hlt, _⟩
    have hrefused := LimitedTracker.checkSlots_eq_error_iff.mpr ⟨limit, hlimit, hlt, rfl⟩
    cases hrefused.symm.trans hslots
  | refused habsent hadd hslots =>
    rw [added_slotCount h hobject habsent hadd, htracker] at hslots
    obtain ⟨limit, hlimit, hlt, rfl⟩ := LimitedTracker.checkSlots_eq_error_iff.mp hslots
    constructor
    · intro herror
      cases herror
      exact ⟨habsent, limit, hlimit, hlt, rfl⟩
    · rintro ⟨_, other, hother, _, rfl⟩
      cases hlimit.symm.trans hother
      rfl

/-- A refused assignment leaves the site and the heap as they are and shows no event. The registry
has at most gained the larger shape, and when the assignment is tried again it comes to the
same. -/
theorem Performs.of_error
    (hperforms : site.Performs space.heap space.registry target object write effect)
    (h : space.WellFormed) (hobject : space.heap.object? target = some object) {error : CallError}
    (herror : effect.result = .error error) :
    effect = ⟨site, space.heap, effect.registry, .error error, []⟩ ∧
      space.registry.Extends effect.registry ∧
      (effect.registry.shapes = space.registry.shapes ∨
        ∃ shape : Shape, effect.registry.shapes = space.registry.shapes ++ [shape] ∧
          shape.layout = object.shape.layout.append site.name (site.kindAfter object.shape write)) ∧
      site.Performs space.heap effect.registry target object write effect := by
  cases hperforms with
  | stored | boxed | added => cases herror
  | @refused grown reached refusal habsent hadd hslots =>
    cases herror
    have htakes := added_takes h hobject habsent hadd
    refine ⟨rfl, htakes.grown, ?_,
      .refused habsent (Registry.addAttribute_of_known habsent htakes.known) hslots⟩
    rcases htakes.shapes_cases h.registry with ⟨_, hsame⟩ | ⟨_, hmore⟩
    · exact Or.inl hsame
    · exact Or.inr ⟨reached.shape, hmore, htakes.leads.layout_eq⟩

end SetSite

namespace Session

variable {session : Session} {index position : Nat} {space : Space} {site : SetSite}
  {target : HeapId} {object : Object}

/-- An action that changes nothing may be repeated. -/
theorem run_replicate {action : Action} (h : session.next action = session) (times : Nat) :
    session.run (List.replicate times action) = session := by
  induction times with
  | zero => rfl
  | succ times ih =>
    rw [List.replicate_succ, run, List.foldl_cons, h]
    exact ih

/-- A refusal leaves nothing behind but the registry with which the space goes on. -/
theorem withSpace_refused (hsite : session.setSites[position]? = some site) {error : CallError}
    (registry : Registry) :
    { session.withSpace index
        (Effect.outcome ⟨site, space.heap, registry, .error error, []⟩ space).space with
      setSites := session.setSites.set position site } =
    session.withSpace index { space with registry := registry } := by
  rw [set_item hsite]
  rfl

/-- An assignment that was refused is refused again in the same way, and then changes nothing. -/
theorem WellFormed.step_refused_again (h : session.WellFormed)
    (hspace : session.spaces[index]? = some space)
    (hsite : session.setSites[position]? = some site)
    (hobject : space.heap.object? target = some object) {write : Write} {error : CallError}
    (hperforms : site.Performs space.heap space.registry target object write
      ⟨site, space.heap, space.registry, .error error, []⟩) :
    session.step (.call index (.set position target write)) =
      .ok (session, .set (.error error)) := by
  obtain ⟨effect, hperforms', hstep⟩ := h.step_set hspace hsite hobject write
  rw [hperforms'.unique hperforms, withSpace_refused hsite] at hstep
  rwa [withSpace_self hspace] at hstep

/-- Where limits are set, an assignment is refused exactly if the object lacks the attribute and has
as many attributes as it may have slots. The error says so. All that is left then is a registry
with at most one shape more, the one that was refused to the object; objects, tracker, names,
recorded events and caches are as before. However often the assignment is tried again, it gets the
same error and nothing changes any more. -/
theorem refusals_leave_state (h : session.Reachable) {tracker : LimitedTracker}
    (hspace : session.spaces[index]? = some space)
    (htracker : space.heap.tracker = .limited tracker)
    (hsite : session.setSites[position]? = some site)
    (hobject : space.heap.object? target = some object) (write : Write) :
    let call : Action := .call index (.set position target write)
    let count := object.shape.layout.attributes.length
    ∃ later result, session.step call = .ok (later, .set result) ∧
      ((∃ error, result = .error error) ↔ object.shape.location? site.name = none ∧
        ∃ limit, tracker.limits.maxSlotsPerObject = some limit ∧ limit < count + 1) ∧
      ∀ error, result = .error error →
        (∃ limit, tracker.limits.maxSlotsPerObject = some limit ∧
          error = .uncatchable ⟨.memoryError, some ("attribute slot limit exceeded: " ++
            toString (count + 1) ++ " > " ++ toString limit)⟩) ∧
        (∃ registry, later = session.withSpace index { space with registry := registry } ∧
          space.registry.Extends registry ∧
          (registry.shapes = space.registry.shapes ∨
            ∃ shape : Shape, registry.shapes = space.registry.shapes ++ [shape] ∧
              shape.layout =
                object.shape.layout.append site.name (site.kindAfter object.shape write))) ∧
        later.step call = .ok (later, .set (.error error)) ∧
        ∀ times, later.run (List.replicate times call) = later := by
  intro call count
  have hsession := h.wellFormed
  have hwell := hsession.spaces space (List.mem_of_getElem? hspace)
  obtain ⟨effect, hperforms, hstep⟩ := hsession.step_set hspace hsite hobject write
  have herrors := hperforms.error_iff hwell hobject htracker
  refine ⟨_, _, hstep, ?_, ?_⟩
  · constructor
    · rintro ⟨error, herror⟩
      obtain ⟨habsent, limit, hlimit, hlt, _⟩ := (herrors error).mp herror
      exact ⟨habsent, limit, hlimit, hlt⟩
    · rintro ⟨habsent, limit, hlimit, hlt⟩
      exact ⟨_, (herrors _).mpr ⟨habsent, limit, hlimit, hlt, rfl⟩⟩
  · intro error herror
    obtain ⟨_, limit, hlimit, _, rfl⟩ := (herrors error).mp herror
    obtain ⟨heffect, hgrown, hshapes, hagain⟩ := hperforms.of_error hwell hobject herror
    generalize effect.registry = registry at heffect hgrown hshapes hagain
    subst heffect
    rw [withSpace_refused hsite] at hstep ⊢
    have hlater := hsession.next call
    rw [next, hstep] at hlater
    have hfixed := hlater.step_refused_again (spaces_withSpace_self hspace _) hsite hobject hagain
    refine ⟨⟨limit, hlimit, CallError.ofLimit_eq _⟩, ⟨registry, rfl, hgrown, hshapes⟩,
      hfixed, ?_⟩
    refine run_replicate ?_
    rw [next, hfixed]

/-- No slot is allowed on the second space of the sample, so an assignment there is refused. When it
is tried again it is refused in the same way, and the session is as it was. -/
theorem refusals_leave_state_sample :
    let call : Action := .call 1 (.set 0 ⟨0⟩ (.int 8))
    let refused : Reply := .set (.error (.uncatchable
      ⟨.memoryError, some "attribute slot limit exceeded: 1 > 0"⟩))
    ∃ later, sample.step call = .ok (later, refused) ∧ later.step call = .ok (later, refused) := by
  intro call refused
  have hspace : sample.spaces[1]? = some sample.spaces[1] := by decide
  have htracker : sample.spaces[1].heap.tracker = .limited ⟨⟨none, some 0⟩, 1⟩ := by decide
  have hsite : sample.setSites[0]? = some sampleSite := by decide
  have hobject : sample.spaces[1].heap.object? ⟨0⟩ = some (.new ⟨1, ⟨0⟩, .empty⟩) := by decide
  obtain ⟨later, result, hstep, herror, hleft⟩ :=
    refusals_leave_state sample_reachable hspace htracker hsite hobject (.int 8)
  obtain ⟨error, rfl⟩ := herror.mpr ⟨by decide, 0, rfl, by decide⟩
  obtain ⟨⟨limit, hlimit, rfl⟩, _, hagain, _⟩ := hleft error rfl
  cases hlimit
  exact ⟨later, hstep, hagain⟩

end Session

end ShapedObjects
