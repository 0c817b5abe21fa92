import ShapedObjects.Proofs.Effects

/-!
# Caches are transparent

Two set sites for one attribute may have seen different objects on different spaces. If
both or neither of them are general, then whatever is assigned through the one could as
well have been assigned through the other: the result and the state of the space are the
same, and so are the events, except that a site which did not find its node in the cache
reports the slot that it looked up.
-/

namespace ShapedObjects

/-- Two lists of events that are the same, except that one of them may report in front a slot of
the attribute that was looked up. -/
def SameButLookup (name : NameId) (first second : List Event) : Prop :=
  first = second ∨ (∃ kind, first = .specialized name kind :: second) ∨
    ∃ kind, second = .specialized name kind :: first

namespace SetSite

section Exchange

variable {p q : SetSite}

/-- Sites for one attribute cache alike. -/
theorem caching_congr (hname : p.name = q.name) (shape : Shape) (node : WriteNode) :
    p.caching shape node = q.caching shape node := by
  simp only [caching, hname]

/-- What follows the look-up of a slot follows it for both sites, whichever of them has a cached
node. -/
theorem sameButLookup_lookupEvents (hname : p.name = q.name) (shape : Shape) (kind : Kind)
    (rest : List Event) :
    SameButLookup p.name (p.lookupEvents shape kind ++ rest)
      (q.lookupEvents shape kind ++ rest) := by
  unfold lookupEvents
  rw [hname]
  by_cases hp : (p.hit? shape).isSome = true
  · rw [if_pos hp]
    by_cases hq : (q.hit? shape).isSome = true
    · rw [if_pos hq]
      exact Or.inl rfl
    · rw [if_neg hq]
      exact Or.inr (Or.inr ⟨kind, rfl⟩)
  · rw [if_neg hp]
    by_cases hq : (q.hit? shape).isSome = true
    · rw [if_pos hq]
      exact Or.inr (Or.inl ⟨kind, rfl⟩)
    · rw [if_neg hq]
      exact Or.inl rfl

variable {heap : Heap} {registry : Registry} {target : HeapId} {object : Object} {write : Write}

/-- What an assignment comes to through one site, it comes to through another site for the attribute
that is as general. -/
theorem Performs.exchange {effect : Effect} (hname : p.name = q.name)
    (hgeneral : p.isGeneral = q.isGeneral)
    (h : p.Performs heap registry target object write effect) :
    ∃ other, q.Performs heap registry target object write other ∧
      effect.heap = other.heap ∧ effect.registry = other.registry ∧
      effect.result = other.result ∧ (effect.result = .ok () → effect.site = other.site) ∧
      SameButLookup p.name effect.events other.events := by
  have hkindAfter : p.kindAfter object.shape write = q.kindAfter object.shape write :=
    kindAfter_congr hname hgeneral rfl write
  cases h with
  | @stored location hlocation hkind =>
    rw [hname] at hlocation
    rw [hkindAfter] at hkind
    exact ⟨_, .stored hlocation hkind, rfl, rfl, rfl, fun _ => caching_congr hname _ _,
      sameButLookup_lookupEvents hname _ _ _⟩
  | @boxed location grown reached migrated hlocation hkind hgeneralize hmigrate =>
    rw [hname] at hlocation hgeneralize
    rw [hkindAfter] at hkind
    refine ⟨_, .boxed hlocation hkind hgeneralize hmigrate, rfl, rfl, rfl,
      fun _ => caching_congr hname _ _, ?_⟩
    unfold refusalEvents
    rw [← hgeneral, ← hname]
    cases p.isGeneral with
    | true => exact Or.inl rfl
    | false =>
      simp only [Bool.false_eq_true, if_false, List.append_assoc]
      exact sameButLookup_lookupEvents hname _ _ _
  | added habsent hadd hslots =>
    rw [hname] at habsent
    rw [hname, hkindAfter] at hadd
    refine ⟨_, .added habsent hadd hslots, ?_, rfl, rfl, fun _ => caching_congr hname _ _, ?_⟩
    · rw [hkindAfter]
    · rw [hname, hkindAfter]
      exact Or.inl rfl
  | refused habsent hadd hslots =>
    rw [hname] at habsent
    rw [hname, hkindAfter] at hadd
    exact ⟨_, .refused habsent hadd hslots, rfl, rfl, rfl, nofun, Or.inl rfl⟩

end Exchange

end SetSite

namespace Session

/-- Two set sites for one attribute of which both or neither are general do the same: whatever their
caches hold, an assignment has the same result and leaves the same heap with its tracker, the
same registry and the same names, and after a success both sites have cached the same. The
events which they show to the tracer are the same but for a look-up that one cache may spare. -/
theorem caches_transparent {session : Session} (h : session.Reachable) {index : Nat}
    {space : Space} {p q : SetSite} (hspace : session.spaces[index]? = some space)
    (hp : p ∈ session.setSites) (hq : q ∈ session.setSites) (hname : p.name = q.name)
    (hgeneral : p.state = some .object ↔ q.state = some .object) (target : HeapId)
    (write : Write) :
    (∃ fault, p.execute space target write = .error fault ∧
      q.execute space target write = .error fault) ∨
    ∃ first second, p.execute space target write = .ok first ∧
      q.execute space target write = .ok second ∧
      first.result = second.result ∧ first.space.heap = second.space.heap ∧
      first.space.registry = second.space.registry ∧
      first.space.interner = second.space.interner ∧
      (first.result = .ok () → first.site.cache = second.site.cache) ∧
      first.space.tracer = space.tracer.observeAll (p.emitted space target write) ∧
      second.space.tracer = space.tracer.observeAll (q.emitted space target write) ∧
      SameButLookup p.name (p.emitted space target write) (q.emitted space target write) := by
  cases hobject : space.heap.object? target with
  | none =>
    exact Or.inl ⟨_, SetSite.execute_of_unallocated hobject p write,
      SetSite.execute_of_unallocated hobject q write⟩
  | some object =>
    right
    obtain ⟨effect, hperforms, _, hexecute, hshown⟩ :=
      h.wellFormed.exists_effect hspace hp hobject write
    obtain ⟨other, hother, _, hexecute', hshown'⟩ :=
      h.wellFormed.exists_effect hspace hq hobject write
    obtain ⟨_, hexchanged, hheap, hregistry, hresult, hsite, hevents⟩ :=
      hperforms.exchange hname (decide_eq_decide.mpr hgeneral)
    cases hother.unique hexchanged
    rw [hshown, hshown']
    exact ⟨_, _, hexecute, hexecute', hresult, hheap, hregistry, rfl,
      fun hok => congrArg SetSite.cache (hsite hok), rfl, rfl, hevents⟩

/-- The site of the sample has a node for the integer slot, and a new site has none. A float boxes
that slot through either of them. -/
theorem caches_transparent_sample :
    ∃ first second,
      sampleSite.execute sample.spaces[0] ⟨0⟩ (.float ⟨0⟩) = .ok first ∧
      (SetSite.new ⟨0⟩).execute sample.spaces[0] ⟨0⟩ (.float ⟨0⟩) = .ok second ∧
      first.result = .ok () ∧ first.site.cache = second.site.cache ∧
      first.space.heap = second.space.heap ∧
      SameButLookup ⟨0⟩ (sampleSite.emitted sample.spaces[0] ⟨0⟩ (.float ⟨0⟩))
        ((SetSite.new ⟨0⟩).emitted sample.spaces[0] ⟨0⟩ (.float ⟨0⟩)) := by
  have hreachable := sample_reachable.run [.newSetSite ⟨0⟩]
  have hspace : (sample.run [.newSetSite ⟨0⟩]).spaces[0]? = some sample.spaces[0] := by rfl
  have hp : sampleSite ∈ (sample.run [.newSetSite ⟨0⟩]).setSites := by decide
  have hq : SetSite.new ⟨0⟩ ∈ (sample.run [.newSetSite ⟨0⟩]).setSites := by decide
  have hok : ∃ outcome, sampleSite.execute sample.spaces[0] ⟨0⟩ (.float ⟨0⟩) = .ok outcome ∧
      outcome.result = .ok () := ⟨_, rfl, rfl⟩
  obtain ⟨outcome, hexecute, hresult⟩ := hok
  rcases caches_transparent hreachable hspace hp hq rfl (by decide) ⟨0⟩ (.float ⟨0⟩) with
    ⟨_, hfault, _⟩ | ⟨first, second, hfirst, hsecond, _, hheap, _, _, hcache, _, _, hevents⟩
  · cases hexecute.symm.trans hfault
  · cases hexecute.symm.trans hfirst
    exact ⟨outcome, second, hexecute, hsecond, hresult, hcache hresult, hheap, hevents⟩

end Session

end ShapedObjects
