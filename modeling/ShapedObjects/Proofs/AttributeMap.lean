import ShapedObjects.Proofs.Invariant

/-!
# Objects as ordered maps

To a program that uses call sites, an object is an ordered map of attributes: an
assignment updates one entry and leaves every other object alone, and a load is a look-up.
Caches, slots and shapes do not show, but for one thing: a boolean that meets an integer
slot becomes a number.
-/

namespace ShapedObjects

/-- The value that an assignment leaves: the one that was passed, except that a boolean stored as
one becomes 0 or 1 in an integer slot, which it finds there unless the site is specialized for boxed
slots. -/
def SetSite.valueAfter (site : SetSite) (shape : Shape) : Write → Value
  | .bool value =>
    if (shape.location? site.name).map (·.kind) = some .int ∧ site.state ≠ some .object then
      .int (if value then 1 else 0)
    else .bool value
  | write => write.value

/-- The value that an assignment leaves is the one stored in the slot that it leaves. -/
theorem SetSite.valueAfter_eq (site : SetSite) (shape : Shape) (write : Write) :
    site.valueAfter shape write = write.stored (site.kindAfter shape write) := by
  cases write with
  | boxed _ | int _ | float _ => rfl
  | bool value =>
    simp only [valueAfter, ne_eq, ← isGeneral_iff, Bool.not_eq_true]
    cases hlocation : shape.location? site.name with
    | none =>
      rw [kindAfter_of_absent hlocation]
      cases site.isGeneral <;> rfl
    | some location =>
      obtain ⟨kind, index⟩ := location
      rw [kindAfter_of_location? hlocation]
      cases site.isGeneral <;> cases kind <;> rfl

/-- The value of an attribute, looked up without a cache, is what its slot holds. -/
theorem Space.WellFormed.get_eq {space : Space} (h : space.WellFormed) {target : HeapId}
    {object : Object} (hobject : space.heap.object? target = some object) (name : NameId) :
    space.get target name = .ok ((object.shape.location? name).map object.valueAt) := by
  obtain ⟨_, hwell⟩ := h.of_object? hobject
  rw [← object.lookup_contents, ← hwell.toSized.get_eq name]
  simp only [Space.get, bind, Except.bind, Heap.get_of_object? hobject]

namespace Session

variable {session later : Session} {index position : Nat} {target : HeapId} {object : Object}

/-- An assignment that succeeds updates the entry of its attribute in the object, whatever the
cache of the site holds, and leaves all other objects of all spaces as they are. -/
theorem set_assigns_entry (h : session.Reachable) {site : SetSite}
    (hsite : session.setSites[position]? = some site)
    (hobject : session.object? index target = some object) {write : Write}
    (hstep : session.step (.call index (.set position target write)) = .ok (later, .set (.ok ()))) :
    ∃ changed before, later.object? index target = some changed ∧
      object.entries = .ok before ∧ (before.map Prod.fst).Nodup ∧
      changed.entries = .ok (assign before site.name (site.valueAfter object.shape write)) ∧
      ∀ otherIndex other, (otherIndex, other) ≠ (index, target) →
        later.object? otherIndex other = session.object? otherIndex other := by
  obtain ⟨space, outcome, hspace, hfound, hsucceeds, rfl⟩ :=
    h.wellFormed.succeeds_of_step hsite hobject hstep
  obtain ⟨changed, node, _, _, hequips, hcontents⟩ := hsucceeds
  have hchanged := hequips.object? hfound
  obtain ⟨_, hbefore⟩ :=
    (h.wellFormed.spaces space (List.mem_of_getElem? hspace)).of_object? hfound
  obtain ⟨_, hafter⟩ := hequips.wellFormed.of_object? hchanged
  refine ⟨changed, object.contents, ?_, hbefore.toSized.entries_eq, ?_, ?_, ?_⟩
  · exact (object?_withSpace_self hspace outcome.space target).trans hchanged
  · rw [object.map_fst_contents]
    exact hbefore.packed.nodup
  · rw [hafter.toSized.entries_eq, hcontents, site.valueAfter_eq]
  · intro otherIndex other hne
    exact object?_of_replaced hspace hequips.heap hne

/-- A boolean goes into the integer slot of the sample as a number. -/
theorem set_assigns_entry_sample :
    ∃ changed, (sample.next (.call 0 (.set 0 ⟨0⟩ (.bool true)))).object? 0 ⟨0⟩ = some changed ∧
      changed.entries = .ok [(⟨0⟩, .int 1)] := by
  have hsite : sample.setSites[0]? = some sampleSite := by decide
  have hobject : sample.object? 0 ⟨0⟩ = some sampleObject := by decide
  have hstep : sample.step (.call 0 (.set 0 ⟨0⟩ (.bool true))) =
      .ok (sample.next (.call 0 (.set 0 ⟨0⟩ (.bool true))), .set (.ok ())) := by rfl
  obtain ⟨changed, before, hchanged, hbefore, _, hentries, _⟩ :=
    set_assigns_entry sample_reachable hsite hobject hstep
  cases hbefore
  exact ⟨changed, hchanged, hentries⟩

/-- A load through a site is a look-up of its attribute, whatever the cache of the site holds. Where
the object lacks the attribute, the program gets an attribute error that names it, and nothing
changes. A load changes nothing but the cache and shows the tracer at most one event. -/
theorem get_agrees_with_lookup (h : session.Reachable) {space : Space} {site : GetSite}
    (hspace : session.spaces[index]? = some space)
    (hsite : session.getSites[position]? = some site)
    (hobject : space.heap.object? target = some object) :
    ∃ found, space.get target site.name = .ok found ∧
      (∀ value, found = some value → ∀ load, ∃ later,
        session.step (.call index (.get position target load)) =
          .ok (later, .got (.ok (load.view value)))) ∧
      (found = none → ∀ text, space.interner.text? site.name = some text → ∀ load,
        session.step (.call index (.get position target load)) =
          .ok (session, .got (.error (.catchable ⟨.attributeError,
            some ("'object' object has no attribute '" ++ text ++ "'")⟩)))) ∧
      ∀ load later reply,
        session.step (.call index (.get position target load)) = .ok (later, reply) →
        (∀ loaded, reply = .got (.ok loaded) →
          ∃ value, found = some value ∧ loaded = load.view value) ∧
        ∃ tracer cache,
          (tracer = space.tracer ∨
            ∃ kind, tracer = space.tracer.observe (.specialized site.name kind)) ∧
          later = { session with
            spaces := session.spaces.set index { space with tracer := tracer }
            getSites := session.getSites.set position { site with cache := cache } } := by
  have hwell := h.wellFormed.spaces space (List.mem_of_getElem? hspace)
  have hreliable := h.wellFormed.getSite_reliable (List.mem_of_getElem? hsite) hspace
    (hwell.of_object? hobject).1
  refine ⟨_, hwell.get_eq hobject site.name, ?_, ?_, ?_⟩
  · intro value hvalue load
    obtain ⟨location, hlocation, rfl⟩ := Option.map_eq_some_iff.mp hvalue
    obtain ⟨outcome, hexecute, hloads⟩ :=
      GetSite.exists_loads hwell hobject hreliable hlocation load
    rw [← hloads.result_of_location? hlocation]
    exact ⟨_, (Steps.loaded hspace hsite hexecute).step_eq⟩
  · intro hmissing text hknown load
    have habsent := Option.map_eq_none_iff.mp hmissing
    have hexecute := GetSite.loads_of_absent hobject hreliable habsent hknown load
    rw [Exception.missingAttribute_object] at hexecute
    have hstep := (Steps.loaded hspace hsite hexecute).step_eq
    have hsame : { session.withSpace index space with
        getSites := session.getSites.set position site } = session := by
      obtain ⟨_, rfl⟩ := List.getElem?_eq_some_iff.mp hspace
      obtain ⟨_, rfl⟩ := List.getElem?_eq_some_iff.mp hsite
      simp only [withSpace, List.set_getElem_self]
    exact hstep.trans (by rw [hsame])
  · intro load later reply hstep
    obtain ⟨space', site', outcome, hspace', hsite', hexecute, rfl, rfl⟩ := loaded_of_step hstep
    cases hspace.symm.trans hspace'
    cases hsite.symm.trans hsite'
    cases GetSite.loads_of_execute hwell hobject hreliable hexecute with
    | @hit location hcache hlocation =>
      refine ⟨?_, space.tracer, site.cache, Or.inl rfl, rfl⟩
      rintro loaded ⟨⟩
      exact ⟨_, by rw [hlocation]; rfl, rfl⟩
    | @found location hlocation =>
      refine ⟨?_, _, _, Or.inr ⟨location.kind, rfl⟩, rfl⟩
      rintro loaded ⟨⟩
      exact ⟨_, by rw [hlocation]; rfl, rfl⟩
    | missing habsent hknown =>
      refine ⟨?_, space.tracer, site.cache, Or.inl rfl, rfl⟩
      rintro loaded ⟨⟩

/-- A load of a float gives nothing where the sample holds an integer. -/
theorem get_agrees_with_lookup_sample :
    ∃ later, sample.step (.call 0 (.get 0 ⟨0⟩ .float)) = .ok (later, .got (.ok (.float none))) := by
  have hspace : sample.spaces[0]? = some sample.spaces[0] := by rfl
  have hsite : sample.getSites[0]? = some (.new ⟨0⟩) := by decide
  have hobject : sample.spaces[0].heap.object? ⟨0⟩ = some sampleObject := by decide
  obtain ⟨found, hfound, hloads, _⟩ :=
    get_agrees_with_lookup sample_reachable hspace hsite hobject
  cases hfound
  exact hloads (.int 7) rfl .float

end Session

end ShapedObjects
