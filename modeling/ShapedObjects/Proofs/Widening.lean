import ShapedObjects.Proofs.Invariant

/-!
# How the kinds of an object's slots change

An assignment adds its attribute or may box it, and leaves the slots of all others alone.
So over any run the attributes of an object only become more, their order stays, and a slot
changes its kind at most once, from a primitive kind to the boxed one.
-/

namespace ShapedObjects

/-- A later list of attributes and kinds: each attribute is where it was, and its kind is the same
or has become the boxed one. More attributes may follow. -/
def OnlyWidened (earlier later : List (NameId × Kind)) : Prop :=
  ∀ (i : Nat) (name : NameId) (kind : Kind), earlier[i]? = some (name, kind) →
    ∃ wider, later[i]? = some (name, wider) ∧
      (wider = kind ∨ kind.isPrimitive = true ∧ wider = .object)

namespace OnlyWidened

theorem refl (kinds : List (NameId × Kind)) : OnlyWidened kinds kinds :=
  fun _ _ kind hkind => ⟨kind, hkind, Or.inl rfl⟩

/-- A boxed slot stays boxed, so what was widened twice was widened once. -/
theorem trans {first second third : List (NameId × Kind)} (h : OnlyWidened first second)
    (h' : OnlyWidened second third) : OnlyWidened first third := by
  intro i name kind hkind
  obtain ⟨wide, hwide, hfirst⟩ := h i name kind hkind
  obtain ⟨wider, hwider, hsecond⟩ := h' i name wide hwide
  refine ⟨wider, hwider, ?_⟩
  rcases hsecond with rfl | ⟨hprimitive, rfl⟩
  · exact hfirst
  · rcases hfirst with rfl | ⟨_, rfl⟩
    · exact Or.inr ⟨hprimitive, rfl⟩
    · cases hprimitive

/-- The names of the earlier list come first in the later one. -/
theorem names_prefix {earlier later : List (NameId × Kind)} (h : OnlyWidened earlier later) :
    earlier.map Prod.fst <+: later.map Prod.fst := by
  rw [List.prefix_iff_getElem?]
  intro i hi
  rw [List.length_map] at hi
  obtain ⟨wider, hwider, _⟩ := h i _ _ (List.getElem?_eq_getElem hi)
  rw [List.getElem?_map, hwider, List.getElem_map]
  rfl

/-- Assigning a kind to an attribute is a widening if the kind is new there or wider. -/
theorem of_assign {name : NameId} {wider : Kind} {kinds : List (NameId × Kind)}
    (h : ∀ kind, kinds.lookup name = some kind →
      wider = kind ∨ kind.isPrimitive = true ∧ wider = .object) :
    OnlyWidened kinds (assign kinds name wider) := by
  induction kinds with
  | nil =>
    intro i other kind hkind
    cases hkind
  | cons entry kinds ih =>
    obtain ⟨first, current⟩ := entry
    intro i other kind hkind
    by_cases heq : first = name
    · subst heq
      rw [assign, if_pos rfl]
      cases i with
      | zero =>
        cases hkind
        exact ⟨wider, rfl, h current List.lookup_cons_self⟩
      | succ i => exact ⟨kind, hkind, Or.inl rfl⟩
    · rw [assign, if_neg heq]
      cases i with
      | zero => exact ⟨kind, hkind, Or.inl rfl⟩
      | succ i =>
        refine ih ?_ i other kind hkind
        intro kind' hkind'
        refine h kind' ?_
        rw [lookup_cons_of_ne fun hname => heq hname.symm]
        exact hkind'

end OnlyWidened

/-- An assignment gives an attribute that the object has the same kind or boxes it. -/
theorem SetSite.kindAfter_widens (site : SetSite) (shape : Shape) (write : Write) (kind : Kind)
    (hkind : shape.layout.kinds.lookup site.name = some kind) :
    site.kindAfter shape write = kind ∨
      kind.isPrimitive = true ∧ site.kindAfter shape write = .object := by
  obtain ⟨location, hlookup, rfl⟩ := Layout.lookup_kinds_eq_some_iff.mp hkind
  have hlocation : shape.location? site.name = some location := hlookup
  rw [kindAfter_of_location? hlocation]
  split
  · exact Or.inl rfl
  · by_cases hobject : location.kind = .object
    · exact Or.inl hobject.symm
    · exact Or.inr ⟨Kind.isPrimitive_iff.mpr hobject, rfl⟩

/-- A later heap, which has all objects of the earlier one, and their kinds only widened. -/
def Heap.Widens (heap later : Heap) : Prop :=
  ∀ target object, heap.object? target = some object →
    ∃ changed, later.object? target = some changed ∧
      OnlyWidened object.shape.layout.kinds changed.shape.layout.kinds

theorem Heap.Widens.refl (heap : Heap) : heap.Widens heap :=
  fun _ object hobject => ⟨object, hobject, .refl _⟩

/-- An allocation leaves all objects as they are. -/
theorem Heap.widens_allocate (heap : Heap) (shape : Shape) :
    heap.Widens (heap.allocate shape).1 :=
  fun _ object hobject => ⟨object, Heap.object?_allocate hobject shape, .refl _⟩

/-- An assignment that succeeds widens at most one slot of one object. -/
theorem SetSite.Succeeds.widens {site : SetSite} {space : Space} {target : HeapId}
    {object : Object} {write : Write} {outcome : Outcome SetSite Unit}
    (h : site.Succeeds space target object write outcome)
    (hobject : space.heap.object? target = some object) :
    space.heap.Widens outcome.space.heap := by
  obtain ⟨changed, node, _, _, hequips, _⟩ := h
  intro other found hfound
  by_cases heq : other = target
  · subst heq
    cases hobject.symm.trans hfound
    refine ⟨changed, hequips.object? hobject, ?_⟩
    rw [hequips.kinds]
    exact .of_assign (site.kindAfter_widens object.shape write)
  · refine ⟨found, ?_, .refl _⟩
    rw [hequips.heap, Heap.object?_put_of_ne heq]
    exact hfound

namespace Session

variable {session later : Session} {index position : Nat} {target : HeapId} {object : Object}

/-- What is true of the heap of one space is true of the objects of a session. -/
theorem widens_withSpace {space after : Space} {place : Nat}
    (hspace : session.spaces[place]? = some space) (hwidens : space.heap.Widens after.heap)
    (hobject : session.object? index target = some object) :
    ∃ changed, (session.withSpace place after).object? index target = some changed ∧
      OnlyWidened object.shape.layout.kinds changed.shape.layout.kinds := by
  by_cases heq : place = index
  · subst heq
    rw [object?_of_space hspace] at hobject
    rw [object?_withSpace_self hspace]
    exact hwidens target object hobject
  · rw [object?_withSpace_of_ne heq]
    exact ⟨object, hobject, .refl _⟩

/-- No step removes an object, and none narrows a slot. -/
theorem Steps.widens {action : Action} {reply : Reply} (hsteps : session.Steps action later reply)
    (h : session.WellFormed) (hobject : session.object? index target = some object) :
    ∃ changed, later.object? index target = some changed ∧
      OnlyWidened object.shape.layout.kinds changed.shape.layout.kinds := by
  cases hsteps with
  | interned name hspace => exact widens_withSpace hspace (.refl _) hobject
  | allocated hspace => exact widens_withSpace hspace (Heap.widens_allocate _ _) hobject
  | observed event hspace => exact widens_withSpace hspace (.refl _) hobject
  | assigned hspace hsite hexecute =>
    obtain ⟨assignee, hassignee⟩ := SetSite.object?_of_execute hexecute
    refine widens_withSpace hspace ?_ hobject
    rcases h.succeeds_or_refuses hspace hsite hassignee hexecute with hsucceeds | ⟨_, hrefuses⟩
    · exact hsucceeds.widens hassignee
    · rw [hrefuses.unchanged]
      exact .refl _
  | loaded hspace hsite hexecute =>
    obtain ⟨source, hsource⟩ := GetSite.object?_of_execute hexecute
    refine widens_withSpace hspace ?_ hobject
    cases h.loads hspace hsite hsource hexecute <;> exact .refl _
  | newSetSite | newGetSite | copySetSite | copyGetSite => exact ⟨object, hobject, .refl _⟩

/-- No action removes an object or narrows a slot, also none that faults. -/
theorem WellFormed.next_widens (h : session.WellFormed) (action : Action)
    (hobject : session.object? index target = some object) :
    ∃ changed, (session.next action).object? index target = some changed ∧
      OnlyWidened object.shape.layout.kinds changed.shape.layout.kinds := by
  rcases session.next_cases action with ⟨later, reply, hstep, hnext⟩ | ⟨_, _, hnext⟩
  · rw [hnext]
    exact (steps_of_step hstep).widens h hobject
  · rw [hnext]
    exact ⟨object, hobject, .refl _⟩

/-- No run removes an object, and none narrows a slot. -/
theorem WellFormed.run_widens (h : session.WellFormed) (actions : List Action)
    (hobject : session.object? index target = some object) :
    ∃ changed, (session.run actions).object? index target = some changed ∧
      OnlyWidened object.shape.layout.kinds changed.shape.layout.kinds := by
  induction actions generalizing session object with
  | nil => exact ⟨object, hobject, .refl _⟩
  | cons action actions ih =>
    obtain ⟨changed, hchanged, hwidened⟩ := h.next_widens action hobject
    obtain ⟨last, hlast, hlater⟩ := ih (h.next action) hchanged
    exact ⟨last, hlast, hwidened.trans hlater⟩

/-- An assignment that succeeds gives its attribute the kind that is needed and leaves the kinds of
all others. Over any run the attributes of an object keep their order, and a kind only ever
changes from a primitive one to the boxed one. -/
theorem kinds_only_widen (h : session.Reachable) :
    (∀ index position target write site object later,
      session.setSites[position]? = some site →
      session.object? index target = some object →
      session.step (.call index (.set position target write)) = .ok (later, .set (.ok ())) →
      ∃ changed, later.object? index target = some changed ∧
        changed.shape.layout.kinds =
          assign object.shape.layout.kinds site.name (site.kindAfter object.shape write)) ∧
    ∀ actions index target object, session.object? index target = some object →
      ∃ changed, (session.run actions).object? index target = some changed ∧
        object.shape.layout.kinds.map Prod.fst <+: changed.shape.layout.kinds.map Prod.fst ∧
        OnlyWidened object.shape.layout.kinds changed.shape.layout.kinds := by
  constructor
  · intro index position target write site object later hsite hobject hstep
    obtain ⟨space, outcome, hspace, hfound, hsucceeds, rfl⟩ :=
      h.wellFormed.succeeds_of_step hsite hobject hstep
    obtain ⟨changed, node, _, _, hequips, _⟩ := hsucceeds
    refine ⟨changed, ?_, hequips.kinds⟩
    exact (object?_withSpace_self hspace outcome.space target).trans (hequips.object? hfound)
  · intro actions index target object hobject
    obtain ⟨changed, hchanged, hwidened⟩ := h.wellFormed.run_widens actions hobject
    exact ⟨changed, hchanged, hwidened.names_prefix, hwidened⟩

/-- A float boxes the integer slot of the sample. -/
theorem kinds_only_widen_sample :
    ∃ changed, (sample.next (.call 0 (.set 0 ⟨0⟩ (.float ⟨0⟩)))).object? 0 ⟨0⟩ = some changed ∧
      changed.shape.layout.kinds = [(⟨0⟩, .object)] := by
  have hsite : sample.setSites[0]? = some sampleSite := by decide
  have hobject : sample.object? 0 ⟨0⟩ = some sampleObject := by decide
  have hstep : sample.step (.call 0 (.set 0 ⟨0⟩ (.float ⟨0⟩))) =
      .ok (sample.next (.call 0 (.set 0 ⟨0⟩ (.float ⟨0⟩))), .set (.ok ())) := by rfl
  obtain ⟨changed, hchanged, hkinds⟩ :=
    (kinds_only_widen sample_reachable).1 0 0 ⟨0⟩ (.float ⟨0⟩) _ _ _ hsite hobject hstep
  exact ⟨changed, hchanged, hkinds⟩

end Session

end ShapedObjects
