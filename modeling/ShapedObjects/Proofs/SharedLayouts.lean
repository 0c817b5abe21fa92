import ShapedObjects.Proofs.DenseLayouts

/-!
# Shapes with equal layouts

A registry shares a shape between all objects that take the same steps, and remembers steps
only. Two shapes with the same attributes and kinds therefore have the same layout, but they
are one shape only if the same steps lead to both. The steps can be read off the kinds as
long as no attribute was boxed on the way, and otherwise they may differ: what was boxed
first, and what was boxed from the start, is not to be seen in the layout.
-/

namespace ShapedObjects

/-- The steps that add attributes one by one. -/
def additions (kinds : List (NameId × Kind)) : List Transition :=
  kinds.map fun entry => .add entry.1 entry.2

namespace Registry

/-- Asks for steps from shapes that are given by their numbers, one after the other. -/
def asks (registry : Registry) (requests : List (ShapeId × Transition)) : Registry :=
  requests.foldl (fun registry request =>
    match registry.shape? request.1 with
    | some start => (registry.ask start request.2).1
    | none => registry) registry

variable {registry later : Registry} {shape : Shape} {steps : List Transition}

/-- Asking for steps by number is asking for steps from issued shapes. -/
theorem Becomes.asks (h : registry.Becomes later) (requests : List (ShapeId × Transition)) :
    registry.Becomes (later.asks requests) := by
  induction requests generalizing later with
  | nil => exact h
  | cons request requests ih =>
    rw [Registry.asks, List.foldl_cons]
    split
    · next start hstart =>
      exact ih (.ask request.2 h (List.mem_of_getElem? hstart))
    · exact ih h

/-- What was boxed on the way to a shape is boxed there, since no step ever undoes it. -/
theorem Reaches.boxed (h : registry.Reaches steps shape) (hregistry : registry.WellFormed)
    {name : NameId} (hname : .generalize name ∈ steps) :
    shape.layout.kinds.lookup name = some .object := by
  induction h with
  | root => cases hname
  | @next steps start step reached hstart hknown ih =>
    have hissued := hstart.issued hregistry
    have hleads := (takes_of_known hregistry hissued hknown).leads
    have hchanges := hleads.changes (hregistry.packed hissued)
    rcases List.mem_append.mp hname with hold | hlast
    · generalize reached.shape.layout.kinds = kinds at hchanges ⊢
      cases hchanges with
      | add _ => rw [List.lookup_append, ih hold, Option.some_or]
      | @generalize boxed _ _ _ _ =>
        by_cases hsame : name = boxed
        · rw [hsame, lookup_assign_self]
        · rw [lookup_assign_of_ne _ _ _ hsame, ih hold]
    · obtain rfl := List.mem_singleton.mp hlast
      generalize reached.shape.layout.kinds = kinds at hchanges ⊢
      cases hchanges with
      | generalize _ _ => rw [lookup_assign_self]

/-- If nothing was boxed on the way to a shape, its attributes were added one by one with the kinds
that they have. -/
theorem Reaches.eq_additions (h : registry.Reaches steps shape) (hregistry : registry.WellFormed)
    (hsteps : ∀ name, .generalize name ∉ steps) : steps = additions shape.layout.kinds := by
  induction h with
  | root => rfl
  | @next steps start step reached hstart hknown ih =>
    have hissued := hstart.issued hregistry
    have hleads := (takes_of_known hregistry hissued hknown).leads
    have hbefore := ih fun name hname => hsteps name (List.mem_append_left _ hname)
    cases step with
    | add name kind =>
      cases hleads with
      | add _ hlayout _ =>
        rw [hlayout, Layout.kinds_append, additions, List.map_append, List.map_singleton,
          ← additions, ← hbefore]
    | generalize name => exact absurd (List.mem_append_right _ (by simp)) (hsteps name)

/-- Two shapes with the same attributes and kinds, however they were reached, have the same layout.
Exactly one list of steps leads to each of them, and they are one shape if and only if it is the
same for both. So it is when no attribute was boxed on the way to either of them, and in particular
when no attribute is boxed at all. -/
theorem equal_layouts_shared {serial : Nat} (h : (new serial).Becomes registry)
    {shape other : Shape} (hshape : shape ∈ registry.shapes) (hother : other ∈ registry.shapes)
    (hkinds : shape.layout.kinds = other.layout.kinds) :
    shape.layout = other.layout ∧
    (∃! steps, registry.Reaches steps shape) ∧
    (∃! steps, registry.Reaches steps other) ∧
    (shape = other ↔ ∃ steps, registry.Reaches steps shape ∧ registry.Reaches steps other) ∧
    ((∀ steps, registry.Reaches steps shape ∨ registry.Reaches steps other →
      ∀ name, .generalize name ∉ steps) → shape = other) ∧
    ((∀ entry ∈ shape.layout.kinds, entry.2 ≠ .object) → shape = other) := by
  obtain ⟨_, hwell, _⟩ := h.extends (wellFormed_new serial)
  obtain ⟨steps, hsteps⟩ := hwell.reached shape hshape
  obtain ⟨others, hothers⟩ := hwell.reached other hother
  have hplain : (∀ name, .generalize name ∉ steps) → (∀ name, .generalize name ∉ others) →
      shape = other := by
    intro hadded hadded'
    rw [hsteps.eq_iff hothers hwell, hsteps.eq_additions hwell hadded,
      hothers.eq_additions hwell hadded', hkinds]
  refine ⟨?_, ⟨steps, hsteps, ?_⟩, ⟨others, hothers, ?_⟩, ⟨?_, ?_⟩, ?_, ?_⟩
  · rw [(hwell.packed hshape).eq_ofKinds, hkinds, ← (hwell.packed hother).eq_ofKinds]
  · exact fun steps' hsteps' => hsteps'.steps_unique hsteps hwell
  · exact fun others' hothers' => hothers'.steps_unique hothers hwell
  · rintro rfl
    exact ⟨steps, hsteps, hsteps⟩
  · rintro ⟨both, hboth, hboth'⟩
    exact hboth.shape_unique hboth'
  · exact fun hadded => hplain (hadded steps (Or.inl hsteps)) (hadded others (Or.inr hothers))
  · intro hunboxed
    have hnone : ∀ name, shape.layout.kinds.lookup name ≠ some .object :=
      fun name hboxed => hunboxed _ (mem_of_lookup hboxed) rfl
    exact hplain (fun name hname => hnone name (hsteps.boxed hwell hname))
      (fun name hname => hnone name (hkinds ▸ hothers.boxed hwell hname))

/-- Two integer attributes are added and then boxed, once the first one before the second and once
the other way round. Besides, both are added as boxed ones. -/
def boxedThreeWays : Registry :=
  (new 0).asks
    [(⟨0⟩, .add ⟨0⟩ .int), (⟨1⟩, .add ⟨1⟩ .int),
      (⟨2⟩, .generalize ⟨0⟩), (⟨3⟩, .generalize ⟨1⟩),
      (⟨2⟩, .generalize ⟨1⟩), (⟨5⟩, .generalize ⟨0⟩),
      (⟨0⟩, .add ⟨0⟩ .object), (⟨7⟩, .add ⟨1⟩ .object)]

/-- The shapes behind the two orders of boxing have the same layout, and no list of steps leads to
both of them. -/
theorem equal_layouts_shared_either_order :
    let shape (id : Nat) : Shape := ⟨0, ⟨id⟩, Layout.ofKinds [(⟨0⟩, .object), (⟨1⟩, .object)]⟩
    (shape 4).layout = (shape 6).layout ∧
      (∃! steps, boxedThreeWays.Reaches steps (shape 4)) ∧
      ¬ ∃ steps, boxedThreeWays.Reaches steps (shape 4) ∧
        boxedThreeWays.Reaches steps (shape 6) := by
  intro shape
  have hbecomes : (new 0).Becomes boxedThreeWays := Becomes.refl.asks _
  have hfirst : shape 4 ∈ boxedThreeWays.shapes := by decide
  have hsecond : shape 6 ∈ boxedThreeWays.shapes := by decide
  obtain ⟨hlayout, hsteps, _, hone, _⟩ := equal_layouts_shared hbecomes hfirst hsecond rfl
  refine ⟨hlayout, hsteps, ?_⟩
  rw [← hone]
  decide

/-- Boxing two attributes in either order, and adding them as boxed ones, makes three shapes with
the same attributes and kinds. -/
theorem equal_kinds_three_shapes :
    let shape (id : Nat) : Shape := ⟨0, ⟨id⟩, Layout.ofKinds [(⟨0⟩, .object), (⟨1⟩, .object)]⟩
    (new 0).Becomes boxedThreeWays ∧
      (∀ id ∈ [4, 6, 8], shape id ∈ boxedThreeWays.shapes) ∧
      ¬ ∀ first ∈ boxedThreeWays.shapes, ∀ second ∈ boxedThreeWays.shapes,
        first.layout.kinds = second.layout.kinds → first = second := by
  intro shape
  refine ⟨Becomes.refl.asks _, by decide, ?_⟩
  intro hshared
  have heq := hshared (shape 4) (by decide) (shape 6) (by decide) rfl
  cases heq

end Registry

end ShapedObjects
