import Mathlib.Data.List.Nodup
import ShapedObjects.Proofs.Transitions

/-!
# Shapes and their histories

The history of a shape is the list of steps that lead to it from the empty shape. In a
registry that can be relied on, every issued shape has exactly one history and no two
shapes share one, so a shape stands for its history and the number of a shape is but a
name for it.
-/

namespace ShapedObjects

/-- What a step makes of a layout. -/
def Transition.apply : Transition → Layout → Layout
  | add name kind, layout => layout.append name kind
  | generalize name, layout => layout.widen name

/-- The kind of slot that a step gives to its attribute. -/
def Transition.kind : Transition → Kind
  | add _ kind => kind
  | generalize _ => .object

/-- A step leads to the layout that it makes. -/
theorem Transition.Leads.layout_eq {step : Transition} {start : Shape} {reached : Reached}
    (h : step.Leads start reached) : reached.shape.layout = step.apply start.layout := by
  cases h with
  | add _ hlayout _ => exact hlayout
  | generalize _ _ hlayout _ => exact hlayout

/-- The location that comes with the new shape is one for the kind of slot that the step gives. -/
theorem Transition.Leads.kind_eq {step : Transition} {start : Shape} {reached : Reached}
    (h : step.Leads start reached) (hpacked : start.layout.Packed) :
    reached.location.kind = step.kind := by
  cases h with
  | @add _ _ name kind hnew hlayout hlocation =>
    have hself := Layout.location?_append_self kind hnew
    rw [← hlayout] at hself
    rw [← Option.some.inj (hself.symm.trans hlocation)]
    rfl
  | generalize hcurrent _ hlayout hlocation =>
    obtain ⟨boxed, hboxed, hkind⟩ := hpacked.location?_widen_self hcurrent
    rw [← hlayout] at hboxed
    rwa [← Option.some.inj (hboxed.symm.trans hlocation)]

namespace Registry

variable {registry later : Registry} {start shape other : Shape} {step : Transition}
  {steps others : List Transition} {reached : Reached}

section Memo

/-- No shape was issued twice. -/
theorem WellFormed.nodup (h : registry.WellFormed) : registry.shapes.Nodup := by
  rw [List.nodup_iff_injective_get]
  intro i j heq
  have hi := (h.issued i _ (List.getElem?_eq_getElem i.isLt)).2.1
  have hj := (h.issued j _ (List.getElem?_eq_getElem j.isLt)).2.1
  rw [List.get_eq_getElem, List.get_eq_getElem] at heq
  rw [heq, hj] at hi
  exact Fin.ext (congrArg ShapeId.index hi).symm

/-- No remembered step leads to the empty shape. -/
theorem WellFormed.ne_root (h : registry.WellFormed) {entry : (ShapeId × Transition) × Reached}
    (hentry : entry ∈ registry.memo) : entry.2.shape ≠ registry.root := by
  have hnodup := h.nodup
  rw [h.shapes, List.nodup_cons] at hnodup
  intro heq
  exact hnodup.1 (heq ▸ List.mem_map.mpr ⟨entry, hentry, rfl⟩)

/-- No two remembered steps lead to one shape. -/
theorem WellFormed.eq_of_shape_eq (h : registry.WellFormed)
    {first second : (ShapeId × Transition) × Reached} (hfirst : first ∈ registry.memo)
    (hsecond : second ∈ registry.memo) (heq : first.2.shape = second.2.shape) :
    first = second := by
  have hnodup := h.nodup
  rw [h.shapes, List.nodup_cons] at hnodup
  exact List.inj_on_of_nodup_map hnodup.2 hfirst hsecond heq

end Memo

section Reaches

/-- Without a step, the empty shape is reached. -/
theorem reaches_nil_iff : registry.Reaches [] shape ↔ shape = registry.root := by
  constructor
  · intro h
    generalize hsteps : ([] : List Transition) = steps at h
    cases h with
    | root => rfl
    | next => simp at hsteps
  · rintro rfl
    exact .root

/-- The last step of a history is remembered for the shape that the steps before it reach. -/
theorem reaches_concat_iff : registry.Reaches (steps ++ [step]) shape ↔
    ∃ start reached, registry.Reaches steps start ∧ registry.known? start step = some reached ∧
      shape = reached.shape := by
  constructor
  · intro h
    generalize hsteps : steps ++ [step] = all at h
    cases h with
    | root => simp at hsteps
    | next hstart hknown =>
      obtain ⟨rfl, heq⟩ := List.append_inj' hsteps rfl
      cases heq
      exact ⟨_, _, hstart, hknown, rfl⟩
  · rintro ⟨start, reached, hstart, hknown, rfl⟩
    exact .next hstart hknown

/-- A history belongs to one shape. -/
theorem Reaches.shape_unique (h : registry.Reaches steps shape)
    (h' : registry.Reaches steps other) : shape = other := by
  induction h generalizing other with
  | root => exact (reaches_nil_iff.mp h').symm
  | next _ hknown ih =>
    obtain ⟨start', reached', hstart', hknown', rfl⟩ := reaches_concat_iff.mp h'
    rw [ih hstart', hknown'] at hknown
    exact congrArg Reached.shape (Option.some.inj hknown).symm

/-- Only issued shapes have a history. -/
theorem Reaches.issued (h : registry.Reaches steps shape) (hregistry : registry.WellFormed) :
    shape ∈ registry.shapes := by
  cases h with
  | root => exact hregistry.root
  | next _ hknown => exact (hregistry.memo _ (mem_memo_of_known? hknown)).1

/-- The history of a shape says what its layout is. -/
theorem Reaches.layout_eq (h : registry.Reaches steps shape) (hregistry : registry.WellFormed) :
    shape.layout = steps.foldl (fun layout step => step.apply layout) Layout.empty := by
  induction h with
  | root => rfl
  | next hstart hknown ih =>
    have htakes := takes_of_known hregistry (hstart.issued hregistry) hknown
    rw [List.foldl_concat, ← ih, htakes.leads.layout_eq]

/-- A shape has one history: the last step to it is the only one that leads there, and so are the
steps before it. -/
theorem Reaches.steps_unique (h : registry.Reaches steps shape)
    (h' : registry.Reaches others shape) (hregistry : registry.WellFormed) : steps = others := by
  induction h generalizing others with
  | root =>
    generalize hshape : registry.root = shape at h'
    cases h' with
    | root => rfl
    | next _ hknown => exact absurd hshape.symm (hregistry.ne_root (mem_memo_of_known? hknown))
  | @next steps start step reached hstart hknown ih =>
    generalize hshape : reached.shape = shape at h'
    cases h' with
    | root => exact absurd hshape (hregistry.ne_root (mem_memo_of_known? hknown))
    | @next steps' start' step' reached' hstart' hknown' =>
      have hentry := hregistry.eq_of_shape_eq (mem_memo_of_known? hknown)
        (mem_memo_of_known? hknown') hshape
      obtain ⟨⟨hid, rfl⟩, _⟩ : (start.id = start'.id ∧ step = step') ∧ reached = reached' := by
        simpa using hentry
      obtain rfl := hregistry.eq_of_id_eq (hstart.issued hregistry) (hstart'.issued hregistry) hid
      rw [ih hstart']

/-- Two shapes are one exactly if they have one history. -/
theorem Reaches.eq_iff (h : registry.Reaches steps shape) (h' : registry.Reaches others other)
    (hregistry : registry.WellFormed) : shape = other ↔ steps = others := by
  constructor
  · rintro rfl
    exact h.steps_unique h' hregistry
  · rintro rfl
    exact h.shape_unique h'

end Reaches

section Takes

/-- A step that was taken leads on from the history of its start. -/
theorem Takes.reaches (h : registry.Takes start step later reached)
    (hstart : registry.Reaches steps start) : later.Reaches (steps ++ [step]) reached.shape :=
  (hstart.extends h.grown).next h.known

/-- Whatever is remembered after a step was remembered before, or is that step. -/
theorem Takes.known?_cases (h : registry.Takes start step later reached) {source : Shape}
    {step' : Transition} {reached' : Reached} (hknown : later.known? source step' = some reached') :
    registry.known? source step' = some reached' ∨
      source.id = start.id ∧ step' = step ∧ reached' = reached := by
  unfold known? at hknown ⊢
  rcases h.memo with hmemo | hmemo
  · exact Or.inl (hmemo ▸ hknown)
  · rw [hmemo, List.lookup_append, Option.or_eq_some_iff] at hknown
    rcases hknown with hold | ⟨_, hnew⟩
    · exact Or.inl hold
    · obtain ⟨before, after, hentry, _⟩ := List.lookup_eq_some_iff.mp hnew
      have hmem : ((source.id, step'), reached') ∈ [((start.id, step), reached)] := by
        rw [hentry]
        simp
      right
      simpa [and_assoc] using hmem

/-- A step that was taken adds its own history to those that a registry knows, and no other. -/
theorem Takes.reaches_iff (h : registry.Takes start step later reached)
    (hregistry : registry.WellFormed) (hstart : registry.Reaches steps start) :
    later.Reaches others shape ↔
      registry.Reaches others shape ∨ others = steps ++ [step] ∧ shape = reached.shape := by
  constructor
  · intro hlater
    cases hlater with
    | root =>
      left
      rw [root, h.grown.serial]
      exact .root
    | @next others source step' reached' hsource hknown =>
      have hissued := hsource.issued h.wellFormed
      rcases h.known?_cases hknown with hold | ⟨hid, rfl, rfl⟩
      · -- What was remembered before starts at a shape that was issued before.
        obtain ⟨_, source', hsource', hid, _⟩ := hregistry.memo _ (mem_memo_of_known? hold)
        obtain rfl := h.wellFormed.eq_of_id_eq (h.grown.shapes.subset hsource') hissued hid
        obtain ⟨others', hothers'⟩ := hregistry.reached source' hsource'
        rw [hsource.steps_unique (hothers'.extends h.grown) h.wellFormed]
        exact Or.inl (hothers'.next hold)
      · obtain rfl := h.wellFormed.eq_of_id_eq hissued
          (h.grown.shapes.subset (hstart.issued hregistry)) hid
        rw [hsource.steps_unique (hstart.extends h.grown) h.wellFormed]
        exact Or.inr ⟨rfl, rfl⟩
  · rintro (hother | ⟨rfl, rfl⟩)
    · exact hother.extends h.grown
    · exact h.reaches hstart

end Takes

end Registry

end ShapedObjects
