import ShapedObjects.Shape.Registry
import ShapedObjects.Proofs.Packed

/-!
# What a registry may be relied on for

A registry numbers the shapes that it issues, so that two of its shapes with the same
number are one shape. Every remembered step leads from an issued shape to an issued
shape whose layout differs as the step says, and every shape but the empty one was issued
for one remembered step. All this is kept by every step that is taken, and no issued shape
and no remembered step ever changes.
-/

namespace ShapedObjects

/-- What a step from a shape reaches: the layout changes as the step says, and the location that
comes with the new shape is the one of the step's attribute there. -/
inductive Transition.Leads : Transition → Shape → Reached → Prop
  | add {start : Shape} {reached : Reached} {name : NameId} {kind : Kind} :
      start.location? name = none →
      reached.shape.layout = start.layout.append name kind →
      reached.shape.location? name = some reached.location →
      Leads (.add name kind) start reached
  | generalize {start : Shape} {reached : Reached} {name : NameId} {current : Location} :
      start.location? name = some current → current.kind ≠ .object →
      reached.shape.layout = start.layout.widen name →
      reached.shape.location? name = some reached.location →
      Leads (.generalize name) start reached

namespace Registry

/-- A later state of a registry: it has the same serial number, has issued more shapes and
remembers more steps. -/
structure Extends (registry later : Registry) : Prop where
  /-- Both are the same registry. -/
  serial : later.serial = registry.serial
  /-- The shapes issued before keep their places. -/
  shapes : registry.shapes <+: later.shapes
  /-- The steps taken before are still remembered. -/
  memo : registry.memo <+: later.memo

/-- The shape to which remembered steps lead, one after the other, from the empty shape. -/
inductive Reaches (registry : Registry) : List Transition → Shape → Prop
  | root : Reaches registry [] registry.root
  | next {steps : List Transition} {start : Shape} {step : Transition} {reached : Reached} :
      Reaches registry steps start → registry.known? start step = some reached →
      Reaches registry (steps ++ [step]) reached.shape

/-- The invariant of a registry. -/
structure WellFormed (registry : Registry) : Prop where
  /-- A shape knows its registry and its place, and its layout is packed. -/
  issued : ∀ (index : Nat) (shape : Shape), registry.shapes[index]? = some shape →
    shape.registry = registry.serial ∧ shape.id = ⟨index⟩ ∧ shape.layout.Packed
  /-- Every remembered step leads from one issued shape to another. -/
  memo : ∀ entry ∈ registry.memo, entry.2.shape ∈ registry.shapes ∧
    ∃ start ∈ registry.shapes, start.id = entry.1.1 ∧ entry.1.2.Leads start entry.2
  /-- Behind the empty shape, one shape was issued for each remembered step. -/
  shapes : registry.shapes = registry.root :: registry.memo.map (·.2.shape)
  /-- Remembered steps lead to every issued shape. -/
  reached : ∀ shape ∈ registry.shapes, ∃ steps, registry.Reaches steps shape

/-- A step that was taken from a shape: the registry has at most gained a shape, and what was
reached is an issued shape to which the step leads. -/
structure Takes (registry : Registry) (start : Shape) (step : Transition) (later : Registry)
    (reached : Reached) : Prop where
  /-- All earlier shapes are still there. -/
  grown : registry.Extends later
  /-- The registry can be relied on as before. -/
  wellFormed : later.WellFormed
  /-- The shape that was reached is issued. -/
  issued : reached.shape ∈ later.shapes
  /-- The shape that was reached is the right one. -/
  leads : step.Leads start reached
  /-- The step is remembered from now on. -/
  known : later.known? start step = some reached
  /-- No other step is remembered that was not remembered before. -/
  memo : later.memo = registry.memo ∨ later.memo = registry.memo ++ [((start.id, step), reached)]

/-- A registry is a later state of itself. -/
theorem Extends.refl (registry : Registry) : registry.Extends registry :=
  ⟨rfl, List.prefix_rfl, List.prefix_rfl⟩

/-- Later than later is later. -/
theorem Extends.trans {first second third : Registry} (h : first.Extends second)
    (h' : second.Extends third) : first.Extends third :=
  ⟨h'.serial.trans h.serial, h.shapes.trans h'.shapes, h.memo.trans h'.memo⟩

/-- What is remembered stays remembered. -/
theorem Extends.known? {registry later : Registry} (h : registry.Extends later) {start : Shape}
    {step : Transition} {reached : Reached} (hknown : registry.known? start step = some reached) :
    later.known? start step = some reached := by
  obtain ⟨more, hmore⟩ := h.memo
  have hfirst : registry.memo.lookup (start.id, step) = some reached := hknown
  rw [Registry.known?, ← hmore, List.lookup_append, hfirst, Option.some_or]

/-- A registry keeps leading to the shapes to which it leads. -/
theorem Reaches.extends {registry later : Registry} {steps : List Transition} {shape : Shape}
    (h : registry.Reaches steps shape) (hgrown : registry.Extends later) :
    later.Reaches steps shape := by
  induction h with
  | root =>
    rw [Registry.root, ← hgrown.serial]
    exact .root
  | next _ hknown ih => exact .next ih (hgrown.known? hknown)

/-- A new registry has issued the empty shape only. -/
theorem wellFormed_new (serial : Nat) : (new serial).WellFormed where
  issued := by
    intro index shape hshape
    obtain ⟨hindex, rfl⟩ := List.getElem?_eq_some_iff.mp hshape
    have hzero : index = 0 := Nat.lt_one_iff.mp hindex
    subst hzero
    exact ⟨rfl, rfl, .empty⟩
  memo := by simp [new]
  shapes := rfl
  reached := by
    intro shape hshape
    obtain rfl : shape = (new serial).root := List.mem_singleton.mp hshape
    exact ⟨[], .root⟩

section Issued

variable {registry : Registry} {shape : Shape}

/-- The empty shape has been issued. -/
theorem WellFormed.root (h : registry.WellFormed) : registry.root ∈ registry.shapes := by
  rw [h.shapes]
  exact List.mem_cons_self

/-- The layout of an issued shape is packed. -/
theorem WellFormed.packed (h : registry.WellFormed) (hshape : shape ∈ registry.shapes) :
    shape.layout.Packed := by
  obtain ⟨index, hindex⟩ := List.mem_iff_getElem?.mp hshape
  exact (h.issued index shape hindex).2.2

/-- An issued shape carries the serial number of its registry. -/
theorem WellFormed.registry_eq (h : registry.WellFormed) (hshape : shape ∈ registry.shapes) :
    shape.registry = registry.serial := by
  obtain ⟨index, hindex⟩ := List.mem_iff_getElem?.mp hshape
  exact (h.issued index shape hindex).1

/-- Two issued shapes with the same number are one shape. -/
theorem WellFormed.eq_of_id_eq (h : registry.WellFormed) (hshape : shape ∈ registry.shapes)
    {other : Shape} (hother : other ∈ registry.shapes) (hid : shape.id = other.id) :
    shape = other := by
  obtain ⟨i, hi⟩ := List.mem_iff_getElem?.mp hshape
  obtain ⟨j, hj⟩ := List.mem_iff_getElem?.mp hother
  have hnumber : (⟨i⟩ : ShapeId) = ⟨j⟩ := by
    rw [← (h.issued i shape hi).2.1, hid, (h.issued j other hj).2.1]
  cases hnumber
  exact Option.some.inj (hi.symm.trans hj)

/-- Two issued shapes pass for one exactly if they are one. -/
theorem WellFormed.same_iff (h : registry.WellFormed) (hshape : shape ∈ registry.shapes)
    {other : Shape} (hother : other ∈ registry.shapes) :
    shape.same other = true ↔ shape = other := by
  constructor
  · intro hsame
    obtain ⟨_, hid⟩ := Bool.and_eq_true_iff.mp hsame
    exact h.eq_of_id_eq hshape hother (of_decide_eq_true hid)
  · rintro rfl
    simp [Shape.same]

end Issued

section Steps

variable {registry : Registry} {start : Shape} {step : Transition}

/-- Issuing a shape makes a registry a later state of itself. -/
theorem extends_issue (registry : Registry) (start : Shape) (step : Transition) (layout : Layout)
    (location : Location) : registry.Extends (registry.issue start step layout location).1 :=
  ⟨rfl, List.prefix_append _ _, List.prefix_append _ _⟩

/-- A step that was not remembered is remembered with the shape that is issued for it. -/
theorem known?_issue (hunknown : registry.known? start step = none) (layout : Layout)
    (location : Location) :
    (registry.issue start step layout location).1.known? start step =
      some (registry.issue start step layout location).2 := by
  have hfirst : registry.memo.lookup (start.id, step) = none := hunknown
  simp [known?, issue, List.lookup_append, hfirst]

/-- A registry stays well-formed when it issues a shape for a packed layout to which a new step
leads. -/
theorem wellFormed_issue (h : registry.WellFormed) (hstart : start ∈ registry.shapes)
    (hunknown : registry.known? start step = none) {layout : Layout} {location : Location}
    (hpacked : layout.Packed)
    (hleads : step.Leads start (registry.issue start step layout location).2) :
    (registry.issue start step layout location).1.WellFormed := by
  have hgrown := registry.extends_issue start step layout location
  have hnew : (registry.issue start step layout location).2.shape ∈
      (registry.issue start step layout location).1.shapes :=
    List.mem_append_right _ (List.mem_singleton.mpr rfl)
  refine ⟨?_, ?_, ?_, ?_⟩
  · intro index shape hshape
    by_cases hold : index < registry.shapes.length
    · refine h.issued index shape ?_
      rwa [← List.getElem?_append_left hold]
    · have hindex : index = registry.shapes.length := by
        have hlt := (List.getElem?_eq_some_iff.mp hshape).1
        simp only [issue, List.length_append, List.length_singleton] at hlt
        omega
      subst hindex
      have hshape' : some (registry.issue start step layout location).2.shape = some shape := by
        rw [← hshape]
        exact List.getElem?_concat_length.symm
      cases hshape'
      exact ⟨rfl, rfl, hpacked⟩
  · intro entry hentry
    rcases List.mem_append.mp hentry with hentry | hentry
    · obtain ⟨hreached, source, hsource, hid, hstep⟩ := h.memo entry hentry
      exact ⟨hgrown.shapes.subset hreached, source, hgrown.shapes.subset hsource, hid, hstep⟩
    · rw [List.mem_singleton] at hentry
      subst hentry
      exact ⟨hnew, start, hgrown.shapes.subset hstart, rfl, hleads⟩
  · simp only [issue, List.map_append, List.map_singleton, h.shapes]
    rfl
  · intro shape hshape
    rcases List.mem_append.mp hshape with hold | hissued
    · obtain ⟨steps, hsteps⟩ := h.reached shape hold
      exact ⟨steps, hsteps.extends hgrown⟩
    · obtain ⟨steps, hsteps⟩ := h.reached start hstart
      obtain rfl := List.mem_singleton.mp hissued
      exact ⟨steps ++ [step], (hsteps.extends hgrown).next (known?_issue hunknown _ _)⟩

/-- A new shape for a packed layout is issued by a step that leads to it. -/
theorem takes_issue (h : registry.WellFormed) (hstart : start ∈ registry.shapes)
    (hunknown : registry.known? start step = none) {layout : Layout} {location : Location}
    (hpacked : layout.Packed)
    (hleads : step.Leads start (registry.issue start step layout location).2) :
    registry.Takes start step (registry.issue start step layout location).1
      (registry.issue start step layout location).2 where
  grown := extends_issue _ _ _ _ _
  wellFormed := wellFormed_issue h hstart hunknown hpacked hleads
  issued := List.mem_append_right _ (List.mem_singleton.mpr rfl)
  leads := hleads
  known := known?_issue hunknown _ _
  memo := Or.inr rfl

/-- What is known of a step stands in the memo. -/
theorem mem_memo_of_known? {reached : Reached} (h : registry.known? start step = some reached) :
    ((start.id, step), reached) ∈ registry.memo := by
  obtain ⟨before, after, hmemo, _⟩ := List.lookup_eq_some_iff.mp h
  rw [hmemo]
  simp

/-- What was remembered of a step from an issued shape is right. -/
theorem takes_of_known (h : registry.WellFormed) (hstart : start ∈ registry.shapes)
    {reached : Reached} (hknown : registry.known? start step = some reached) :
    registry.Takes start step registry reached := by
  obtain ⟨hreached, source, hsource, hid, hleads⟩ := h.memo _ (mem_memo_of_known? hknown)
  have hsame : source = start := h.eq_of_id_eq hsource hstart hid
  exact ⟨.refl registry, h, hreached, hsame ▸ hleads, hknown, Or.inl rfl⟩

/-- Adding an attribute that an issued shape lacks takes the step that appends it. -/
theorem WellFormed.addAttribute_takes (h : registry.WellFormed) (hstart : start ∈ registry.shapes)
    {name : NameId} (hnew : start.location? name = none) (kind : Kind) :
    registry.Takes start (.add name kind) (registry.addAttribute start name kind).1
      (registry.addAttribute start name kind).2 := by
  rw [addAttribute, hnew]
  cases hknown : registry.known? start (.add name kind) with
  | some reached => exact takes_of_known h hstart hknown
  | none =>
    exact takes_issue h hstart hknown (.append kind (h.packed hstart) hnew)
      (.add hnew rfl (Layout.location?_append_self kind hnew))

/-- Generalizing an attribute that an issued shape has unboxed takes the step that boxes it. -/
theorem WellFormed.generalize_takes (h : registry.WellFormed) (hstart : start ∈ registry.shapes)
    {name : NameId} {current : Location} (hcurrent : start.location? name = some current)
    (hprimitive : current.kind ≠ .object) :
    registry.Takes start (.generalize name) (registry.generalize start name).1
      (registry.generalize start name).2 := by
  have hpacked := h.packed hstart
  rw [generalize, hcurrent]
  simp only [if_neg hprimitive]
  cases hknown : registry.known? start (.generalize name) with
  | some reached => exact takes_of_known h hstart hknown
  | none =>
    obtain ⟨boxed, hboxed, _⟩ := hpacked.location?_widen_self hcurrent
    refine takes_issue h hstart hknown (hpacked.widen name) (.generalize hcurrent hprimitive rfl ?_)
    change (start.layout.widen name).location? name =
      some (((start.layout.widen name).location? name).getD current)
    rw [hboxed]
    rfl

end Steps

end Registry

end ShapedObjects
