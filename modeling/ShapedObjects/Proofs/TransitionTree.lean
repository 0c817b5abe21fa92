import ShapedObjects.Proofs.Histories

/-!
# The tree of transitions

A registry is asked for steps from shapes that it has issued. Whatever it is asked for, its
remembered steps form a tree: the empty shape is the root, and every other shape was
reached by exactly one remembered step, which starts at a shape with a smaller number. What
was answered once is answered again, however much is asked for in between.
-/

namespace ShapedObjects

namespace Transition

/-- The attribute that a step is about. -/
def name : Transition → NameId
  | add name _ | generalize name => name

/-- What a step makes of a list of attributes and kinds: a new attribute comes last, and an unboxed
one becomes boxed where it stands. -/
inductive Changes : Transition → List (NameId × Kind) → List (NameId × Kind) → Prop
  | add {name : NameId} {kind : Kind} {kinds : List (NameId × Kind)} :
      name ∉ kinds.map Prod.fst → Changes (.add name kind) kinds (kinds ++ [(name, kind)])
  | generalize {name : NameId} {kind : Kind} {kinds : List (NameId × Kind)} :
      kinds.lookup name = some kind → kind.isPrimitive = true →
      Changes (.generalize name) kinds (assign kinds name .object)

/-- Where a step leads, the attributes and kinds are changed as the step says. -/
theorem Leads.changes {step : Transition} {start : Shape} {reached : Reached}
    (h : step.Leads start reached) (hpacked : start.layout.Packed) :
    step.Changes start.layout.kinds reached.shape.layout.kinds := by
  cases h with
  | add hnew hlayout _ =>
    rw [hlayout, Layout.kinds_append]
    exact .add (Layout.not_mem_kinds hnew)
  | @generalize _ _ name current hcurrent hprimitive hlayout _ =>
    have hkind := Layout.lookup_kinds_of_location? hcurrent
    rw [hlayout, hpacked.kinds_widen_eq_assign hcurrent]
    exact .generalize hkind (Kind.isPrimitive_iff.mpr hprimitive)

/-- The location that comes with a shape is the one of the step's attribute there. -/
theorem Leads.location_eq {step : Transition} {start : Shape} {reached : Reached}
    (h : step.Leads start reached) :
    reached.shape.location? step.name = some reached.location := by
  cases h with
  | add _ _ hlocation => exact hlocation
  | generalize _ _ _ hlocation => exact hlocation

end Transition

namespace Registry

/-- Asks for a step from a shape. -/
def ask (registry : Registry) (start : Shape) : Transition → Registry × Reached
  | .add name kind => registry.addAttribute start name kind
  | .generalize name => registry.generalize start name

/-- What a registry becomes by requests for steps from shapes that it has issued. -/
inductive Becomes (registry : Registry) : Registry → Prop
  | refl : Becomes registry registry
  | ask {later : Registry} {start : Shape} (step : Transition) :
      Becomes registry later → start ∈ later.shapes → Becomes registry (later.ask start step).1

/-- A registry of which every remembered step starts at a shape that was issued before the one that
it reached. -/
def Ordered (registry : Registry) : Prop :=
  ∀ entry ∈ registry.memo, entry.1.1.index < entry.2.shape.id.index

/-- What it is for the remembered steps of a registry to be a tree over its shapes. -/
structure IsTree (registry : Registry) : Prop where
  /-- The number of a shape is its position. -/
  numbered : ∀ (index : Nat) (shape : Shape), registry.shapes[index]? = some shape →
    shape.id = ⟨index⟩
  /-- The first shape is the empty one. -/
  root : registry.shapes[0]? = some ⟨registry.serial, ⟨0⟩, Layout.empty⟩
  /-- No step from a shape is remembered twice. -/
  keys : (registry.memo.map Prod.fst).Nodup
  /-- Every other shape was reached by exactly one remembered step. -/
  parent : ∀ shape ∈ registry.shapes, shape.id ≠ ⟨0⟩ →
    ∃! entry, entry ∈ registry.memo ∧ entry.2.shape = shape
  /-- There is one shape more than there are remembered steps. -/
  size : registry.size = 1 + registry.memo.length
  /-- A remembered step leads from an issued shape to one with a larger number, which differs as the
  step says and stores the step's attribute at the remembered location. -/
  edge : ∀ entry ∈ registry.memo, ∃ source, registry.shape? entry.1.1 = some source ∧
    registry.shape? entry.2.shape.id = some entry.2.shape ∧
    source.id.index < entry.2.shape.id.index ∧
    entry.1.2.Changes source.layout.kinds entry.2.shape.layout.kinds ∧
    entry.2.shape.location? entry.1.2.name = some entry.2.location

/-- What a registry answers to a request: at most one shape is new, all others are as before, and
the request has the same answer ever after. -/
structure Answers (registry : Registry) (start : Shape) (step : Transition) (grown : Registry)
    (reached : Reached) : Prop where
  /-- The shapes issued before stay what and where they are. -/
  kept : registry.shapes <+: grown.shapes
  /-- At most one shape is issued. -/
  size : grown.size ≤ registry.size + 1
  /-- The answer is an issued shape. -/
  issued : reached.shape ∈ grown.shapes
  /-- The location that comes with it is the one of the attribute there. -/
  located : reached.shape.location? step.name = some reached.location
  /-- The same request later gets the same answer and issues no shape. -/
  again : ∀ later, grown.Becomes later → later.ask start step = (later, reached)

variable {registry later : Registry} {start : Shape} {step : Transition} {reached : Reached}

section Requests

/-- Boxing an attribute that a shape lacks is adding it as a boxed one. -/
theorem generalize_of_absent {name : NameId} (habsent : start.location? name = none)
    (registry : Registry) :
    registry.generalize start name = registry.addAttribute start name .object := by
  rw [generalize, habsent]

/-- Boxing an attribute that is boxed already changes nothing. -/
theorem generalize_of_boxed {name : NameId} {current : Location}
    (hcurrent : start.location? name = some current) (hboxed : current.kind = .object)
    (registry : Registry) : registry.generalize start name = (registry, ⟨start, current⟩) := by
  simp only [generalize, hcurrent, if_pos hboxed]

/-- Adding an attribute that a shape has already changes nothing. -/
theorem addAttribute_of_location? {name : NameId} {current : Location}
    (hcurrent : start.location? name = some current) (registry : Registry) (kind : Kind) :
    registry.addAttribute start name kind = (registry, ⟨start, current⟩) := by
  rw [addAttribute, hcurrent]

/-- A new attribute is appended as it was before, if that step is remembered. -/
theorem addAttribute_of_known {name : NameId} {kind : Kind} (habsent : start.location? name = none)
    (hknown : registry.known? start (.add name kind) = some reached) :
    registry.addAttribute start name kind = (registry, reached) := by
  simp only [addAttribute, habsent, hknown]

/-- An attribute is boxed as it was before, if that step is remembered. -/
theorem generalize_of_known {name : NameId} {current : Location}
    (hcurrent : start.location? name = some current) (hprimitive : current.kind ≠ .object)
    (hknown : registry.known? start (.generalize name) = some reached) :
    registry.generalize start name = (registry, reached) := by
  simp only [generalize, hcurrent, if_neg hprimitive, hknown]

/-- A request either finds the attribute as it is to be, or takes a step for that attribute. Once
the step is remembered, the request only looks it up. -/
theorem WellFormed.ask_cases (h : registry.WellFormed) (hstart : start ∈ registry.shapes)
    (step : Transition) :
    (∃ current, start.location? step.name = some current ∧
      ∀ other : Registry, other.ask start step = (other, ⟨start, current⟩)) ∨
    ∃ taken, taken.name = step.name ∧
      registry.Takes start taken (registry.ask start step).1 (registry.ask start step).2 ∧
      ∀ (other : Registry) (reached : Reached), other.known? start taken = some reached →
        other.ask start step = (other, reached) := by
  cases step with
  | add name kind =>
    cases hlocation : start.location? name with
    | some current =>
      exact Or.inl ⟨current, hlocation, fun other => addAttribute_of_location? hlocation other kind⟩
    | none =>
      exact Or.inr ⟨.add name kind, rfl, h.addAttribute_takes hstart hlocation kind,
        fun _ _ => addAttribute_of_known hlocation⟩
  | generalize name =>
    cases hlocation : start.location? name with
    | none =>
      have htakes := h.addAttribute_takes hstart hlocation .object
      rw [← generalize_of_absent hlocation] at htakes
      refine Or.inr ⟨.add name .object, rfl, htakes, fun other reached hknown => ?_⟩
      exact (generalize_of_absent hlocation other).trans (addAttribute_of_known hlocation hknown)
    | some current =>
      by_cases hboxed : current.kind = .object
      · exact Or.inl ⟨current, hlocation, generalize_of_boxed hlocation hboxed⟩
      · exact Or.inr ⟨.generalize name, rfl, h.generalize_takes hstart hlocation hboxed,
          fun _ _ => generalize_of_known hlocation hboxed⟩

end Requests

section Order

/-- The number of an issued shape is below the number of shapes. -/
theorem WellFormed.index_lt (h : registry.WellFormed) {shape : Shape}
    (hshape : shape ∈ registry.shapes) : shape.id.index < registry.shapes.length := by
  obtain ⟨index, hindex⟩ := List.mem_iff_getElem?.mp hshape
  rw [(h.issued index shape hindex).2.1]
  exact (List.getElem?_eq_some_iff.mp hindex).1

/-- An issued shape is found by its number. -/
theorem WellFormed.shape?_id (h : registry.WellFormed) {shape : Shape}
    (hshape : shape ∈ registry.shapes) : registry.shape? shape.id = some shape := by
  obtain ⟨index, hindex⟩ := List.mem_iff_getElem?.mp hshape
  rw [shape?, (h.issued index shape hindex).2.1]
  exact hindex

/-- A step that was taken either is remembered already, with all shapes as they were, or is
remembered from now on with a shape behind all others. -/
theorem Takes.shapes_cases (h : registry.Takes start step later reached)
    (hregistry : registry.WellFormed) :
    later.memo = registry.memo ∧ later.shapes = registry.shapes ∨
      later.memo = registry.memo ++ [((start.id, step), reached)] ∧
        later.shapes = registry.shapes ++ [reached.shape] := by
  have hroot : later.root = registry.root := by rw [root, root, h.grown.serial]
  rcases h.memo with hmemo | hmemo
  · left
    rw [h.wellFormed.shapes, hmemo, hroot, ← hregistry.shapes]
    exact ⟨rfl, rfl⟩
  · right
    rw [h.wellFormed.shapes, hmemo, hroot, List.map_append, ← List.cons_append, ← hregistry.shapes]
    exact ⟨rfl, rfl⟩

/-- A step leads on to larger numbers, since the shape that it reaches is issued after the one at
which it starts. -/
theorem Takes.ordered (h : registry.Takes start step later reached)
    (hregistry : registry.WellFormed) (hstart : start ∈ registry.shapes)
    (hordered : registry.Ordered) : later.Ordered := by
  rcases h.shapes_cases hregistry with ⟨hmemo, _⟩ | ⟨hmemo, hshapes⟩
  · rw [Ordered, hmemo]
    exact hordered
  · intro entry hentry
    rw [hmemo] at hentry
    rcases List.mem_append.mp hentry with hold | hnew
    · exact hordered entry hold
    · obtain rfl := List.mem_singleton.mp hnew
      have hlast : later.shapes[registry.shapes.length]? = some reached.shape := by
        rw [hshapes]
        exact List.getElem?_concat_length
      rw [(h.wellFormed.issued _ _ hlast).2.1]
      exact hregistry.index_lt hstart

/-- A new registry remembers no step. -/
theorem ordered_new (serial : Nat) : (new serial).Ordered := by
  intro entry hentry
  cases hentry

/-- A request keeps all that there is, and keeps it in order. -/
theorem WellFormed.ask (h : registry.WellFormed) (hstart : start ∈ registry.shapes)
    (step : Transition) :
    registry.Extends (registry.ask start step).1 ∧ (registry.ask start step).1.WellFormed ∧
      (registry.Ordered → (registry.ask start step).1.Ordered) := by
  rcases h.ask_cases hstart step with ⟨current, _, hask⟩ | ⟨taken, _, htakes, _⟩
  · rw [hask]
    exact ⟨.refl registry, h, id⟩
  · exact ⟨htakes.grown, htakes.wellFormed, htakes.ordered h hstart⟩

/-- Requests keep all that there is, and keep it in order. -/
theorem Becomes.extends (hbecomes : registry.Becomes later) (h : registry.WellFormed) :
    registry.Extends later ∧ later.WellFormed ∧ (registry.Ordered → later.Ordered) := by
  induction hbecomes with
  | refl => exact ⟨.refl registry, h, id⟩
  | ask step _ hstart ih =>
    obtain ⟨hgrown, hlater, hordered⟩ := ih
    obtain ⟨hmore, hlast, hmoreOrdered⟩ := hlater.ask hstart step
    exact ⟨hgrown.trans hmore, hlast, fun hfirst => hmoreOrdered (hordered hfirst)⟩

/-- Whatever a new registry is asked for, it can be relied on. -/
theorem Becomes.wellFormed {serial : Nat} (h : (new serial).Becomes registry) :
    registry.WellFormed := by
  obtain ⟨_, hwell, _⟩ := h.extends (wellFormed_new serial)
  exact hwell

end Order

section Tree

/-- A remembered step is found when it is looked up: were another one found in its place, the shape
that it reached could not be reached from the empty shape. -/
theorem WellFormed.lookup_of_mem (h : registry.WellFormed)
    {entry : (ShapeId × Transition) × Reached} (hentry : entry ∈ registry.memo) :
    registry.memo.lookup entry.1 = some entry.2 := by
  obtain ⟨steps, hsteps⟩ := h.reached entry.2.shape (h.memo entry hentry).1
  generalize hshape : entry.2.shape = shape at hsteps
  cases hsteps with
  | root => exact absurd hshape (h.ne_root hentry)
  | @next _ start step reached _ hknown =>
    rw [h.eq_of_shape_eq hentry (mem_memo_of_known? hknown) hshape]
    exact hknown

/-- No step from a shape is remembered twice. -/
theorem WellFormed.nodup_keys (h : registry.WellFormed) : (registry.memo.map Prod.fst).Nodup := by
  have hnodup := h.nodup
  rw [h.shapes, List.nodup_cons] at hnodup
  refine List.Nodup.map_on ?_ (List.Nodup.of_map _ hnodup.2)
  intro first hfirst second hsecond heq
  have hfound := h.lookup_of_mem hfirst
  rw [heq, h.lookup_of_mem hsecond] at hfound
  exact Prod.ext heq (Option.some.inj hfound).symm

/-- All shapes but the empty one were reached by exactly one remembered step. -/
theorem WellFormed.exists_unique_parent (h : registry.WellFormed) {shape : Shape}
    (hshape : shape ∈ registry.shapes) (hid : shape.id ≠ ⟨0⟩) :
    ∃! entry, entry ∈ registry.memo ∧ entry.2.shape = shape := by
  rw [h.shapes] at hshape
  rcases List.mem_cons.mp hshape with rfl | hreached
  · exact absurd rfl hid
  · obtain ⟨entry, hentry, heq⟩ := List.mem_map.mp hreached
    refine ⟨entry, ⟨hentry, heq⟩, ?_⟩
    rintro other ⟨hother, hother'⟩
    exact h.eq_of_shape_eq hother hentry (hother'.trans heq.symm)

/-- The remembered steps of a registry that can be relied on form a tree, if they lead to larger
numbers. -/
theorem WellFormed.isTree (h : registry.WellFormed) (hordered : registry.Ordered) :
    registry.IsTree where
  numbered := fun index shape hshape => (h.issued index shape hshape).2.1
  root := by
    rw [h.shapes]
    rfl
  keys := h.nodup_keys
  parent := fun shape hshape hid => h.exists_unique_parent hshape hid
  size := by
    rw [size, h.shapes, List.length_cons, List.length_map, Nat.add_comm]
  edge := by
    intro entry hentry
    obtain ⟨hreached, source, hsource, hid, hleads⟩ := h.memo entry hentry
    refine ⟨source, hid ▸ h.shape?_id hsource, h.shape?_id hreached, ?_,
      hleads.changes (h.packed hsource), hleads.location_eq⟩
    rw [hid]
    exact hordered entry hentry

/-- A request is answered as it should be. -/
theorem WellFormed.answers (h : registry.WellFormed) (hstart : start ∈ registry.shapes)
    (step : Transition) :
    registry.Answers start step (registry.ask start step).1 (registry.ask start step).2 := by
  rcases h.ask_cases hstart step with ⟨current, hcurrent, hask⟩ | ⟨taken, hname, htakes, hagain⟩
  · rw [hask]
    exact ⟨List.prefix_rfl, Nat.le_succ _, hstart, hcurrent, fun later _ => hask later⟩
  · refine ⟨htakes.grown.shapes, ?_, htakes.issued, hname ▸ htakes.leads.location_eq, ?_⟩
    · rcases htakes.shapes_cases h with ⟨_, hshapes⟩ | ⟨_, hshapes⟩
      · rw [size, hshapes]
        exact Nat.le_succ _
      · rw [size, hshapes, List.length_append]
        exact Nat.le_refl _
    · intro later hlater
      obtain ⟨hgrown, _, _⟩ := hlater.extends htakes.wellFormed
      exact hagain later _ (hgrown.known? htakes.known)

/-- Whatever a registry is asked for, its remembered steps form a tree over its shapes, and every
request is answered once and for all. -/
theorem transition_tree {serial : Nat} (h : (new serial).Becomes registry) :
    registry.IsTree ∧
      ∀ start ∈ registry.shapes, ∀ step,
        registry.Answers start step (registry.ask start step).1 (registry.ask start step).2 := by
  obtain ⟨_, hwell, hordered⟩ := h.extends (wellFormed_new serial)
  exact ⟨hwell.isTree (hordered (ordered_new serial)), fun _ hstart step =>
    hwell.answers hstart step⟩

/-- An integer attribute is added and then boxed. The boxed layout was reached by one remembered
step, and adding the attribute again finds the shape in between. -/
theorem transition_tree_sample :
    let start : Shape := ⟨0, ⟨1⟩, Layout.empty.append ⟨0⟩ .int⟩
    let boxed : Shape := ⟨0, ⟨2⟩, Layout.empty.append ⟨0⟩ .object⟩
    let registry := (((new 0).ask (new 0).root (.add ⟨0⟩ .int)).1.ask start (.generalize ⟨0⟩)).1
    registry.shapes = [(new 0).root, start, boxed] ∧
      (∃! entry, entry ∈ registry.memo ∧ entry.2.shape = boxed) ∧
      registry.ask (new 0).root (.add ⟨0⟩ .int) = (registry, ⟨start, ⟨.int, 0⟩⟩) := by
  intro start boxed registry
  have hroot : (new 0).root ∈ (new 0).shapes := by decide
  have hstart : start ∈ ((new 0).ask (new 0).root (.add ⟨0⟩ .int)).1.shapes := by decide
  have hfirst := Becomes.ask (.add ⟨0⟩ .int) .refl hroot
  have hsecond := Becomes.ask (.generalize ⟨0⟩) .refl hstart
  have hshapes : registry.shapes = [(new 0).root, start, boxed] := by decide
  have hboxed : boxed ∈ registry.shapes := by decide
  obtain ⟨htree, _⟩ := transition_tree (hfirst.ask (.generalize ⟨0⟩) hstart)
  obtain ⟨_, hanswers⟩ := transition_tree (@Becomes.refl (new 0))
  exact ⟨hshapes, htree.parent boxed hboxed (by decide),
    (hanswers _ hroot _).again registry hsecond⟩

end Tree

end Registry

end ShapedObjects
