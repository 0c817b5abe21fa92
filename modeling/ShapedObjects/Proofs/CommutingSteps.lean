import ShapedObjects.Proofs.Extension
import ShapedObjects.Proofs.Migration

/-!
# Steps in either order

A step assigns a kind to one attribute in the list of kinds, and assignments to different
attributes commute if one of the attributes is there from the start. The list of kinds makes the
layout, so two orders of the same steps lead to equal layouts, although one may have numbered
the slots afresh where the other only counted on. An object that is taken along the steps keeps
its attributes and has unset values in the new ones. Since its slots are dense, nothing else is
left in which the two orders could differ.
-/

namespace ShapedObjects

namespace Transition

/-- What a step makes of a list of kinds. -/
def update (step : Transition) (kinds : List (NameId × Kind)) : List (NameId × Kind) :=
  assign kinds step.name step.kind

/-- A step from attributes of which it adds a new one or boxes one that is there, boxed or not. -/
def Allowed : Transition → List (NameId × Kind) → Prop
  | add name _, kinds => kinds.lookup name = none
  | generalize name, kinds => ∃ kind, kinds.lookup name = some kind

/-- Steps that are allowed one after the other. -/
def AllAllowed : List Transition → List (NameId × Kind) → Prop
  | [], _ => True
  | step :: steps, kinds => step.Allowed kinds ∧ AllAllowed steps (step.update kinds)

/-- A step leaves the kinds of all attributes but its own. -/
theorem lookup_update_of_ne {step : Transition} {kinds : List (NameId × Kind)} {other : NameId}
    (hne : other ≠ step.name) : (step.update kinds).lookup other = kinds.lookup other :=
  lookup_assign_of_ne _ _ _ hne

/-- The value with which a step fills an attribute. -/
def fill : Transition → NameId → Option Value
  | add added kind, name => if name = added then some kind.unset else none
  | generalize _, _ => none

end Transition

namespace Object

/-- Takes an object to the shape behind a step. It grows in place for a new attribute, and is copied
slot by slot for a boxed one. -/
def move (object : Object) (shape : Shape) : Transition → Except Fault Object
  | .add _ _ => .ok (object.extend shape)
  | .generalize _ => object.migrate shape

/-- What becomes of an object that is taken along some steps to a shape. -/
structure Arrives (object : Object) (steps : List Transition) (shape : Shape) (moved : Object) :
    Prop where
  /-- It is on that shape. -/
  shape : moved.shape = shape
  /-- It has the slots that the shape declares. -/
  sized : moved.Sized
  /-- Its boolean words are 0 or 1 if they were so before, or if it was copied. -/
  wellFormed : object.WellFormed ∨ (∃ name, .generalize name ∈ steps) → moved.WellFormed
  /-- It keeps its attributes, and has the first value that a step gave to each new one. -/
  contents : ∀ name, moved.contents.lookup name =
    (object.contents.lookup name).or (steps.findSome? fun step => step.fill name)

variable {object moved last : Object} {shape further : Shape} {step : Transition}
  {steps : List Transition}

/-- Without a step an object is what it was. -/
theorem Sized.arrives_nil (h : object.Sized) : object.Arrives [] object.shape object where
  shape := rfl
  sized := h
  wellFormed := by
    rintro (hwell | ⟨_, hname⟩)
    · exact hwell
    · cases hname
  contents := by
    intro name
    rw [List.findSome?_nil, Option.or_none]

/-- An object that is taken along one step may be taken along further ones. -/
theorem Arrives.trans (h : object.Arrives [step] shape moved)
    (h' : moved.Arrives steps further last) : object.Arrives (step :: steps) further last where
  shape := h'.shape
  sized := h'.sized
  wellFormed := by
    rintro (hwell | ⟨name, hname⟩)
    · exact h'.wellFormed (Or.inl (h.wellFormed (Or.inl hwell)))
    · rcases List.mem_cons.mp hname with heq | hrest
      · apply h'.wellFormed
        exact Or.inl (h.wellFormed (Or.inr ⟨name, by simp [heq]⟩))
      · exact h'.wellFormed (Or.inr ⟨name, hrest⟩)
  contents := by
    intro name
    rw [h'.contents, h.contents, Option.or_assoc, List.findSome?_cons, List.findSome?_cons]
    cases step.fill name with
    | none => rfl
    | some value => rfl

/-- An object that grows in place for a new attribute keeps the others, and has the unset value in
the new one. -/
theorem Sized.arrives_extend (h : object.Sized) {name : NameId} {kind : Kind}
    (habsent : object.shape.location? name = none)
    (hlayout : shape.layout = object.shape.layout.append name kind) :
    object.Arrives [.add name kind] shape (object.extend shape) := by
  have hpacked : shape.layout.Packed := hlayout ▸ .append kind h.packed habsent
  have hkept : object.shape.layout.KeptBy shape.layout :=
    hlayout ▸ object.shape.layout.keptBy_append name kind
  refine ⟨rfl, object.sized_extend hpacked, ?_, ?_⟩
  · rintro (hwell | ⟨_, hboxed⟩)
    · exact hwell.extend_append hlayout hpacked
    · simp at hboxed
  · intro other
    rw [h.lookup_extend hpacked hkept, lookup_contents, List.findSome?_singleton]
    cases hlocation : object.shape.location? other with
    | some location => rfl
    | none =>
      -- What the object lacks has a slot on the new shape only if it is the new attribute.
      change ((shape.location? other).map fun location => location.kind.unset) =
        Transition.fill (.add name kind) other
      rw [Transition.fill, Shape.location?, hlayout]
      by_cases hname : other = name
      · rw [if_pos hname, hname, Layout.location?_append_self kind habsent]
        rfl
      · have hold : object.shape.layout.location? other = none := hlocation
        rw [if_neg hname, Layout.location?_append_of_ne kind hname, hold]
        rfl

/-- An object of which one attribute is boxed keeps all attributes. -/
theorem Sized.arrives_migrate (h : object.Sized) {name : NameId}
    (hmem : name ∈ object.shape.layout.kinds.map Prod.fst) (hpacked : shape.layout.Packed)
    (hkinds : shape.layout.kinds = assign object.shape.layout.kinds name .object) :
    ∃ moved, object.migrate shape = .ok moved ∧
      object.Arrives [.generalize name] shape moved := by
  obtain ⟨moved, hmigrate, hshape, hmoved, hcontents⟩ :=
    h.migrate_wider hpacked (h.packed.widensTo hmem hkinds)
  refine ⟨moved, hmigrate, hshape, hmoved.toSized, fun _ => hmoved, fun other => ?_⟩
  rw [hcontents, List.findSome?_singleton, Transition.fill, Option.or_none]

end Object

namespace Registry

/-- Takes steps one after the other, each from the shape that the one before reached. -/
def walk (registry : Registry) (start : Shape) : List Transition → Registry × Shape
  | [] => (registry, start)
  | step :: steps =>
    (registry.ask start step).1.walk (registry.ask start step).2.shape steps

/-- Takes steps one after the other from the shape of an object, and the object along. -/
def carry (registry : Registry) (object : Object) :
    List Transition → Except Fault (Registry × Object)
  | [] => .ok (registry, object)
  | step :: steps => do
    let moved ← object.move (registry.ask object.shape step).2.shape step
    (registry.ask object.shape step).1.carry moved steps

/-- Two lists of steps, taken in two registries from one shape, come to the same there: the layouts
behind them are equal, and an object that has the slots which the shape declares, whatever they
hold, has the same words and the same boxed slots after either list. -/
structure SameEnd (first second : Registry) (start : Shape) (steps others : List Transition) :
    Prop where
  /-- The shapes that are reached have the same slots for the same attributes. -/
  layout : (first.walk start steps).2.layout = (second.walk start others).2.layout
  /-- An object is taken to these shapes, and its storage is the same on both. -/
  storage : ∀ object : Object, object.shape = start →
    object.words.length = start.layout.primitiveCount →
    object.slots.length = start.layout.objectCount →
    ∃ moved moved',
      first.carry object steps = .ok ((first.walk start steps).1, moved) ∧
      second.carry object others = .ok ((second.walk start others).1, moved') ∧
      moved.shape = (first.walk start steps).2 ∧ moved'.shape = (second.walk start others).2 ∧
      moved.words = moved'.words ∧ moved.slots = moved'.slots

variable {registry : Registry} {start : Shape} {step : Transition} {steps others : List Transition}

/-- A step that is allowed changes the list of kinds as it says, whether it issues a shape, is
remembered, or finds its attribute boxed already. -/
theorem WellFormed.kinds_ask (h : registry.WellFormed) (hstart : start ∈ registry.shapes)
    (hallowed : step.Allowed start.layout.kinds) :
    (registry.ask start step).2.shape.layout.kinds = step.update start.layout.kinds := by
  cases step with
  | add name kind =>
    have habsent : start.location? name = none := Layout.lookup_kinds_eq_none_iff.mp hallowed
    have htakes := h.addAttribute_takes hstart habsent kind
    rw [Registry.ask, htakes.leads.layout_eq, Transition.apply, Layout.kinds_append]
    exact (assign_of_not_mem _ _ _ (Layout.not_mem_kinds habsent)).symm
  | generalize name =>
    obtain ⟨kind, hkind⟩ := hallowed
    obtain ⟨current, hcurrent, hsame⟩ := Layout.lookup_kinds_eq_some_iff.mp hkind
    by_cases hboxed : current.kind = .object
    · rw [Registry.ask, generalize_of_boxed hcurrent hboxed]
      rw [← hsame, hboxed] at hkind
      exact (assign_eq_self _ _ _ hkind).symm
    · have htakes := h.generalize_takes hstart hcurrent hboxed
      rw [Registry.ask, htakes.leads.layout_eq, Transition.apply]
      exact (h.packed hstart).kinds_widen_eq_assign hcurrent

/-- An object on the shape at which a step starts is taken to the one that the step reaches. -/
theorem WellFormed.exists_move (h : registry.WellFormed) (hstart : start ∈ registry.shapes)
    (hallowed : step.Allowed start.layout.kinds) {object : Object} (hobject : object.Sized)
    (hshape : object.shape = start) :
    ∃ moved, object.move (registry.ask start step).2.shape step = .ok moved ∧
      object.Arrives [step] (registry.ask start step).2.shape moved := by
  obtain ⟨_, hgrown, _⟩ := h.ask hstart step
  have hpacked := hgrown.packed (h.answers hstart step).issued
  have hkinds := h.kinds_ask hstart hallowed
  subst hshape
  cases step with
  | add name kind =>
    have habsent : object.shape.location? name = none :=
      Layout.lookup_kinds_eq_none_iff.mp hallowed
    have htakes := h.addAttribute_takes hstart habsent kind
    exact ⟨_, rfl, hobject.arrives_extend habsent htakes.leads.layout_eq⟩
  | generalize name =>
    obtain ⟨kind, hkind⟩ := hallowed
    exact hobject.arrives_migrate (mem_map_fst_of_lookup hkind) hpacked hkinds

/-- Steps that are allowed one after the other assign their kinds one after the other. -/
theorem WellFormed.kinds_walk (h : registry.WellFormed) (hstart : start ∈ registry.shapes)
    (hallowed : Transition.AllAllowed steps start.layout.kinds) :
    (registry.walk start steps).1.WellFormed ∧
      (registry.walk start steps).2 ∈ (registry.walk start steps).1.shapes ∧
      (registry.walk start steps).2.layout.kinds =
        steps.foldl (fun kinds step => step.update kinds) start.layout.kinds := by
  induction steps generalizing registry start with
  | nil => exact ⟨h, hstart, rfl⟩
  | cons step steps ih =>
    obtain ⟨hfirst, hrest⟩ := hallowed
    obtain ⟨_, hgrown, _⟩ := h.ask hstart step
    have hreached := (h.answers hstart step).issued
    have hkinds := h.kinds_ask hstart hfirst
    rw [← hkinds] at hrest
    rw [walk, List.foldl_cons, ← hkinds]
    exact ih hgrown hreached hrest

/-- An object is taken along steps that are allowed one after the other. -/
theorem WellFormed.exists_carry (h : registry.WellFormed) (hstart : start ∈ registry.shapes)
    (hallowed : Transition.AllAllowed steps start.layout.kinds) {object : Object}
    (hobject : object.Sized) (hshape : object.shape = start) :
    ∃ moved, registry.carry object steps = .ok ((registry.walk start steps).1, moved) ∧
      object.Arrives steps (registry.walk start steps).2 moved := by
  induction steps generalizing registry start object with
  | nil => exact ⟨object, rfl, hshape ▸ hobject.arrives_nil⟩
  | cons step steps ih =>
    obtain ⟨hfirst, hrest⟩ := hallowed
    obtain ⟨_, hgrown, _⟩ := h.ask hstart step
    have hreached := (h.answers hstart step).issued
    rw [← h.kinds_ask hstart hfirst] at hrest
    obtain ⟨moved, hmove, hmoved⟩ := h.exists_move hstart hfirst hobject hshape
    obtain ⟨last, hcarry, hlast⟩ := ih hgrown hreached hrest hmoved.sized hmoved.shape
    refine ⟨last, ?_, hmoved.trans hlast⟩
    rw [carry, hshape, hmove]
    exact hcarry

/-- Two lists of steps come to the same if they assign the same kinds and fill new attributes with
the same values. Both have to copy the object at least once, which brings its boolean words into
their normal form. -/
theorem WellFormed.sameEnd {first second : Registry} (hfirst : first.WellFormed)
    (hsecond : second.WellFormed) (hstart : start ∈ first.shapes) (hstart' : start ∈ second.shapes)
    (hallowed : Transition.AllAllowed steps start.layout.kinds)
    (hallowed' : Transition.AllAllowed others start.layout.kinds)
    (hkinds : steps.foldl (fun kinds step => step.update kinds) start.layout.kinds =
      others.foldl (fun kinds step => step.update kinds) start.layout.kinds)
    (hfills : ∀ name, (steps.findSome? fun step => step.fill name) =
      others.findSome? fun step => step.fill name)
    (hcopied : ∃ name, .generalize name ∈ steps) (hcopied' : ∃ name, .generalize name ∈ others) :
    SameEnd first second start steps others := by
  obtain ⟨hwalk, hend, hends⟩ := hfirst.kinds_walk hstart hallowed
  obtain ⟨hwalk', hend', hends'⟩ := hsecond.kinds_walk hstart' hallowed'
  have hlayout : (first.walk start steps).2.layout = (second.walk start others).2.layout := by
    rw [(hwalk.packed hend).eq_ofKinds, hends, hkinds, ← hends',
      ← (hwalk'.packed hend').eq_ofKinds]
  refine ⟨hlayout, fun object hshape hwords hslots => ?_⟩
  subst hshape
  have hobject : object.Sized := ⟨hfirst.packed hstart, hwords, hslots⟩
  obtain ⟨moved, hcarry, hmoved⟩ := hfirst.exists_carry hstart hallowed hobject rfl
  obtain ⟨moved', hcarry', hmoved'⟩ := hsecond.exists_carry hstart' hallowed' hobject rfl
  obtain ⟨hsame, hsame'⟩ := (hmoved.wellFormed (Or.inr hcopied)).storage_eq_of_lookup_eq
    (hmoved'.wellFormed (Or.inr hcopied')) (by rw [hmoved.shape, hmoved'.shape, hlayout])
    (fun name => by rw [hmoved.contents, hmoved'.contents, hfills])
  exact ⟨moved, moved', hcarry, hcarry', hmoved.shape, hmoved'.shape, hsame, hsame'⟩

/-- In every registry that was asked for whatever before, boxing two attributes of a shape in either
order comes to the same, and so does adding an attribute before or after boxing another one. Both
orders may be tried one after the other in the same registry, or in two that went on differently.
Boxing an attribute that is boxed already leaves the shape and the registry as they are. -/
theorem steps_commute {serial : Nat} {first second : Registry} (h : (new serial).Becomes registry)
    (hstart : start ∈ registry.shapes) (hfirst : registry.Becomes first)
    (hsecond : registry.Becomes second) :
    (∀ name other location location', name ≠ other → start.location? name = some location →
      start.location? other = some location' →
      SameEnd first second start [.generalize name, .generalize other]
        [.generalize other, .generalize name]) ∧
    (∀ added kind name location, start.location? added = none →
      start.location? name = some location →
      SameEnd first second start [.add added kind, .generalize name]
        [.generalize name, .add added kind]) ∧
    ∀ name location, start.location? name = some location → location.kind = .object →
      registry.ask start (.generalize name) = (registry, ⟨start, location⟩) := by
  obtain ⟨hgrown, hwell₁, _⟩ := hfirst.extends h.wellFormed
  obtain ⟨hgrown', hwell₂, _⟩ := hsecond.extends h.wellFormed
  have hstart₁ := hgrown.shapes.subset hstart
  have hstart₂ := hgrown'.shapes.subset hstart
  refine ⟨?_, ?_, ?_⟩
  · intro name other location location' hne hlocation hlocation'
    have hkind := Layout.lookup_kinds_of_location? hlocation
    have hkind' := Layout.lookup_kinds_of_location? hlocation'
    apply hwell₁.sameEnd hwell₂ hstart₁ hstart₂
    · exact ⟨⟨_, hkind⟩, ⟨_, (Transition.lookup_update_of_ne hne.symm).trans hkind'⟩, trivial⟩
    · exact ⟨⟨_, hkind'⟩, ⟨_, (Transition.lookup_update_of_ne hne).trans hkind⟩, trivial⟩
    · exact assign_comm _ hne (mem_map_fst_of_lookup hkind) _ _
    · intro _
      rfl
    · exact ⟨name, by simp⟩
    · exact ⟨name, by simp⟩
  · intro added kind name location habsent hlocation
    have hkind := Layout.lookup_kinds_of_location? hlocation
    have hnone : start.layout.kinds.lookup added = none :=
      Layout.lookup_kinds_eq_none_iff.mpr habsent
    have hne : name ≠ added := by
      rintro rfl
      cases hkind.symm.trans hnone
    apply hwell₁.sameEnd hwell₂ hstart₁ hstart₂
    · exact ⟨hnone, ⟨_, (Transition.lookup_update_of_ne hne).trans hkind⟩, trivial⟩
    · exact ⟨⟨_, hkind⟩, (Transition.lookup_update_of_ne hne.symm).trans hnone, trivial⟩
    · exact (assign_comm _ hne (mem_map_fst_of_lookup hkind) _ _).symm
    · intro other
      simp only [List.findSome?_cons, Transition.fill]
    · exact ⟨name, by simp⟩
    · exact ⟨name, by simp⟩
  · intro name location hlocation hboxed
    exact generalize_of_boxed hlocation hboxed registry

/-- A boolean and a float attribute are boxed in either order, the second time in a registry that
boxed the float before. The boolean word 7 counts as true both ways. An integer attribute that is
added before or after the boxing comes out as zero. -/
theorem steps_commute_boolean_word :
    let registry := (new 0).asks [(⟨0⟩, .add ⟨0⟩ .boolean), (⟨1⟩, .add ⟨1⟩ .float)]
    let later := registry.asks [(⟨2⟩, .generalize ⟨1⟩)]
    let start : Shape := ⟨0, ⟨2⟩, Layout.ofKinds [(⟨0⟩, .boolean), (⟨1⟩, .float)]⟩
    SameEnd registry later start [.generalize ⟨0⟩, .generalize ⟨1⟩]
        [.generalize ⟨1⟩, .generalize ⟨0⟩] ∧
      SameEnd registry later start [.add ⟨2⟩ .int, .generalize ⟨0⟩]
        [.generalize ⟨0⟩, .add ⟨2⟩ .int] ∧
      (later.carry ⟨start, [7, 5], []⟩ [.generalize ⟨1⟩, .generalize ⟨0⟩]).toOption.map
        (·.2.slots) = some [.bool true, .float ⟨5⟩] ∧
      (later.carry ⟨start, [7, 5], []⟩ [.generalize ⟨0⟩, .add ⟨2⟩ .int]).toOption.map
        (·.2.words) = some [5, 0] := by
  intro registry later start
  have hbecomes : (new 0).Becomes registry := Becomes.refl.asks _
  have hlater : registry.Becomes later := Becomes.refl.asks _
  have hstart : start ∈ registry.shapes := by decide
  obtain ⟨hboxings, hadding, _⟩ := steps_commute hbecomes hstart .refl hlater
  refine ⟨?_, ?_, by rfl, by rfl⟩
  · exact hboxings ⟨0⟩ ⟨1⟩ ⟨.boolean, 0⟩ ⟨.float, 1⟩ (by decide) (by decide) (by decide)
  · exact hadding ⟨2⟩ .int ⟨0⟩ ⟨.boolean, 0⟩ (by decide) (by decide)

end Registry

end ShapedObjects
