import Mathlib.Data.List.Perm.Subperm
import ShapedObjects.Proofs.Loading
import ShapedObjects.Proofs.Sharing

/-!
# What the numbers of shapes have no part in

The numbers of shapes depend on the order in which a registry issued them, the histories
of shapes do not. Two registries that know the same histories differ in the numbers only.
This file shows that what a call answers, which step it asks the registry for and what it
leaves of its site and its object follow from the history and the contents of the object,
and so come out the same on two spaces whose registries have issued different shapes in
between.
-/

namespace ShapedObjects

namespace Registry

variable {registry later first second : Registry} {start : Shape} {step : Transition}
  {steps others : List Transition} {reached : Reached}

/-- A history is known if remembered steps lead along it. -/
def Knows (registry : Registry) (steps : List Transition) : Prop :=
  ∃ shape, registry.Reaches steps shape

/-- A step that was taken makes one history known. -/
theorem Takes.knows_iff (h : registry.Takes start step later reached)
    (hregistry : registry.WellFormed) (hstart : registry.Reaches steps start) :
    later.Knows others ↔ registry.Knows others ∨ others = steps ++ [step] := by
  constructor
  · rintro ⟨shape, hshape⟩
    rcases (h.reaches_iff hregistry hstart).mp hshape with hold | ⟨heq, _⟩
    · exact Or.inl ⟨shape, hold⟩
    · exact Or.inr heq
  · rintro (⟨shape, hold⟩ | rfl)
    · exact ⟨shape, hold.extends h.grown⟩
    · exact ⟨_, h.reaches hstart⟩

/-- The shapes of a registry can be renamed into those of a registry that knows all its
histories. -/
theorem WellFormed.exists_rename (h : first.WellFormed) (h' : second.WellFormed)
    (hknows : ∀ steps, first.Knows steps → second.Knows steps) :
    ∃ rename : Shape → Shape, (first.shapes.map rename).Subperm second.shapes ∧
      ∀ steps shape, first.Reaches steps shape → second.Reaches steps (rename shape) := by
  have htarget : ∀ shape ∈ first.shapes, ∃ other steps,
      first.Reaches steps shape ∧ second.Reaches steps other := by
    intro shape hshape
    obtain ⟨steps, hsteps⟩ := h.reached shape hshape
    obtain ⟨other, hother⟩ := hknows steps ⟨shape, hsteps⟩
    exact ⟨other, steps, hsteps, hother⟩
  have : Nonempty Shape := ⟨first.root⟩
  choose! rename hrename using htarget
  have hreaches : ∀ steps shape, first.Reaches steps shape →
      second.Reaches steps (rename shape) := by
    intro steps shape hsteps
    obtain ⟨steps', hsteps', hother⟩ := hrename shape (hsteps.issued h)
    rwa [hsteps.steps_unique hsteps' h]
  refine ⟨rename, List.subperm_of_subset ?_ ?_, hreaches⟩
  · refine List.Nodup.map_on ?_ h.nodup
    intro shape hshape other hother heq
    obtain ⟨steps, hsteps, hleft⟩ := hrename shape hshape
    obtain ⟨steps', hsteps', hright⟩ := hrename other hother
    rw [heq] at hleft
    obtain rfl := hleft.steps_unique hright h'
    exact hsteps.shape_unique hsteps'
  · intro other hother
    obtain ⟨shape, hshape, rfl⟩ := List.mem_map.mp hother
    obtain ⟨steps, hsteps⟩ := h.reached shape hshape
    exact (hreaches steps shape hsteps).issued h'

/-- Registries that know the same histories are the same but for the numbers of their shapes. -/
theorem WellFormed.renumbered (h : first.WellFormed) (h' : second.WellFormed)
    (hknows : ∀ steps, first.Knows steps ↔ second.Knows steps) :
    ∃ rename : Shape → Shape, (first.shapes.map rename).Perm second.shapes ∧
      ∀ steps shape, first.Reaches steps shape → second.Reaches steps (rename shape) := by
  obtain ⟨rename, hsubperm, hreaches⟩ := h.exists_rename h' fun steps => (hknows steps).mp
  obtain ⟨_, hback, _⟩ := h'.exists_rename h fun steps => (hknows steps).mpr
  refine ⟨rename, hsubperm.perm_of_length_le ?_, hreaches⟩
  simpa using hback.length_le

end Registry

/-- What of an object does not depend on the number of its shape: its layout, and its attributes
with their values. -/
def Object.unnumbered (object : Object) : Layout × Except Fault (List (NameId × Value)) :=
  (object.shape.layout, object.entries)

/-- Two objects, each on a shape of its registry, that do not differ but in the numbers of their
shapes. -/
structure Object.Alike (object : Object) (registry : Registry) (other : Object)
    (registry' : Registry) : Prop where
  /-- They have the same history. -/
  history : ∃ steps, registry.Reaches steps object.shape ∧ registry'.Reaches steps other.shape
  /-- They hold the same values. -/
  contents : object.contents = other.contents

namespace Object.Alike

variable {object other third : Object} {registry registry' registry'' : Registry}

theorem symm (h : object.Alike registry other registry') :
    other.Alike registry' object registry := by
  obtain ⟨steps, hsteps, hsteps'⟩ := h.history
  exact ⟨⟨steps, hsteps', hsteps⟩, h.contents.symm⟩

theorem trans (h : object.Alike registry other registry') (hwell : registry'.WellFormed)
    (h' : other.Alike registry' third registry'') : object.Alike registry third registry'' := by
  obtain ⟨steps, hsteps, hmiddle⟩ := h.history
  obtain ⟨steps', hmiddle', hsteps'⟩ := h'.history
  obtain rfl := hmiddle.steps_unique hmiddle' hwell
  exact ⟨⟨steps, hsteps, hsteps'⟩, h.contents.trans h'.contents⟩

/-- A registry may grow beside an object. -/
theorem grow (h : object.Alike registry other registry') (hgrown : registry.Extends registry'') :
    object.Alike registry'' other registry' := by
  obtain ⟨steps, hsteps, hsteps'⟩ := h.history
  exact ⟨⟨steps, hsteps.extends hgrown, hsteps'⟩, h.contents⟩

/-- Alike objects have one layout. -/
theorem layout_eq (h : object.Alike registry other registry') (hwell : registry.WellFormed)
    (hwell' : registry'.WellFormed) : object.shape.layout = other.shape.layout := by
  obtain ⟨steps, hsteps, hsteps'⟩ := h.history
  rw [hsteps.layout_eq hwell, hsteps'.layout_eq hwell']

/-- They hold the same in every slot of an attribute. -/
theorem valueAt_eq (h : object.Alike registry other registry') {name : NameId}
    {location : Location} (hlocation : object.shape.location? name = some location)
    (hlocation' : other.shape.location? name = some location) :
    object.valueAt location = other.valueAt location := by
  have hlookup := object.lookup_contents name
  rw [h.contents, other.lookup_contents, hlocation, hlocation'] at hlookup
  exact (Option.some.inj hlookup).symm

end Object.Alike

/-- What of a set site does not depend on the numbers of shapes. -/
def SetSite.unnumbered (site : SetSite) : NameId × Option (Layout × WriteNode) :=
  (site.name, site.cache.map fun entry => (entry.1.layout, entry.2))

/-- What of a get site does not depend on the numbers of shapes. -/
def GetSite.unnumbered (site : GetSite) : NameId × Option (Layout × ReadNode) :=
  (site.name, site.cache.map fun entry => (entry.1.layout, entry.2))

namespace SetSite

variable {p q site : SetSite} {space other : Space} {target : HeapId} {object a b : Object}
  {write : Write}

/-- Whether a site is general does not depend on the numbers of shapes. -/
theorem isGeneral_eq_of_unnumbered (h : p.unnumbered = q.unnumbered) :
    p.isGeneral = q.isGeneral := by
  have hstate : p.state = q.state := by
    have hcache := congrArg (fun view => view.2.map fun entry => entry.2.kind) h
    simpa [unnumbered, state, node?, Function.comp_def] using hcache
  rw [isGeneral, isGeneral, hstate]

/-- What a store answers: it is refused exactly if the attribute is missing and the slot limit is
reached. -/
def verdict (site : SetSite) (tracker : Tracker) (shape : Shape) : Except CallError Unit :=
  match shape.location? site.name with
  | none => (tracker.checkSlots (shape.layout.slotCount + 1)).mapError .ofLimit
  | some _ => .ok ()

/-- What is asked for depends on the layout alone, and on the attribute and generality of the
site. -/
theorem step?_congr (hname : p.name = q.name) (hgeneral : p.isGeneral = q.isGeneral)
    {shape shape' : Shape} (hlayout : shape.layout = shape'.layout) (write : Write) :
    p.step? shape write = q.step? shape' write := by
  unfold step?
  rw [kindAfter_congr hname hgeneral hlayout write]
  unfold Shape.location?
  rw [hname, hlayout]

/-- The answer depends on the layout, the attribute and the limits. -/
theorem verdict_congr (hname : p.name = q.name) (tracker : Tracker) {shape shape' : Shape}
    (hlayout : shape.layout = shape'.layout) :
    p.verdict tracker shape = q.verdict tracker shape' := by
  unfold verdict Shape.location?
  rw [hname, hlayout]

section Performs

variable {effect : Effect}

/-- The registry comes to know the history to which the step leads, and no other. -/
theorem Performs.knows_iff {steps others : List Transition}
    (hperforms : site.Performs space.heap space.registry target object write effect)
    (h : space.WellFormed) (hobject : space.heap.object? target = some object)
    (hsteps : space.registry.Reaches steps object.shape) :
    effect.registry.Knows others ↔ space.registry.Knows others ∨
      ∃ step, site.step? object.shape write = some step ∧ others = steps ++ [step] := by
  rcases hperforms.takes h hobject with ⟨hnone, hsame⟩ | ⟨step, reached, hstep, htakes⟩
  · simp [hnone, hsame]
  · simp [hstep, htakes.knows_iff h.registry hsteps]

/-- An assignment answers what the layout and the limits say. -/
theorem Performs.result_eq
    (hperforms : site.Performs space.heap space.registry target object write effect)
    (h : space.WellFormed) (hobject : space.heap.object? target = some object) :
    effect.result = site.verdict space.heap.tracker object.shape := by
  cases hperforms with
  | stored hlocation | boxed hlocation => rw [verdict, hlocation]
  | added habsent hadd hslots | refused habsent hadd hslots =>
    have hlayout := (added_takes h hobject habsent hadd).leads.layout_eq
    rw [hlayout, Transition.apply, Layout.slotCount_append] at hslots
    rw [verdict, habsent, hslots]
    rfl

/-- The object is seen to take the step if the assignment is not refused. -/
theorem Performs.stepsShown_eq
    (hperforms : site.Performs space.heap space.registry target object write effect) :
    stepsShown effect.events =
      if effect.result = .ok () then (site.step? object.shape write).toList else [] := by
  cases hperforms with
  | stored hlocation hkind =>
    rw [stepsShown_lookupEvents, step?_of_stored hlocation hkind]
    rfl
  | boxed hlocation hkind =>
    rw [stepsShown_refusalEvents, step?_of_boxed hlocation hkind]
    rfl
  | added habsent =>
    rw [step?_of_absent habsent]
    rfl
  | refused => rfl

/-- What an assignment leaves of its object and its site: after a success the object holds the value
and the site has cached its slot, and a refusal changes neither. -/
theorem Performs.leaves {steps : List Transition}
    (hperforms : site.Performs space.heap space.registry target object write effect)
    (h : space.WellFormed) (hobject : space.heap.object? target = some object)
    (hreliable : site.Reliable object.shape)
    (hsteps : space.registry.Reaches steps object.shape) :
    ∃ changed, effect.heap = space.heap.put target changed ∧
      effect.registry.Reaches (steps ++ stepsShown effect.events) changed.shape ∧
      (effect.result = .ok () ∧
          changed.contents = assign object.contents site.name
            (write.stored (site.kindAfter object.shape write)) ∧
          (∃ node, changed.shape.location? site.name = some node.location ∧
            effect.site = site.caching changed.shape node) ∨
        effect.result ≠ .ok () ∧ changed.contents = object.contents ∧ effect.site = site) := by
  obtain ⟨changed, hheap, hreaches⟩ := hperforms.reaches h hobject hsteps
  refine ⟨changed, hheap, hreaches, ?_⟩
  have hself : effect.heap.object? target = some changed := by
    rw [hheap]
    exact Heap.object?_put_self hobject changed
  obtain ⟨outcome, hexecute, hassigns⟩ := exists_assigns h hobject hreliable write
  cases (hperforms.execute_eq h hobject hreliable).symm.trans hexecute
  rcases hassigns.succeeds_or_refuses h hobject hreliable with hsucceeds | ⟨refusal, hrefuses⟩
  · left
    obtain ⟨changed', node, hsite, hresult, hequips, hcontents⟩ := hsucceeds
    cases hself.symm.trans (hequips.object? hobject)
    exact ⟨hresult, hcontents, node, hequips.location, hsite⟩
  · right
    have hkept : effect.heap = space.heap := congrArg Space.heap hrefuses.unchanged
    rw [hkept, hobject] at hself
    cases hself
    refine ⟨fun hok => ?_, rfl, hrefuses.kept⟩
    cases hok.symm.trans hrefuses.result

/-- On alike objects, sites that differ in the numbers of shapes only answer the same and leave
alike objects and such sites. -/
theorem Performs.alike {effect' : Effect}
    (hperforms : p.Performs space.heap space.registry target a write effect)
    (hperforms' : q.Performs other.heap other.registry target b write effect')
    (hwell : space.WellFormed) (hwell' : other.WellFormed)
    (ha : space.heap.object? target = some a) (hb : other.heap.object? target = some b)
    (hp : p.Reliable a.shape) (hq : q.Reliable b.shape)
    (htracker : space.heap.tracker = other.heap.tracker) (hsite : p.unnumbered = q.unnumbered)
    (halike : a.Alike space.registry b other.registry) :
    effect.result = effect'.result ∧ effect.site.unnumbered = effect'.site.unnumbered ∧
      ∃ changed changed', effect.heap = space.heap.put target changed ∧
        effect'.heap = other.heap.put target changed' ∧
        changed.Alike effect.registry changed' effect'.registry := by
  have hname : p.name = q.name := congrArg Prod.fst hsite
  have hgeneral : p.isGeneral = q.isGeneral := isGeneral_eq_of_unnumbered hsite
  have hlayout := halike.layout_eq hwell.registry hwell'.registry
  have hresult : effect.result = effect'.result := by
    rw [hperforms.result_eq hwell ha, hperforms'.result_eq hwell' hb, htracker,
      verdict_congr hname _ hlayout]
  have hshown : stepsShown effect.events = stepsShown effect'.events := by
    rw [hperforms.stepsShown_eq, hperforms'.stepsShown_eq, hresult,
      step?_congr hname hgeneral hlayout]
  obtain ⟨steps, hsteps, hsteps'⟩ := halike.history
  obtain ⟨changed, hheap, hreaches, hleft⟩ := hperforms.leaves hwell ha hp hsteps
  obtain ⟨changed', hheap', hreaches', hleft'⟩ := hperforms'.leaves hwell' hb hq hsteps'
  rw [← hshown] at hreaches'
  have hafter : changed.shape.layout = changed'.shape.layout := by
    rw [hreaches.layout_eq (hperforms.registry_wellFormed hwell ha),
      hreaches'.layout_eq (hperforms'.registry_wellFormed hwell' hb)]
  have hboth : effect.site.unnumbered = effect'.site.unnumbered ∧
      changed.contents = changed'.contents := by
    rcases hleft with ⟨hok, hcontents, node, hnode, hleft⟩ | ⟨hfailed, hcontents, hleft⟩
    · rcases hleft' with ⟨_, hcontents', node', hnode', hleft'⟩ | ⟨hfailed', _⟩
      · constructor
        · rw [Shape.location?, hafter, hname] at hnode
          obtain ⟨location⟩ := node
          cases hnode.symm.trans hnode'
          rw [hleft, hleft', caching, caching, unnumbered, unnumbered, hname]
          simp [hafter]
        · rw [hcontents, hcontents', halike.contents, hname,
            kindAfter_congr hname hgeneral hlayout]
      · exact absurd (hresult ▸ hok) hfailed'
    · rcases hleft' with ⟨hok', _⟩ | ⟨_, hcontents', hleft'⟩
      · exact absurd (hresult ▸ hok') hfailed
      · rw [hleft, hleft', hcontents, hcontents']
        exact ⟨hsite, halike.contents⟩
  exact ⟨hresult, hboth.1, changed, changed', hheap, hheap', ⟨_, hreaches, hreaches'⟩, hboth.2⟩

end Performs

end SetSite

namespace GetSite

variable {p q site : GetSite} {space other : Space} {target : HeapId} {object a b : Object}
  {load : Load} {outcome : Outcome GetSite Loaded}

/-- A load of an attribute of the object leaves its slot in the cache. -/
theorem Loads.unnumbered_of_location? (hloads : site.Loads space object load outcome)
    {location : Location} (hlocation : object.shape.location? site.name = some location) :
    outcome.site.unnumbered = (site.name, some (object.shape.layout, ⟨location⟩)) := by
  cases hloads with
  | hit hcache hlocation' =>
    cases hlocation.symm.trans hlocation'
    rw [unnumbered, hcache]
    rfl
  | found hlocation' =>
    cases hlocation.symm.trans hlocation'
    rfl
  | missing habsent _ => cases hlocation.symm.trans habsent

/-- A load leaves everything of a space as it is but the tracer. -/
theorem Loads.space_eq (hloads : site.Loads space object load outcome) :
    outcome.space = { space with tracer := outcome.space.tracer } := by
  cases hloads <;> rfl

/-- On alike objects, sites that differ in the numbers of shapes only load the same and leave such
sites. -/
theorem execute_alike (hwell : space.WellFormed) (hwell' : other.WellFormed)
    (ha : space.heap.object? target = some a) (hb : other.heap.object? target = some b)
    (hp : p.Reliable a.shape) (hq : q.Reliable b.shape)
    (hinterner : space.interner = other.interner) (hsite : p.unnumbered = q.unnumbered)
    (halike : a.Alike space.registry b other.registry) (load : Load) :
    (∃ fault, p.execute space target load = .error fault ∧
      q.execute other target load = .error fault) ∨
    ∃ outcome outcome', p.execute space target load = .ok outcome ∧
      q.execute other target load = .ok outcome' ∧ outcome.result = outcome'.result ∧
      outcome.site.unnumbered = outcome'.site.unnumbered := by
  have hname : p.name = q.name := congrArg Prod.fst hsite
  have hlayout := halike.layout_eq hwell.registry hwell'.registry
  have hsame : a.shape.location? p.name = b.shape.location? q.name := by
    rw [Shape.location?, Shape.location?, hlayout, hname]
  cases hlocation : a.shape.location? p.name with
  | some location =>
    have hlocation' := hsame.symm.trans hlocation
    obtain ⟨outcome, hexecute, hloads⟩ := exists_loads hwell ha hp hlocation load
    obtain ⟨outcome', hexecute', hloads'⟩ := exists_loads hwell' hb hq hlocation' load
    refine Or.inr ⟨outcome, outcome', hexecute, hexecute', ?_, ?_⟩
    · rw [hloads.result_of_location? hlocation, hloads'.result_of_location? hlocation',
        halike.valueAt_eq hlocation (hname ▸ hlocation')]
    · rw [hloads.unnumbered_of_location? hlocation, hloads'.unnumbered_of_location? hlocation',
        hname, hlayout]
  | none =>
    have habsent := hsame.symm.trans hlocation
    cases hknown : space.interner.text? p.name with
    | some text =>
      have hknown' : other.interner.text? q.name = some text := hinterner ▸ hname ▸ hknown
      exact Or.inr ⟨_, _, loads_of_absent ha hp hlocation hknown load,
        loads_of_absent hb hq habsent hknown' load, rfl, hsite⟩
    | none =>
      have hknown' : other.interner.text? q.name = none := hinterner ▸ hname ▸ hknown
      exact Or.inl ⟨_, execute_of_unknown ha hp hlocation hknown load,
        execute_of_unknown hb hq habsent hknown' load⟩

end GetSite

end ShapedObjects
