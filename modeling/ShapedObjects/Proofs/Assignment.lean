import ShapedObjects.Proofs.Spaces

/-!
# What an assignment through a site does

An assignment first finds a node for the object's shape, and then stores through it. This
file lists the ways in which either can go, each with the site and the space that it
leaves, and shows that one of them is always taken. Whichever it is, the assignment
either succeeds and assigns the value, or is refused by the slot limit and leaves
everything but the registry as it was.
-/

namespace ShapedObjects

namespace SetSite

/-- The site with a shape and a node in its cache. -/
def caching (site : SetSite) (shape : Shape) (node : WriteNode) : SetSite :=
  { site with cache := some (shape, node) }

/-- A site whose cache can be relied on for a shape: if the cached shape passes for that shape,
it is that shape, and the cached node is bound to the attribute's slot there. -/
def Reliable (site : SetSite) (shape : Shape) : Prop :=
  ∀ cached node, site.cache = some (cached, node) → cached.same shape = true →
    cached = shape ∧ shape.location? site.name = some node.location

/-- The kind of slot for which a site finds a node: a boxed one for a general site, else the one
that the attribute has, or `initial` if the shape lacks the attribute. -/
def slotKind (site : SetSite) (shape : Shape) (initial : Kind) : Kind :=
  if site.isGeneral then .object else ((shape.location? site.name).map (·.kind)).getD initial

/-- Boxing the attribute: the object migrates to the generalized shape, for which the site caches
a node. -/
inductive Widens (site : SetSite) (space : Space) (target : HeapId) (object : Object) :
    Outcome SetSite WriteNode → Prop
  | boxed {registry : Registry} {reached : Reached} {migrated : Object} :
      space.registry.generalize object.shape site.name = (registry, reached) →
      object.migrate reached.shape = .ok migrated →
      Widens site space target object
        (site.install (space.moveObject registry target object.shape migrated .generalize) reached)

/-- The ways to find a node for an object. -/
inductive Specializes (site : SetSite) (space : Space) (target : HeapId) (object : Object)
    (initial : Kind) : Outcome SetSite WriteNode → Prop
  /-- The cached node is for this shape. -/
  | hit {node : WriteNode} :
      site.hit? object.shape = some node →
      Specializes site space target object initial ⟨site, space, .ok node⟩
  /-- The attribute's slot is used as it is. -/
  | found {location : Location} :
      site.hit? object.shape = none →
      object.shape.location? site.name = some location →
      (location.kind.isPrimitive && site.isGeneral) = false →
      Specializes site space target object initial (site.install space ⟨object.shape, location⟩)
  /-- A general site boxes the attribute. -/
  | stale {location : Location} {outcome : Outcome SetSite WriteNode} :
      site.hit? object.shape = none →
      object.shape.location? site.name = some location →
      (location.kind.isPrimitive && site.isGeneral) = true →
      Widens site space target object outcome →
      Specializes site space target object initial outcome
  /-- The object gains the attribute. -/
  | added {registry : Registry} {reached : Reached} :
      site.hit? object.shape = none →
      object.shape.location? site.name = none →
      space.registry.addAttribute object.shape site.name
        (if site.isGeneral then .object else initial) = (registry, reached) →
      space.heap.tracker.checkSlots reached.shape.layout.slotCount = .ok () →
      Specializes site space target object initial
        (site.install (space.moveObject registry target object.shape
          (object.extend reached.shape) .addAttribute) reached)
  /-- The object would have too many slots. -/
  | refused {registry : Registry} {reached : Reached} {refusal : LimitError} :
      site.hit? object.shape = none →
      object.shape.location? site.name = none →
      space.registry.addAttribute object.shape site.name
        (if site.isGeneral then .object else initial) = (registry, reached) →
      space.heap.tracker.checkSlots reached.shape.layout.slotCount = .error refusal →
      Specializes site space target object initial
        ⟨site, { space with registry := registry }, .error (.ofLimit refusal)⟩

/-- A node was found: the object has a slot of the given kind, to which the node is bound, and
the site has cached both the shape and the node. -/
def Readies (site : SetSite) (space : Space) (target : HeapId) (object : Object) (kind : Kind)
    (outcome : Outcome SetSite WriteNode) : Prop :=
  ∃ changed node, outcome.site = site.caching changed.shape node ∧ outcome.result = .ok node ∧
    space.Equips target object site.name kind outcome.space changed node

/-- The slot limit refused a new attribute: only the registry may have grown. -/
structure Refuses {α : Type} (site : SetSite) (space : Space) (object : Object)
    (refusal : LimitError) (outcome : Outcome SetSite α) : Prop where
  /-- The refusal is what the call reports. -/
  result : outcome.result = .error (.ofLimit refusal)
  /-- The site keeps its cache. -/
  kept : outcome.site = site
  /-- The object lacks the attribute. -/
  absent : object.shape.location? site.name = none
  /-- One more slot would be too many. -/
  slots : space.heap.tracker.checkSlots (object.shape.layout.slotCount + 1) = .error refusal
  /-- Nothing but the registry changed. -/
  unchanged : outcome.space = { space with registry := outcome.space.registry }
  /-- The registry is the same or has grown. -/
  grown : space.registry.Extends outcome.space.registry
  /-- The space is well-formed. -/
  wellFormed : outcome.space.WellFormed

section Specialize

variable {site : SetSite} {space : Space} {target : HeapId} {object : Object}

/-- The cached node is used exactly when it was made for a shape that passes for this one. -/
theorem hit?_eq_some {shape : Shape} {node : WriteNode} (h : site.hit? shape = some node) :
    ∃ cached, site.cache = some (cached, node) ∧ cached.same shape = true := by
  unfold hit? at h
  split at h
  · rename_i cached node' hcache
    split at h
    · rename_i hsame
      cases h
      exact ⟨cached, hcache, hsame⟩
    · cases h
  · cases h

/-- An attribute that is not boxed can be boxed. -/
theorem exists_widens (h : space.WellFormed) (hobject : space.heap.object? target = some object)
    {location : Location} (hlocation : object.shape.location? site.name = some location)
    (hprimitive : location.kind ≠ .object) :
    ∃ outcome, site.widen space target object.shape = .ok outcome ∧
      site.Widens space target object outcome := by
  have htakes := h.registry.generalize_takes (h.of_object? hobject).1 hlocation hprimitive
  cases hgeneralize : space.registry.generalize object.shape site.name with
  | mk registry reached =>
    rw [hgeneralize] at htakes
    obtain ⟨migrated, hmigrate, hshape, _⟩ := Space.equips_migrate h hobject htakes
    have hheap : space.heap.migrateObject target reached.shape =
        .ok (space.heap.put target migrated) := by
      simp only [Heap.migrateObject, Heap.getToChange_of_object? hobject, bind, Except.bind,
        hmigrate]
      rfl
    refine ⟨_, ?_, .boxed hgeneralize hmigrate⟩
    simp only [widen, hgeneralize, bind, Except.bind, hheap, Space.moveObject, hshape]
    rfl

/-- Boxing an attribute that is not boxed leaves a node for its boxed slot. -/
theorem Widens.readies (h : space.WellFormed) (hobject : space.heap.object? target = some object)
    {location : Location} (hlocation : object.shape.location? site.name = some location)
    (hprimitive : location.kind ≠ .object) {outcome : Outcome SetSite WriteNode}
    (hwidens : site.Widens space target object outcome) :
    site.Readies space target object .object outcome := by
  have htakes := h.registry.generalize_takes (h.of_object? hobject).1 hlocation hprimitive
  cases hwidens with
  | @boxed registry reached migrated hgeneralize hmigrate =>
    rw [hgeneralize] at htakes
    obtain ⟨migrated', hmigrate', hshape, hequips⟩ := Space.equips_migrate h hobject htakes
    cases hmigrate.symm.trans hmigrate'
    exact ⟨migrated, ⟨reached.location⟩, by rw [hshape]; rfl, rfl, hequips.observe _⟩

/-- A site is general exactly if it is specialized for boxed slots. -/
theorem isGeneral_iff : site.isGeneral = true ↔ site.state = some .object :=
  decide_eq_true_iff

/-- A site is general exactly if its cached node is one for boxed slots. -/
theorem isGeneral_of_cache {cached : Shape} {node : WriteNode}
    (hcache : site.cache = some (cached, node)) :
    site.isGeneral = decide (node.kind = .object) := by
  simp [isGeneral, state, node?, hcache]

/-- Where a shape has the attribute, a site that is not general takes its slot as it is. -/
theorem slotKind_of_location? {shape : Shape} {location : Location}
    (hlocation : shape.location? site.name = some location) (initial : Kind) :
    site.slotKind shape initial = if site.isGeneral then .object else location.kind := by
  rw [slotKind, hlocation]
  rfl

/-- Where a shape lacks the attribute, a site that is not general adds a slot of the initial
kind. -/
theorem slotKind_of_absent {shape : Shape} (habsent : shape.location? site.name = none)
    (initial : Kind) :
    site.slotKind shape initial = if site.isGeneral then .object else initial := by
  rw [slotKind, habsent]
  rfl

/-- Finding a node always goes one of the listed ways. -/
theorem exists_specializes (site : SetSite) (h : space.WellFormed)
    (hobject : space.heap.object? target = some object) (initial : Kind) :
    ∃ outcome, site.specialize space target initial = .ok outcome ∧
      site.Specializes space target object initial outcome := by
  have hget := Heap.get_of_object? hobject
  cases hhit : site.hit? object.shape with
  | some node =>
    refine ⟨_, ?_, .hit hhit⟩
    simp only [specialize, hget, bind, Except.bind, hhit]
    rfl
  | none =>
    cases hlocation : object.shape.location? site.name with
    | some location =>
      cases hstale : location.kind.isPrimitive && site.isGeneral with
      | true =>
        have hprimitive := (Bool.and_eq_true_iff.mp hstale).1
        obtain ⟨outcome, hwiden, hwidens⟩ := exists_widens h hobject hlocation
          (Kind.isPrimitive_iff.mp hprimitive)
        refine ⟨outcome, ?_, .stale hhit hlocation hstale hwidens⟩
        simp only [specialize, hget, bind, Except.bind, hhit, hlocation, hstale, hwiden, if_true]
      | false =>
        refine ⟨_, ?_, .found hhit hlocation hstale⟩
        simp only [specialize, hget, bind, Except.bind, hhit, hlocation, hstale]
        rfl
    | none =>
      cases hadd : space.registry.addAttribute object.shape site.name
          (if site.isGeneral then .object else initial) with
      | mk registry reached =>
        cases hslots : space.heap.tracker.checkSlots reached.shape.layout.slotCount with
        | ok _ =>
          refine ⟨_, ?_, .added hhit hlocation hadd hslots⟩
          simp only [specialize, hget, bind, Except.bind, hhit, hlocation, append, hadd,
            Heap.extendObject, hslots, Heap.getToChange_of_object? hobject]
          rfl
        | error refusal =>
          refine ⟨_, ?_, .refused hhit hlocation hadd hslots⟩
          simp only [specialize, hget, bind, Except.bind, hhit, hlocation, append, hadd,
            Heap.extendObject, hslots]
          rfl

/-- Whichever way it went, either a node was found for a slot of the expected kind, or the slot
limit refused a new attribute. -/
theorem Specializes.readies_or_refuses (h : space.WellFormed)
    (hobject : space.heap.object? target = some object) (hreliable : site.Reliable object.shape)
    {initial : Kind} {outcome : Outcome SetSite WriteNode}
    (hspecializes : site.Specializes space target object initial outcome) :
    site.Readies space target object (site.slotKind object.shape initial) outcome ∨
      ∃ refusal, site.Refuses space object refusal outcome := by
  obtain ⟨hissued, hwell⟩ := h.of_object? hobject
  cases hspecializes with
  | @hit node hhit =>
    obtain ⟨cached, hcache, hsame⟩ := hit?_eq_some hhit
    obtain ⟨rfl, hlocation⟩ := hreliable cached node hcache hsame
    have hkind : site.slotKind object.shape initial = node.kind := by
      rw [slotKind_of_location? hlocation, isGeneral_of_cache hcache]
      by_cases hobj : node.kind = .object
      · rw [if_pos (decide_eq_true hobj), hobj]
      · rw [if_neg (by simpa using hobj)]
        rfl
    refine Or.inl ⟨object, node, ?_, rfl, ?_⟩
    · change site = { site with cache := some (object.shape, node) }
      rw [← hcache]
    · rw [hkind]
      exact Space.equips_of_location? h hobject hlocation
  | @found location hmiss hlocation hkeep =>
    have hkind : site.slotKind object.shape initial = location.kind := by
      rw [slotKind_of_location? hlocation]
      by_cases hgeneral : site.isGeneral = true
      · rw [hgeneral, Bool.and_true] at hkeep
        have hobj : ¬ location.kind ≠ .object := by
          rw [← Kind.isPrimitive_iff, hkeep]
          decide
        rw [if_pos hgeneral, Decidable.not_not.mp hobj]
      · rw [if_neg hgeneral]
    refine Or.inl ⟨object, ⟨location⟩, rfl, rfl, ?_⟩
    rw [hkind]
    exact (Space.equips_of_location? h hobject hlocation).observe _
  | @stale location _ hmiss hlocation hstale hwidens =>
    obtain ⟨hprimitive, hgeneral⟩ := Bool.and_eq_true_iff.mp hstale
    left
    rw [slotKind_of_location? hlocation, if_pos hgeneral]
    exact hwidens.readies h hobject hlocation (Kind.isPrimitive_iff.mp hprimitive)
  | @added registry reached hmiss habsent hadd hslots =>
    have htakes := h.registry.addAttribute_takes hissued habsent
      (if site.isGeneral then .object else initial)
    rw [hadd] at htakes
    left
    rw [slotKind_of_absent habsent]
    exact ⟨object.extend reached.shape, ⟨reached.location⟩, rfl, rfl,
      (Space.equips_extend h hobject habsent htakes).observe _⟩
  | @refused registry reached refusal hmiss habsent hadd hslots =>
    have htakes := h.registry.addAttribute_takes hissued habsent
      (if site.isGeneral then .object else initial)
    rw [hadd] at htakes
    cases htakes.leads with
    | add _ hlayout _ =>
      rw [hlayout, Layout.slotCount_append] at hslots
      exact Or.inr ⟨refusal, rfl, rfl, habsent, hslots, rfl, htakes.grown,
        h.grow htakes.grown htakes.wellFormed⟩

end Specialize

/-- The kind of the attribute's slot after an assignment that succeeds. A new attribute gets the
kind that its first store asks for, or a boxed slot from a site that is specialized for boxed ones.
An attribute that the object has keeps its kind if the site is not specialized so and the store
fits, and is boxed otherwise. -/
def kindAfter (site : SetSite) (shape : Shape) (write : Write) : Kind :=
  match shape.location? site.name with
  | none => if site.state = some .object then .object else write.newKind
  | some location =>
    if site.state ≠ some .object ∧ write.fits location.kind = true then location.kind else .object

/-- The ways in which an assignment can go. -/
inductive Assigns (site : SetSite) (space : Space) (target : HeapId) (object : Object)
    (write : Write) : Outcome SetSite Unit → Prop
  /-- No node was found. -/
  | refused {found : Outcome SetSite WriteNode} {error : CallError} :
      site.Specializes space target object write.initialKind found →
      found.result = .error error →
      Assigns site space target object write { found with result := .error error }
  /-- The slot holds the stored value. -/
  | stored {found : Outcome SetSite WriteNode} {changed : Object} {node : WriteNode} :
      site.Specializes space target object write.initialKind found →
      found.result = .ok node →
      found.space.heap.object? target = some changed →
      write.fits node.kind = true →
      Assigns site space target object write
        ⟨found.site,
          (found.space.put target
            (changed.overwrite node.location (write.stored node.kind))).observe
              (.written node.kind (node.path write)),
          .ok ()⟩
  /-- The slot refused the value, and the boxed slot that takes its place holds it. -/
  | boxed {found widened : Outcome SetSite WriteNode} {changed migrated : Object}
      {node boxedNode : WriteNode} :
      site.Specializes space target object write.initialKind found →
      found.result = .ok node →
      found.space.heap.object? target = some changed →
      write.fits node.kind = false →
      found.site.Widens (found.space.observe (.generalized found.site.name node.kind)) target
        changed widened →
      widened.result = .ok boxedNode →
      widened.space.heap.object? target = some migrated →
      Assigns site space target object write
        ⟨widened.site,
          (widened.space.put target (migrated.overwrite boxedNode.location write.value)).observe
            (.written boxedNode.kind .generic),
          .ok ()⟩

/-- An assignment succeeded: the object has a slot of the right kind for the attribute, the value
is assigned, and the site has cached the object's shape with a node for that slot. -/
def Succeeds (site : SetSite) (space : Space) (target : HeapId) (object : Object) (write : Write)
    (outcome : Outcome SetSite Unit) : Prop :=
  ∃ changed node, outcome.site = site.caching changed.shape node ∧ outcome.result = .ok () ∧
    space.Equips target object site.name (site.kindAfter object.shape write) outcome.space
      changed node ∧
    changed.contents =
      assign object.contents site.name (write.stored (site.kindAfter object.shape write))

section Execute

variable {site : SetSite} {space : Space} {target : HeapId} {object : Object}

/-- An attribute that the object lacks gets the kind of the store, or is boxed by a general
site. -/
theorem kindAfter_of_absent {shape : Shape} (habsent : shape.location? site.name = none)
    (write : Write) :
    site.kindAfter shape write = if site.isGeneral then .object else write.initialKind := by
  simp only [kindAfter, habsent, isGeneral_iff, write.initialKind_eq]

/-- An attribute that the object has keeps its kind if the site is not general and the store
fits. -/
theorem kindAfter_of_location? {shape : Shape} {location : Location}
    (hlocation : shape.location? site.name = some location) (write : Write) :
    site.kindAfter shape write =
      if site.isGeneral = false ∧ write.fits location.kind = true then location.kind
      else .object := by
  simp only [kindAfter, hlocation, ← isGeneral_iff, Bool.not_eq_true, ne_eq]

/-- The slot that was found keeps its kind if the store fits it, and is boxed otherwise. -/
theorem kindAfter_eq (site : SetSite) (shape : Shape) (write : Write) :
    site.kindAfter shape write =
      if write.fits (site.slotKind shape write.initialKind) then
        site.slotKind shape write.initialKind
      else .object := by
  cases hlocation : shape.location? site.name with
  | none =>
    rw [kindAfter_of_absent hlocation, slotKind_of_absent hlocation]
    cases site.isGeneral with
    | true => simp
    | false => simp [write.fits_initialKind]
  | some location =>
    rw [kindAfter_of_location? hlocation, slotKind_of_location? hlocation]
    cases site.isGeneral with
    | true => simp
    | false => simp

/-- A slot that does not fit a store is not boxed. -/
theorem ne_object_of_not_fits {write : Write} {kind : Kind} (hfits : write.fits kind = false) :
    kind ≠ .object := by
  rintro rfl
  rw [write.fits_object] at hfits
  cases hfits

/-- A value that was refused by a primitive slot is always stored in the end: the attribute is
boxed, and the boxed slot accepts the value. -/
theorem exists_generalize (h : space.WellFormed)
    (hobject : space.heap.object? target = some object) {location : Location}
    (hlocation : object.shape.location? site.name = some location)
    (hprimitive : location.kind ≠ .object) (rejection : Rejection) :
    ∃ widened migrated node,
      site.Widens (space.observe (.generalized site.name rejection.location.kind)) target object
        widened ∧
      widened.result = .ok node ∧ widened.space.heap.object? target = some migrated ∧
      site.generalize space target rejection = .ok ⟨widened.site,
        (widened.space.put target (migrated.overwrite node.location rejection.value)).observe
          (.written node.kind .generic), .ok ()⟩ := by
  have hobserved := h.observe (.generalized site.name rejection.location.kind)
  obtain ⟨widened, hwiden, hwidens⟩ := exists_widens hobserved hobject hlocation hprimitive
  obtain ⟨migrated, node, _, hresult, hequips⟩ :=
    hwidens.readies hobserved hobject hlocation hprimitive
  have hmigrated := hequips.object? hobject
  obtain ⟨_, hwell⟩ := hequips.wellFormed.of_object? hmigrated
  have hfits : (Write.boxed rejection.value).fits node.kind = true := by
    rw [hequips.node_kind, Write.fits_object]
  have hstore := WriteNode.store_of_fits
    (hwell.toSized.index_lt_of_location? hequips.location) hfits
  rw [hequips.node_kind, Write.stored_object] at hstore
  refine ⟨widened, migrated, node, hwidens, hresult, hmigrated, ?_⟩
  have hget : (space.observe (.generalized site.name rejection.location.kind)).heap.get target =
      .ok object := Heap.get_of_object? hobject
  simp only [generalize, bind, Except.bind, hget, hwiden, hresult,
    Heap.getToChange_of_object? hmigrated, hstore]
  rfl

/-- On an allocated object an assignment always goes one of the listed ways. -/
theorem exists_assigns (h : space.WellFormed) (hobject : space.heap.object? target = some object)
    (hreliable : site.Reliable object.shape) (write : Write) :
    ∃ outcome, site.execute space target write = .ok outcome ∧
      site.Assigns space target object write outcome := by
  obtain ⟨found, hspecialize, hspecializes⟩ := site.exists_specializes h hobject write.initialKind
  rcases hspecializes.readies_or_refuses h hobject hreliable with hready | ⟨refusal, hrefuses⟩
  · obtain ⟨changed, node, hsite, hresult, hequips⟩ := hready
    have hchanged := hequips.object? hobject
    have hget := Heap.getToChange_of_object? hchanged
    obtain ⟨_, hwell⟩ := hequips.wellFormed.of_object? hchanged
    cases hfits : write.fits node.kind with
    | true =>
      have hstore := WriteNode.store_of_fits
        (hwell.toSized.index_lt_of_location? hequips.location) hfits
      refine ⟨_, ?_, .stored hspecializes hresult hchanged hfits⟩
      simp only [execute, hspecialize, bind, Except.bind, hresult, hget, hstore]
      rfl
    | false =>
      have hstore : node.store changed write = .rejected ⟨node.location, write.value⟩ :=
        WriteNode.store_of_not_fits hfits
      have hlocation : changed.shape.location? found.site.name = some node.location := by
        rw [hsite]
        exact hequips.location
      obtain ⟨widened, migrated, boxedNode, hwidens, hboxed, hmigrated, hgeneralize⟩ :=
        exists_generalize hequips.wellFormed hchanged hlocation (ne_object_of_not_fits hfits)
          ⟨node.location, write.value⟩
      refine ⟨_, ?_, .boxed hspecializes hresult hchanged hfits hwidens hboxed hmigrated⟩
      simp only [execute, hspecialize, bind, Except.bind, hresult, hget, hstore]
      exact hgeneralize
  · refine ⟨_, ?_, .refused hspecializes hrefuses.result⟩
    simp only [execute, hspecialize, bind, Except.bind, hrefuses.result]
    rfl

/-- The slot that an assignment leaves fits the store. -/
theorem fits_kindAfter (site : SetSite) (shape : Shape) (write : Write) :
    write.fits (site.kindAfter shape write) = true := by
  rw [kindAfter_eq]
  split
  · assumption
  · exact write.fits_object

/-- An object with a slot of the right kind needs only the value to be stored. -/
theorem succeeds_of_equips (hobject : space.heap.object? target = some object) {write : Write}
    {later : Space} {changed : Object} {node : WriteNode}
    (hequips : space.Equips target object site.name (site.kindAfter object.shape write) later
      changed node) (event : Event) :
    site.Succeeds space target object write ⟨site.caching changed.shape node,
      (later.put target (changed.overwrite node.location
        (write.stored (site.kindAfter object.shape write)))).observe event, .ok ()⟩ := by
  have haccepts : node.kind.accepts (write.stored (site.kindAfter object.shape write)) = true := by
    rw [hequips.node_kind, write.accepts_stored, fits_kindAfter]
  obtain ⟨hstored, hcontents⟩ := hequips.overwrite hobject haccepts
  exact ⟨_, node, by rw [Object.overwrite_shape], rfl, hstored.observe event, hcontents⟩

/-- Whichever way it went, the assignment succeeded or was refused by the slot limit. -/
theorem Assigns.succeeds_or_refuses (h : space.WellFormed)
    (hobject : space.heap.object? target = some object) (hreliable : site.Reliable object.shape)
    {write : Write} {outcome : Outcome SetSite Unit}
    (hassigns : site.Assigns space target object write outcome) :
    site.Succeeds space target object write outcome ∨
      ∃ refusal, site.Refuses space object refusal outcome := by
  cases hassigns with
  | @refused found error hspecializes hresult =>
    rcases hspecializes.readies_or_refuses h hobject hreliable with hready | ⟨refusal, hrefuses⟩
    · obtain ⟨_, node, _, hok, _⟩ := hready
      cases hresult.symm.trans hok
    · cases hresult.symm.trans hrefuses.result
      exact Or.inr ⟨refusal, rfl, hrefuses.kept, hrefuses.absent, hrefuses.slots,
        hrefuses.unchanged, hrefuses.grown, hrefuses.wellFormed⟩
  | @stored found changed node hspecializes hresult hchanged hfits =>
    rcases hspecializes.readies_or_refuses h hobject hreliable with hready | ⟨refusal, hrefuses⟩
    · obtain ⟨_, _, hsite, hok, hequips⟩ := hready
      cases hresult.symm.trans hok
      cases hchanged.symm.trans (hequips.object? hobject)
      rw [hequips.node_kind] at hfits
      have hkind : site.slotKind object.shape write.initialKind =
          site.kindAfter object.shape write := by
        rw [kindAfter_eq, if_pos hfits]
      rw [hkind] at hequips
      rw [hsite, hequips.node_kind]
      exact Or.inl (succeeds_of_equips hobject hequips _)
    · cases hresult.symm.trans hrefuses.result
  | @boxed found widened changed migrated node boxedNode hspecializes hresult hchanged hfits
      hwidens hboxed hmigrated =>
    rcases hspecializes.readies_or_refuses h hobject hreliable with hready | ⟨refusal, hrefuses⟩
    · obtain ⟨_, _, hsite, hok, hequips⟩ := hready
      cases hresult.symm.trans hok
      cases hchanged.symm.trans (hequips.object? hobject)
      have hobserved := hequips.observe (.generalized found.site.name node.kind)
      have hlocation : changed.shape.location? found.site.name = some node.location := by
        rw [hsite]
        exact hequips.location
      obtain ⟨_, _, hwidenedSite, hwidened, hwidenedEquips⟩ := hwidens.readies
        hobserved.wellFormed hchanged hlocation (ne_object_of_not_fits hfits)
      cases hboxed.symm.trans hwidened
      cases hmigrated.symm.trans (hwidenedEquips.object? hchanged)
      rw [hequips.node_kind] at hfits
      have hkind : site.kindAfter object.shape write = .object := by
        rw [kindAfter_eq, hfits]
        rfl
      have hname : found.site.name = site.name := by
        rw [hsite]
        rfl
      rw [hname] at hobserved hwidenedEquips
      have hall := hobserved.trans hwidenedEquips
      rw [← hkind] at hall
      have hsucceeds := succeeds_of_equips hobject hall (.written boxedNode.kind .generic)
      rw [hkind, Write.stored_object] at hsucceeds
      rw [hwidenedSite, hsite]
      exact Or.inl hsucceeds
    · cases hresult.symm.trans hrefuses.result

/-- Only an allocated object can be assigned to. -/
theorem object?_of_execute {write : Write} {outcome : Outcome SetSite Unit}
    (hexecute : site.execute space target write = .ok outcome) :
    ∃ object, space.heap.object? target = some object := by
  obtain ⟨found, hspecialize, _⟩ := ok_of_bind hexecute
  obtain ⟨object, hget, _⟩ := ok_of_bind hspecialize
  exact ⟨object, Heap.object?_of_get hget⟩

end Execute

end SetSite

end ShapedObjects
