import ShapedObjects.Proofs.Migration
import ShapedObjects.Proofs.SlotLaws
import ShapedObjects.Proofs.Traces

/-!
# Sites that only store

An assignment may box the attribute, or add it, and so ends on another shape than the one that it
met. Whatever it did, the site is then made for the shape on which the object ended: the next
assignment to any object there goes straight to the slot if the value fits. It shows one event and
changes nothing but the slot, and nothing at all if the slot holds the value already.
-/

namespace ShapedObjects

/-- A store goes into slots that may hold its value, and one of a boolean goes into integer slots as
well. -/
theorem Write.fits_iff (write : Write) (kind : Kind) :
    write.fits kind = true ↔
      kind.Holds write.value ∨ kind = .int ∧ ∃ value, write = .bool value := by
  rw [← Kind.accepts_iff]
  cases write with
  | boxed _ | int _ | float _ => simp [fits]
  | bool value => cases kind <;> simp [fits, Write.value]

/-- The event of a store to a location. The value is not boxed if the slot is of the store's own
kind. -/
def Write.event (write : Write) (location : Location) : Event :=
  .written location.kind (if write.meetsOwn location.kind then .fast else .generic)

/-- A store through a node shows the event of its location. -/
theorem WriteNode.written_eq_event (location : Location) (write : Write) :
    .written location.kind (path ⟨location⟩ write) = write.event location := by
  have hfast := path_eq_fast_iff ⟨location⟩ write
  rw [Write.event]
  by_cases howns : write.meetsOwn location.kind = true
  · rw [if_pos howns, hfast.mpr howns]
  · rw [if_neg howns]
    cases hpath : path ⟨location⟩ write with
    | fast => exact absurd (hfast.mp hpath) howns
    | generic => rfl

/-- Storing again what the slot of an attribute holds changes nothing. -/
theorem Object.WellFormed.overwrite_eq_self {object : Object} (h : object.WellFormed)
    {name : NameId} {location : Location} {value : Value}
    (hlocation : object.shape.location? name = some location)
    (haccepts : location.kind.accepts value = true)
    (hheld : object.contents.lookup name = some value) :
    object.overwrite location value = object := by
  apply (h.overwrite hlocation haccepts).eq_of_lookup_eq h (overwrite_shape _ _ _)
  intro other
  rw [h.toSized.contents_overwrite hlocation haccepts, assign_eq_self _ _ _ hheld]

namespace SetSite

/-- A site that is made for a shape: its cached node is one for the attribute's slot there. -/
structure HotFor (site : SetSite) (shape : Shape) (location : Location) : Prop where
  /-- The shape is cached with a node for the slot. -/
  cache : site.cache = some (shape, ⟨location⟩)
  /-- The slot is the one of the attribute. -/
  location : shape.location? site.name = some location

section Hot

variable {site : SetSite} {space : Space} {target : HeapId} {object : Object} {write : Write}
  {location : Location}

/-- An assignment that succeeds leaves the site made for the shape on which it leaves the object. -/
theorem Succeeds.hotFor {outcome : Outcome SetSite Unit}
    (hobject : space.heap.object? target = some object)
    (h : site.Succeeds space target object write outcome) :
    ∃ changed location, outcome.space.heap.object? target = some changed ∧
      outcome.site.HotFor changed.shape location ∧ write.fits location.kind = true ∧
      changed.contents.lookup outcome.site.name = some (write.stored location.kind) := by
  obtain ⟨changed, node, hsite, _, hequips, hcontents⟩ := h
  have hkind : node.location.kind = site.kindAfter object.shape write := hequips.node_kind
  refine ⟨changed, node.location, hequips.object? hobject, ?_, ?_, ?_⟩
  · rw [hsite]
    exact ⟨rfl, hequips.location⟩
  · rw [hkind]
    exact site.fits_kindAfter object.shape write
  · rw [hsite, hcontents, hkind]
    exact lookup_assign_self _ _ _

namespace HotFor

/-- The cached node is found for the shape. -/
theorem hit? {shape : Shape} (h : site.HotFor shape location) :
    site.hit? shape = some ⟨location⟩ := by
  rw [SetSite.hit?, h.cache]
  simp [Shape.same]

/-- What the site has cached can be relied on for the shape. -/
theorem reliable {shape : Shape} (h : site.HotFor shape location) : site.Reliable shape := by
  intro cached node hcache _
  cases h.cache.symm.trans hcache
  exact ⟨rfl, h.location⟩

/-- A store that fits goes straight to the slot. -/
theorem performs (h : site.HotFor object.shape location) (hfits : write.fits location.kind = true)
    (heap : Heap) (registry : Registry) (target : HeapId) :
    site.Performs heap registry target object write
      { site := site
        heap := heap.put target (object.overwrite location (write.stored location.kind))
        registry := registry
        result := .ok ()
        events := [write.event location] } := by
  obtain ⟨hlocation, hkind, hsite⟩ := kindAfter_of_hit h.hit? h.reliable hfits
  have hstored : site.Performs heap registry target object write _ := .stored hlocation hkind
  rw [lookupEvents, h.hit?, ← hsite, WriteNode.written_eq_event] at hstored
  exact hstored

/-- A store that fits changes the slot, shows one event, and leaves the site as it is. -/
theorem execute_eq (h : site.HotFor object.shape location) (hspace : space.WellFormed)
    (hobject : space.heap.object? target = some object)
    (hfits : write.fits location.kind = true) :
    site.execute space target write = .ok ⟨site,
        (space.put target (object.overwrite location (write.stored location.kind))).observe
          (write.event location), .ok ()⟩ ∧
      site.emitted space target write = [write.event location] := by
  have hperforms := h.performs hfits space.heap space.registry target
  constructor
  · exact hperforms.execute_eq hspace hobject h.reliable
  · exact hperforms.emitted_eq hspace hobject h.reliable

end HotFor

end Hot

end SetSite

namespace Session

variable {session later : Session} {index position : Nat} {target : HeapId} {write : Write}

/-- A later session that is the same up to one object, in the place of which there is another one,
and up to one event that was shown to the tracer of that object's space. -/
structure SameButObject (session later : Session) (index : Nat) (target : HeapId) (stored : Object)
    (event : Event) : Prop where
  /-- There is another object in the place of the one. -/
  stored : later.object? index target = some stored
  /-- All other objects of all spaces are as they were, and no object is new. -/
  others : ∀ otherIndex other, (otherIndex, other) ≠ (index, target) →
    later.object? otherIndex other = session.object? otherIndex other
  /-- The set sites are as they were, with their caches. -/
  setSites : later.setSites = session.setSites
  /-- The get sites are as they were, with their caches. -/
  getSites : later.getSites = session.getSites
  /-- No space has another shape or another step between shapes. -/
  registries : later.spaces.map (·.registry) = session.spaces.map (·.registry)
  /-- No space has another name. -/
  interners : later.spaces.map (·.interner) = session.spaces.map (·.interner)
  /-- No space has counted an allocation. -/
  trackers : later.spaces.map (·.heap.tracker) = session.spaces.map (·.heap.tracker)
  /-- One tracer was shown one event. -/
  tracers : later.spaces.map (·.tracer) =
    (session.spaces.map (·.tracer)).modify index (·.observe event)

/-- A call through a site only stores: it returns, shows the tracer the one event of the store, and
leaves the session the same up to that event and the object that it was made on. -/
def OnlyStores (session : Session) (index position : Nat) (target : HeapId) (write : Write)
    (location : Location) (stored : Object) : Prop :=
  ∃ space site later, session.spaces[index]? = some space ∧
    session.setSites[position]? = some site ∧
    site.emitted space target write = [write.event location] ∧
    session.step (.call index (.set position target write)) = .ok (later, .set (.ok ())) ∧
    session.SameButObject later index target stored (write.event location)

/-- Putting another object in a place and showing an event to the tracer changes nothing else. -/
theorem sameButObject_withSpace {space : Space} (hspace : session.spaces[index]? = some space)
    {object : Object} (hobject : space.heap.object? target = some object) (stored : Object)
    (event : Event) :
    session.SameButObject
      (session.withSpace index ((space.put target stored).observe event)) index target stored
      event where
  stored := by
    rw [object?_withSpace_self hspace]
    exact Heap.object?_put_self hobject stored
  others := fun _ _ hne => object?_of_replaced hspace rfl hne
  setSites := rfl
  getSites := rfl
  registries := map_withSpace hspace rfl
  interners := map_withSpace hspace rfl
  trackers := map_withSpace hspace rfl
  tracers := by
    rw [withSpace, List.map_set, List.modify_eq_set_getElem?, List.getElem?_map, hspace]
    rfl

/-- Through a site that is made for the shape of an object, a store that fits is all that a call
does. -/
theorem WellFormed.onlyStores (h : session.WellFormed) {site : SetSite}
    (hsite : session.setSites[position]? = some site) {object : Object}
    (hobject : session.object? index target = some object) {location : Location}
    (hhot : site.HotFor object.shape location) (hfits : write.fits location.kind = true) :
    session.OnlyStores index position target write location
      (object.overwrite location (write.stored location.kind)) := by
  obtain ⟨space, hspace, hfound⟩ := Option.bind_eq_some_iff.mp hobject
  have hwell := h.spaces space (List.mem_of_getElem? hspace)
  obtain ⟨hexecute, hemitted⟩ := hhot.execute_eq hwell hfound hfits
  refine ⟨space, site, _, hspace, hsite, hemitted, ?_, sameButObject_withSpace hspace hfound _ _⟩
  rw [(Steps.assigned hspace hsite hexecute).step_eq, set_item hsite]
  rfl

/-- A call that succeeds leaves the site made for the shape of the object, with a slot that holds
what was stored. -/
theorem WellFormed.hot_of_step (h : session.WellFormed)
    (hstep : session.step (.call index (.set position target write)) = .ok (later, .set (.ok ()))) :
    ∃ site changed location, later.setSites[position]? = some site ∧
      later.object? index target = some changed ∧ site.HotFor changed.shape location ∧
      write.fits location.kind = true ∧
      changed.contents.lookup site.name = some (write.stored location.kind) := by
  obtain ⟨_, site, _, hspace, hsite, hexecute, _⟩ := assigned_of_step hstep
  obtain ⟨object, hobject⟩ := SetSite.object?_of_execute hexecute
  rw [← object?_of_space hspace] at hobject
  obtain ⟨space, outcome, hspace', hfound, hsucceeds, rfl⟩ := h.succeeds_of_step hsite hobject hstep
  obtain ⟨changed, location, hchanged, hhot, hfits, hheld⟩ := hsucceeds.hotFor hfound
  obtain ⟨hlt, _⟩ := List.getElem?_eq_some_iff.mp hsite
  refine ⟨outcome.site, changed, location, List.getElem?_set_self hlt, ?_, hhot, hfits, hheld⟩
  exact (object?_withSpace_self hspace' outcome.space target).trans hchanged

/-- After a call through a set site that succeeded, the site has cached the shape on which the object
is now, with a node for the attribute's slot there. The same call again succeeds, shows the tracer
the one event of the store, and changes nothing else. Every store through the site whose value fits
the slot, on any object of that shape, only stores: the call succeeds, shows one event, and changes
the slot of the attribute and nothing else. -/
theorem writes_leave_hot_site (h : session.Reachable)
    (hstep : session.step (.call index (.set position target write)) = .ok (later, .set (.ok ()))) :
    ∃ space site changed location, later.spaces[index]? = some space ∧
      later.setSites[position]? = some site ∧ space.heap.object? target = some changed ∧
      site.HotFor changed.shape location ∧
      site.emitted space target write = [write.event location] ∧
      later.step (.call index (.set position target write)) =
        .ok ({ later with
          spaces := later.spaces.set index
            { space with tracer := space.tracer.observe (write.event location) } },
          .set (.ok ())) ∧
      ∀ otherIndex other object further, later.object? otherIndex other = some object →
        object.shape = changed.shape →
        location.kind.Holds further.value ∨
          location.kind = .int ∧ (∃ value, further = .bool value) →
        ∃ stored, object.SameBut location stored ∧
          location.read stored = .ok (further.stored location.kind) ∧
          later.OnlyStores otherIndex position other further location stored := by
  have hlater : later.WellFormed := (steps_of_step hstep).wellFormed h.wellFormed
  obtain ⟨site, changed, location, hsite, hchanged, hhot, hfits, hheld⟩ :=
    h.wellFormed.hot_of_step hstep
  obtain ⟨space, hspace, hfound⟩ := Option.bind_eq_some_iff.mp hchanged
  have hwell := hlater.spaces space (List.mem_of_getElem? hspace)
  refine ⟨space, site, changed, location, hspace, hsite, hfound, hhot, ?_, ?_, ?_⟩
  · exact (hhot.execute_eq hwell hfound hfits).2
  · -- The slot holds the value already, so the heap stays as it is.
    have haccepts : location.kind.accepts (write.stored location.kind) = true := by
      rw [write.accepts_stored, hfits]
    have hsame := (hwell.of_object? hfound).2.overwrite_eq_self hhot.location haccepts hheld
    obtain ⟨hexecute, _⟩ := hhot.execute_eq hwell hfound hfits
    rw [hsame, Space.put, Heap.put_object? hfound] at hexecute
    rw [(Steps.assigned hspace hsite hexecute).step_eq, set_item hsite]
    rfl
  · intro otherIndex other object further hobject hshape hgoes
    have hfits' := (further.fits_iff location.kind).mpr hgoes
    rw [← hshape] at hhot
    obtain ⟨otherSpace, hotherSpace, hother⟩ := Option.bind_eq_some_iff.mp hobject
    obtain ⟨_, hobjectWell⟩ :=
      (hlater.spaces otherSpace (List.mem_of_getElem? hotherSpace)).of_object? hother
    have hrange := hobjectWell.toSized.index_lt_of_location? hhot.location
    have hholds : location.kind.Holds (further.stored location.kind) := by
      rw [← Kind.accepts_iff, further.accepts_stored, hfits']
    exact ⟨_, object.sameBut_overwrite location _, Location.read_overwrite hrange hholds,
      hlater.onlyStores hsite hobject hhot hfits'⟩

/-- The general site of the sample takes a second object along to the shape on which a float left the
first one. It is then made for both, and a string goes straight to the first one's slot. -/
theorem writes_leave_hot_site_general :
    let session := sample.run [.call 0 .allocate, .call 0 (.set 0 ⟨1⟩ (.int 5)),
      .call 0 (.set 0 ⟨0⟩ (.float ⟨1⟩))]
    let later := session.next (.call 0 (.set 0 ⟨1⟩ (.int 3)))
    (∃ space, later.spaces[0]? = some space ∧
      later.step (.call 0 (.set 0 ⟨1⟩ (.int 3))) =
        .ok (later.withSpace 0 (space.observe (.written .object .generic)), .set (.ok ()))) ∧
    ∃ stored, Location.read ⟨.object, 0⟩ stored = .ok (.str "a") ∧
      later.OnlyStores 0 0 ⟨0⟩ (.boxed (.str "a")) ⟨.object, 0⟩ stored := by
  intro session later
  have hreachable : session.Reachable := sample_reachable.run _
  have hstep : session.step (.call 0 (.set 0 ⟨1⟩ (.int 3))) = .ok (later, .set (.ok ())) := by rfl
  obtain ⟨space, site, changed, location, hspace, hsite, hchanged, hhot, _, hagain, hstores⟩ :=
    writes_leave_hot_site hreachable hstep
  cases hspace
  cases hsite
  cases hchanged
  cases hhot.location
  refine ⟨⟨_, rfl, hagain⟩, ?_⟩
  obtain ⟨stored, _, hread, honly⟩ :=
    hstores 0 ⟨0⟩ _ (.boxed (.str "a")) rfl rfl (Or.inl (Or.inl rfl))
  exact ⟨stored, hread, honly⟩

end Session

end ShapedObjects
