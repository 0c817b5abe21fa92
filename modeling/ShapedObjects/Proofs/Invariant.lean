import ShapedObjects.Proofs.Assignment
import ShapedObjects.Proofs.Loading
import ShapedObjects.Proofs.Sessions

/-!
# What every reachable session keeps

What a cache holds was true of some object on some space at some time. It can be relied
on later and elsewhere because a shape never changes and two spaces share no shape. This
file states that as an invariant of a session, shows that every action keeps it, and so
gets it for every session that can be reached.
-/

namespace ShapedObjects

namespace Session

/-- The pairs that a cache may hold: a shape that some space has issued, and the slot of an
attribute there. -/
def Records (session : Session) (name : NameId) (shape : Shape) (location : Location) : Prop :=
  (∃ space ∈ session.spaces, shape ∈ space.registry.shapes) ∧ shape.location? name = some location

/-- The invariant of a session. -/
structure WellFormed (session : Session) : Prop where
  /-- The registry of a space has the position of the space as its serial number. -/
  serials : ∀ (index : Nat) (space : Space), session.spaces[index]? = some space →
    space.registry.serial = index
  /-- All spaces are well-formed. -/
  spaces : ∀ space ∈ session.spaces, space.WellFormed
  /-- Whatever a set site has cached is so on some space. -/
  setSites : ∀ site ∈ session.setSites, ∀ shape node, site.cache = some (shape, node) →
    session.Records site.name shape node.location
  /-- Whatever a get site has cached is so on some space. -/
  getSites : ∀ site ∈ session.getSites, ∀ shape node, site.cache = some (shape, node) →
    session.Records site.name shape node.location

/-- At the start there is nothing to rely on but the serial numbers. -/
theorem wellFormed_start (setups : List (Tracker × Tracer)) : (start setups).WellFormed where
  serials := by
    intro index space hspace
    rw [start, List.getElem?_mapIdx, Option.map_eq_some_iff] at hspace
    obtain ⟨setup, _, rfl⟩ := hspace
    rfl
  spaces := by
    intro space hspace
    obtain ⟨index, _, rfl⟩ := List.mem_mapIdx.mp hspace
    exact Space.wellFormed_new _ _ _
  setSites := by simp [start]
  getSites := by simp [start]

section Changes

variable {session : Session} {index : Nat} {space after : Space}

/-- What a cache holds stays true when a registry grows. -/
theorem Records.withSpace {name : NameId} {shape : Shape} {location : Location}
    (h : session.Records name shape location) (hspace : session.spaces[index]? = some space)
    (hgrown : space.registry.Extends after.registry) :
    (session.withSpace index after).Records name shape location := by
  obtain ⟨⟨other, hother, hissued⟩, hlocation⟩ := h
  obtain ⟨position, hposition⟩ := List.mem_iff_getElem?.mp hother
  refine ⟨?_, hlocation⟩
  by_cases heq : index = position
  · subst heq
    cases hspace.symm.trans hposition
    obtain ⟨hlt, _⟩ := List.getElem?_eq_some_iff.mp hspace
    exact ⟨after, List.mem_set hlt after, hgrown.shapes.subset hissued⟩
  · refine ⟨other, List.mem_of_getElem? (i := position) ?_, hissued⟩
    exact (spaces_withSpace_of_ne heq after).trans hposition

/-- A space may be replaced by a later state of itself. -/
theorem WellFormed.withSpace (h : session.WellFormed)
    (hspace : session.spaces[index]? = some space)
    (hgrown : space.registry.Extends after.registry) (hafter : after.WellFormed) :
    (session.withSpace index after).WellFormed where
  serials := by
    intro position other hother
    by_cases heq : index = position
    · subst heq
      cases (spaces_withSpace_self hspace after).symm.trans hother
      rw [hgrown.serial, h.serials index space hspace]
    · rw [spaces_withSpace_of_ne heq] at hother
      exact h.serials position other hother
  spaces := by
    intro other hother
    rcases List.mem_or_eq_of_mem_set hother with hold | rfl
    · exact h.spaces other hold
    · exact hafter
  setSites := fun site hsite shape node hcache =>
    (h.setSites site hsite shape node hcache).withSpace hspace hgrown
  getSites := fun site hsite shape node hcache =>
    (h.getSites site hsite shape node hcache).withSpace hspace hgrown

/-- One set site may be replaced, or one more set site created, if its cache is right. -/
theorem WellFormed.withSetSites (h : session.WellFormed) {sites : List SetSite} (site : SetSite)
    (hsites : ∀ other ∈ sites, other ∈ session.setSites ∨ other = site)
    (hsite : ∀ shape node, site.cache = some (shape, node) →
      session.Records site.name shape node.location) :
    ({ session with setSites := sites }).WellFormed where
  serials := h.serials
  spaces := h.spaces
  setSites := by
    intro other hother
    rcases hsites other hother with hold | rfl
    · exact h.setSites other hold
    · exact hsite
  getSites := h.getSites

/-- One get site may be replaced, or one more get site created, if its cache is right. -/
theorem WellFormed.withGetSites (h : session.WellFormed) {sites : List GetSite} (site : GetSite)
    (hsites : ∀ other ∈ sites, other ∈ session.getSites ∨ other = site)
    (hsite : ∀ shape node, site.cache = some (shape, node) →
      session.Records site.name shape node.location) :
    ({ session with getSites := sites }).WellFormed where
  serials := h.serials
  spaces := h.spaces
  setSites := h.setSites
  getSites := by
    intro other hother
    rcases hsites other hother with hold | rfl
    · exact h.getSites other hold
    · exact hsite

end Changes

section Reliability

variable {session : Session} {index : Nat} {space : Space} {shape : Shape}

/-- A recorded shape that passes for an issued one is that shape. Both were issued by one registry,
since registries are told apart by their serial numbers, and have one number there. -/
theorem WellFormed.reliable (h : session.WellFormed) (hspace : session.spaces[index]? = some space)
    (hshape : shape ∈ space.registry.shapes) {name : NameId} {cached : Shape}
    {location : Location} (hrecords : session.Records name cached location)
    (hsame : cached.same shape = true) :
    cached = shape ∧ shape.location? name = some location := by
  obtain ⟨⟨other, hother, hissued⟩, hlocation⟩ := hrecords
  obtain ⟨position, hposition⟩ := List.mem_iff_getElem?.mp hother
  obtain ⟨hregistry, hid⟩ := Bool.and_eq_true_iff.mp hsame
  have hwell := h.spaces space (List.mem_of_getElem? hspace)
  have heq : position = index := by
    rw [← h.serials position other hposition, ← h.serials index space hspace,
      ← (h.spaces other hother).registry.registry_eq hissued, ← hwell.registry.registry_eq hshape]
    exact of_decide_eq_true hregistry
  subst heq
  cases hspace.symm.trans hposition
  obtain rfl := hwell.registry.eq_of_id_eq hissued hshape (of_decide_eq_true hid)
  exact ⟨rfl, hlocation⟩

/-- The cache of every set site can be relied on for every issued shape. -/
theorem WellFormed.setSite_reliable (h : session.WellFormed) {site : SetSite}
    (hsite : site ∈ session.setSites) (hspace : session.spaces[index]? = some space)
    (hshape : shape ∈ space.registry.shapes) : site.Reliable shape := by
  intro cached node hcache hsame
  exact h.reliable hspace hshape (h.setSites site hsite cached node hcache) hsame

/-- The cache of every get site can be relied on for every issued shape. -/
theorem WellFormed.getSite_reliable (h : session.WellFormed) {site : GetSite}
    (hsite : site ∈ session.getSites) (hspace : session.spaces[index]? = some space)
    (hshape : shape ∈ space.registry.shapes) : site.Reliable shape := by
  intro cached node hcache hsame
  exact h.reliable hspace hshape (h.getSites site hsite cached node hcache) hsame

end Reliability

section Calls

variable {session : Session} {index position : Nat} {space : Space} {target : HeapId}
  {object : Object}

/-- A call through any set site on any allocated object returns, and either assigns the value or
is refused by the slot limit. -/
theorem WellFormed.exists_assignment (h : session.WellFormed)
    (hspace : session.spaces[index]? = some space) {site : SetSite}
    (hsite : session.setSites[position]? = some site)
    (hobject : space.heap.object? target = some object) (write : Write) :
    ∃ outcome, site.execute space target write = .ok outcome ∧
      (site.Succeeds space target object write outcome ∨
        ∃ refusal, site.Refuses space object refusal outcome) := by
  have hwell := h.spaces space (List.mem_of_getElem? hspace)
  have hreliable := h.setSite_reliable (List.mem_of_getElem? hsite) hspace
    (hwell.of_object? hobject).1
  obtain ⟨outcome, hexecute, hassigns⟩ := SetSite.exists_assigns hwell hobject hreliable write
  exact ⟨outcome, hexecute, hassigns.succeeds_or_refuses hwell hobject hreliable⟩

/-- A call through a set site that returned has assigned the value or was refused by the slot
limit. -/
theorem WellFormed.succeeds_or_refuses (h : session.WellFormed)
    (hspace : session.spaces[index]? = some space) {site : SetSite}
    (hsite : session.setSites[position]? = some site)
    (hobject : space.heap.object? target = some object) {write : Write}
    {outcome : Outcome SetSite Unit}
    (hexecute : site.execute space target write = .ok outcome) :
    site.Succeeds space target object write outcome ∨
      ∃ refusal, site.Refuses space object refusal outcome := by
  obtain ⟨outcome', hexecute', hcase⟩ := h.exists_assignment hspace hsite hobject write
  cases hexecute.symm.trans hexecute'
  exact hcase

/-- An assignment that is answered without an error has succeeded. -/
theorem WellFormed.succeeds_of_step (h : session.WellFormed) {site : SetSite}
    (hsite : session.setSites[position]? = some site)
    (hobject : session.object? index target = some object) {write : Write} {later : Session}
    (hstep : session.step (.call index (.set position target write)) = .ok (later, .set (.ok ()))) :
    ∃ space outcome, session.spaces[index]? = some space ∧
      space.heap.object? target = some object ∧ site.Succeeds space target object write outcome ∧
      later = { session.withSpace index outcome.space with
        setSites := session.setSites.set position outcome.site } := by
  obtain ⟨space, site', outcome, hspace, hsite', hexecute, hreply, hlater⟩ :=
    assigned_of_step hstep
  cases hsite.symm.trans hsite'
  rw [object?_of_space hspace] at hobject
  refine ⟨space, outcome, hspace, hobject, ?_, hlater⟩
  rcases h.succeeds_or_refuses hspace hsite hobject hexecute with hsucceeds | ⟨_, hrefuses⟩
  · exact hsucceeds
  · rw [hrefuses.result] at hreply
    cases hreply

/-- A call through a get site that returned has gone one of the listed ways. -/
theorem WellFormed.loads (h : session.WellFormed) (hspace : session.spaces[index]? = some space)
    {site : GetSite} (hsite : session.getSites[position]? = some site)
    (hobject : space.heap.object? target = some object) {load : Load}
    {outcome : Outcome GetSite Loaded}
    (hexecute : site.execute space target load = .ok outcome) :
    site.Loads space object load outcome := by
  have hwell := h.spaces space (List.mem_of_getElem? hspace)
  have hreliable := h.getSite_reliable (List.mem_of_getElem? hsite) hspace
    (hwell.of_object? hobject).1
  exact GetSite.loads_of_execute hwell hobject hreliable hexecute

/-- After a call through a set site the space has grown and is well-formed, and the site has
cached nothing wrong. -/
theorem WellFormed.assigned (h : session.WellFormed)
    (hspace : session.spaces[index]? = some space) {site : SetSite}
    (hsite : session.setSites[position]? = some site) {write : Write}
    {outcome : Outcome SetSite Unit}
    (hexecute : site.execute space target write = .ok outcome) :
    space.registry.Extends outcome.space.registry ∧ outcome.space.WellFormed ∧
      ∀ shape node, outcome.site.cache = some (shape, node) →
        (session.withSpace index outcome.space).Records outcome.site.name shape node.location := by
  obtain ⟨object, hobject⟩ := SetSite.object?_of_execute hexecute
  rcases h.succeeds_or_refuses hspace hsite hobject hexecute with hsucceeds | ⟨refusal, hrefuses⟩
  · obtain ⟨changed, node, hcaching, _, hequips, _⟩ := hsucceeds
    refine ⟨hequips.registry, hequips.wellFormed, ?_⟩
    rw [hcaching]
    intro shape node' hcache
    cases hcache
    obtain ⟨hlt, _⟩ := List.getElem?_eq_some_iff.mp hspace
    have hissued := (hequips.wellFormed.of_object? (hequips.object? hobject)).1
    exact ⟨⟨outcome.space, List.mem_set hlt outcome.space, hissued⟩, hequips.location⟩
  · refine ⟨hrefuses.grown, hrefuses.wellFormed, ?_⟩
    rw [hrefuses.kept]
    intro shape node hcache
    exact (h.setSites site (List.mem_of_getElem? hsite) shape node hcache).withSpace hspace
      hrefuses.grown

/-- After a call through a get site the space is well-formed with the registry that it had, and
the site has cached nothing wrong. -/
theorem WellFormed.loaded (h : session.WellFormed) (hspace : session.spaces[index]? = some space)
    {site : GetSite} (hsite : session.getSites[position]? = some site) {load : Load}
    {outcome : Outcome GetSite Loaded}
    (hexecute : site.execute space target load = .ok outcome) :
    outcome.space.registry = space.registry ∧ outcome.space.WellFormed ∧
      ∀ shape node, outcome.site.cache = some (shape, node) →
        (session.withSpace index outcome.space).Records outcome.site.name shape node.location := by
  obtain ⟨object, hobject⟩ := GetSite.object?_of_execute hexecute
  have hwell := h.spaces space (List.mem_of_getElem? hspace)
  have hkept : ∀ shape node, site.cache = some (shape, node) →
      (session.withSpace index space).Records site.name shape node.location := by
    intro shape node hcache
    exact (h.getSites site (List.mem_of_getElem? hsite) shape node hcache).withSpace hspace
      (.refl _)
  cases h.loads hspace hsite hobject hexecute with
  | hit => exact ⟨rfl, hwell, hkept⟩
  | missing => exact ⟨rfl, hwell, hkept⟩
  | found hlocation =>
    refine ⟨rfl, hwell.observe _, ?_⟩
    intro shape node hcache
    cases hcache
    obtain ⟨hlt, _⟩ := List.getElem?_eq_some_iff.mp hspace
    exact ⟨⟨_, List.mem_set hlt _, (hwell.of_object? hobject).1⟩, hlocation⟩

end Calls

section Runs

variable {session later : Session} {action : Action} {reply : Reply}

/-- Every step keeps the invariant. -/
theorem Steps.wellFormed (hsteps : session.Steps action later reply) (h : session.WellFormed) :
    later.WellFormed := by
  cases hsteps with
  | interned name hspace =>
    have hwell := h.spaces _ (List.mem_of_getElem? hspace)
    exact h.withSpace hspace (.refl _) ⟨hwell.registry, hwell.objects⟩
  | allocated hspace =>
    exact h.withSpace hspace (.refl _) (h.spaces _ (List.mem_of_getElem? hspace)).allocate
  | observed event hspace =>
    exact h.withSpace hspace (.refl _) ((h.spaces _ (List.mem_of_getElem? hspace)).observe event)
  | assigned hspace hsite hexecute =>
    obtain ⟨hgrown, hwell, hcache⟩ := h.assigned hspace hsite hexecute
    exact (h.withSpace hspace hgrown hwell).withSetSites _
      (fun _ hother => List.mem_or_eq_of_mem_set hother) hcache
  | loaded hspace hsite hexecute =>
    obtain ⟨hregistry, hwell, hcache⟩ := h.loaded hspace hsite hexecute
    exact (h.withSpace hspace (hregistry ▸ .refl _) hwell).withGetSites _
      (fun _ hother => List.mem_or_eq_of_mem_set hother) hcache
  | newSetSite name =>
    apply h.withSetSites (.new name)
    · simp
    · intro shape node hcache
      cases hcache
  | newGetSite name =>
    apply h.withGetSites (.new name)
    · simp
    · intro shape node hcache
      cases hcache
  | @copySetSite position site hsite =>
    refine h.withSetSites site ?_ (h.setSites site (List.mem_of_getElem? hsite))
    simp
  | @copyGetSite position site hsite =>
    refine h.withGetSites site ?_ (h.getSites site (List.mem_of_getElem? hsite))
    simp

/-- Every action keeps the invariant, also one that faults. -/
theorem WellFormed.next (h : session.WellFormed) (action : Action) :
    (session.next action).WellFormed := by
  rcases session.next_cases action with ⟨later, reply, hstep, hnext⟩ | ⟨_, _, hnext⟩
  · rw [hnext]
    exact (steps_of_step hstep).wellFormed h
  · rw [hnext]
    exact h

/-- Every run keeps the invariant. -/
theorem WellFormed.run (h : session.WellFormed) (actions : List Action) :
    (session.run actions).WellFormed := by
  induction actions generalizing session with
  | nil => exact h
  | cons action actions ih => exact ih (h.next action)

/-- All reachable sessions are well-formed. -/
theorem Reachable.wellFormed (h : session.Reachable) : session.WellFormed := by
  obtain ⟨setups, actions, rfl⟩ := h
  exact (wellFormed_start setups).run actions

end Runs

end Session

end ShapedObjects
