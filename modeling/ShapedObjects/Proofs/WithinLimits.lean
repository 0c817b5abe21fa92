import ShapedObjects.Proofs.Statistics

/-!
# Limits over whole runs

A tracker that was given limits counts the objects as they are allocated, and is asked before
an object gains a slot. Nothing asks it when an attribute is boxed, and nothing need: boxing
moves slots from one storage area to the other and leaves their number. So in every reachable
state the limits are held to, and only what would exceed one of them is refused.
-/

namespace ShapedObjects

/-- A heap whose tracker was given some limits and has held to them. -/
structure Heap.Within (heap : Heap) (limits : Limits) : Prop where
  /-- The tracker has counted the objects that there are. -/
  counted : heap.tracker = .limited ⟨limits, heap.size⟩
  /-- There are no more objects than allowed. -/
  allocations : ∀ limit, limits.maxAllocations = some limit → heap.size ≤ limit
  /-- No object is on a shape with more slots than allowed. -/
  slots : ∀ limit, limits.maxSlotsPerObject = some limit →
    ∀ object ∈ heap.objects, object.shape.layout.slotCount ≤ limit

/-- An object without slots has not too many. -/
theorem Tracker.checkSlots_zero (tracker : Tracker) : tracker.checkSlots 0 = .ok () := by
  cases tracker with
  | unlimited => rfl
  | limited tracker =>
    rw [checkSlots, LimitedTracker.checkSlots]
    split
    · rw [if_neg (Nat.not_lt_zero _)]
    · rfl

namespace Heap

variable {heap : Heap} {limits : Limits}

/-- A new heap holds to every limit. -/
theorem within_new (limits : Limits) : (new (.limited (.new limits))).Within limits where
  counted := rfl
  allocations := fun _ _ => Nat.zero_le _
  slots := by
    intro limit _ object hobject
    cases hobject

/-- As long as the limit is not reached there are fewer objects than allowed. -/
theorem Within.size_lt (h : heap.Within limits) (hbelow : limits.maxAllocations ≠ some heap.size)
    {limit : Nat} (hmax : limits.maxAllocations = some limit) : heap.size < limit := by
  have hle := h.allocations limit hmax
  have hne : heap.size ≠ limit := fun heq => hbelow (heq ▸ hmax)
  omega

/-- The tracker refuses an allocation when the limit is reached. -/
theorem Within.tracker_refuses (h : heap.Within limits)
    (hreached : limits.maxAllocations = some heap.size) :
    heap.tracker.allocate = .error (.allocation heap.size (heap.size + 1)) := by
  rw [h.counted, Tracker.allocate, LimitedTracker.allocate]
  simp only [hreached, Nat.le_refl, if_true]
  rfl

/-- The tracker counts every other allocation. -/
theorem Within.tracker_counts (h : heap.Within limits)
    (hbelow : limits.maxAllocations ≠ some heap.size) :
    heap.tracker.allocate = .ok (.limited ⟨limits, heap.size + 1⟩) := by
  rw [h.counted, Tracker.allocate, LimitedTracker.allocate]
  cases hmax : limits.maxAllocations with
  | none => rfl
  | some limit =>
    have hlt := h.size_lt hbelow hmax
    simp only [if_neg (Nat.not_le.mpr hlt)]
    rfl

/-- An object without slots is refused exactly if the limit of allocations is reached. -/
theorem Within.allocate_cases (h : heap.Within limits) {shape : Shape}
    (hempty : shape.layout.slotCount = 0) :
    limits.maxAllocations = some heap.size ∧
        heap.allocate shape = (heap, .error (.allocation heap.size (heap.size + 1))) ∨
      limits.maxAllocations ≠ some heap.size ∧
        heap.allocate shape = (⟨heap.objects ++ [.new shape],
          .limited ⟨limits, heap.size + 1⟩⟩, .ok ⟨heap.size⟩) := by
  by_cases hreached : limits.maxAllocations = some heap.size
  · refine Or.inl ⟨hreached, ?_⟩
    simp only [Heap.allocate, h.tracker_refuses hreached]
  · refine Or.inr ⟨hreached, ?_⟩
    simp only [Heap.allocate, h.tracker_counts hreached, hempty, Tracker.checkSlots_zero]
    rfl

/-- With an object behind all others there is one object more. -/
theorem size_append (heap : Heap) (object : Object) (tracker : Tracker) :
    Heap.size ⟨heap.objects ++ [object], tracker⟩ = heap.size + 1 :=
  List.length_append

/-- An allocation that is counted and not refused holds to the limits. -/
theorem Within.append (h : heap.Within limits) (hbelow : limits.maxAllocations ≠ some heap.size)
    {object : Object} (hempty : object.shape.layout.slotCount = 0) :
    Heap.Within ⟨heap.objects ++ [object], .limited ⟨limits, heap.size + 1⟩⟩ limits where
  counted := by rw [size_append]
  allocations := by
    intro limit hmax
    rw [size_append]
    exact h.size_lt hbelow hmax
  slots := by
    intro limit hmax other hother
    rcases List.mem_append.mp hother with hold | hnew
    · exact h.slots limit hmax other hold
    · obtain rfl := List.mem_singleton.mp hnew
      exact hempty ▸ Nat.zero_le limit

/-- Allocating an object without slots holds to the limits. -/
theorem Within.allocate (h : heap.Within limits) {shape : Shape}
    (hempty : shape.layout.slotCount = 0) : (heap.allocate shape).1.Within limits := by
  rcases h.allocate_cases hempty with ⟨_, hrefused⟩ | ⟨hbelow, hallocated⟩
  · rw [hrefused]
    exact h
  · rw [hallocated]
    exact h.append hbelow hempty

/-- There are as many objects as before when one of them is replaced. -/
theorem size_put (heap : Heap) (target : HeapId) (object : Object) :
    (heap.put target object).size = heap.size :=
  List.length_set

/-- An object may be replaced by one that has no more slots than allowed. -/
theorem Within.put (h : heap.Within limits) {target : HeapId} {changed : Object}
    (hchanged : ∀ limit, limits.maxSlotsPerObject = some limit →
      changed.shape.layout.slotCount ≤ limit) : (heap.put target changed).Within limits where
  counted := by
    rw [size_put]
    exact h.counted
  allocations := by
    rw [size_put]
    exact h.allocations
  slots := by
    intro limit hmax object hobject
    rcases List.mem_or_eq_of_mem_set hobject with hold | rfl
    · exact h.slots limit hmax object hold
    · exact hchanged limit hmax

/-- Moving an object to a shape that stores its attributes elsewhere does not depend on the
tracker. -/
theorem migrateObject_withTracker (heap : Heap) (tracker : Tracker) (target : HeapId)
    (shape : Shape) :
    ({ heap with tracker := tracker }).migrateObject target shape =
      (heap.migrateObject target shape).map fun later => { later with tracker := tracker } := by
  have hget : ({ heap with tracker := tracker }).getToChange target = heap.getToChange target := rfl
  unfold migrateObject
  rw [hget]
  cases heap.getToChange target with
  | error fault => rfl
  | ok object =>
    cases hmigrate : object.migrate shape with
    | error fault => simp [bind, Except.bind, Except.map, hmigrate]
    | ok migrated => simp [bind, Except.bind, Except.map, hmigrate, pure, Except.pure, Heap.put]

end Heap

/-- Where the limits are held to, an allocation is refused exactly if there are as many objects as
allowed, and then nothing changes. -/
theorem Space.allocate_refused_iff {space : Space} {limits : Limits}
    (h : space.heap.Within limits) :
    ((∃ error, space.allocate.2 = .error error) ↔ limits.maxAllocations = some space.heap.size) ∧
      ∀ error, space.allocate.2 = .error error → space.allocate.1 = space := by
  have hempty : space.registry.root.layout.slotCount = 0 := rfl
  rw [allocate]
  rcases h.allocate_cases hempty with ⟨hreached, hrefused⟩ | ⟨hbelow, hallocated⟩
  · rw [hrefused]
    exact ⟨iff_of_true ⟨_, rfl⟩ hreached, fun _ _ => rfl⟩
  · rw [hallocated]
    have hok : ∀ error : CallError, Except.ok (⟨space.heap.size⟩ : HeapId) ≠ .error error :=
      fun _ herror => by cases herror
    exact ⟨iff_of_false (fun ⟨error, herror⟩ => hok error herror) hbelow,
      fun error herror => absurd herror (hok error)⟩

namespace SetSite

variable {site : SetSite} {space : Space} {target : HeapId} {object : Object} {write : Write}
  {effect : Effect}

/-- An assignment leaves an object with as many slots as it had, or with a number of slots that the
tracker has allowed. -/
theorem Performs.slots
    (hperforms : site.Performs space.heap space.registry target object write effect)
    (h : space.WellFormed) (hobject : space.heap.object? target = some object) {changed : Object}
    (hheap : effect.heap = space.heap.put target changed) :
    changed.shape.layout.slotCount = object.shape.layout.slotCount ∨
      space.heap.tracker.checkSlots changed.shape.layout.slotCount = .ok () := by
  cases hperforms with
  | stored =>
    obtain rfl := Heap.eq_of_put_eq hobject hheap
    rw [Object.overwrite_shape]
    exact Or.inl rfl
  | boxed hlocation hkind hgeneralize hmigrate =>
    obtain rfl := Heap.eq_of_put_eq hobject hheap
    have hprimitive := ne_object_of_ne_kindAfter hlocation hkind
    have htakes := boxed_takes h hobject hlocation hprimitive hgeneralize
    obtain ⟨_, hshape⟩ := boxed_slot h hobject hlocation hprimitive hgeneralize hmigrate
    rw [Object.overwrite_shape, hshape]
    exact Or.inl (htakes.leads.slots (h.of_object? hobject).2.packed).1
  | added _ _ hslots =>
    obtain rfl := Heap.eq_of_put_eq hobject hheap
    rw [Object.overwrite_shape]
    exact Or.inr hslots
  | refused =>
    obtain rfl := Heap.eq_of_put_eq hobject ((Heap.put_object? hobject).trans hheap)
    exact Or.inl rfl

/-- An assignment to an attribute that the object has is never refused. -/
theorem Performs.result_of_location? {heap : Heap} {registry : Registry}
    (hperforms : site.Performs heap registry target object write effect)
    (hlocation : (object.shape.location? site.name).isSome) : effect.result = .ok () := by
  cases hperforms with
  | stored | boxed | added => rfl
  | refused habsent =>
    rw [habsent] at hlocation
    cases hlocation

end SetSite

/-- Whatever is done on a space holds to the limits of its tracker. -/
theorem Space.Works.within {space after : Space} {limits : Limits} (hworks : space.Works after)
    (h : space.WellFormed) (hwithin : space.heap.Within limits) : after.heap.Within limits := by
  cases hworks with
  | kept | interned | loaded => exact hwithin
  | allocated => exact hwithin.allocate rfl
  | @assigned site target object write effect hobject hperforms =>
    obtain ⟨changed, hheap⟩ := hperforms.heap_eq hobject
    change effect.heap.Within limits
    rw [hheap]
    refine hwithin.put fun limit hmax => ?_
    rcases hperforms.slots h hobject hheap with hsame | hallowed
    · rw [hsame]
      exact hwithin.slots limit hmax object (Heap.mem_of_object? hobject)
    · rw [hwithin.counted] at hallowed
      simpa [Tracker.checkSlots, LimitedTracker.checkSlots, hmax] using hallowed

namespace Session

variable {session : Session} {setups : List (Tracker × Tracer)} {actions : List Action}
  {index position : Nat} {limits : Limits} {tracer : Tracer} {space : Space}

/-- A space that starts with limits holds to them in every run. -/
theorem run_within (hsetup : setups[index]? = some (.limited (.new limits), tracer))
    (hspace : ((start setups).run actions).spaces[index]? = some space) :
    space.heap.Within limits := by
  have hworks : ∀ space after : Space, space.WellFormed → space.Works after →
      space.heap.Within limits → after.heap.Within limits :=
    fun _ _ hwell hworks => hworks.within hwell
  obtain ⟨first, hfirst, hkept⟩ := (wellFormed_start setups).run_keeps hworks actions
    (fun _ _ _ hwithin => hwithin) hspace
  obtain ⟨setup, hsetup', rfl⟩ := spaces_start hfirst
  cases hsetup.symm.trans hsetup'
  exact hkept (Heap.within_new limits)

/-- An assignment to an allocated object is answered with what it comes to. -/
theorem WellFormed.step_set (h : session.WellFormed) (hspace : session.spaces[index]? = some space)
    {site : SetSite} (hsite : session.setSites[position]? = some site) {target : HeapId}
    {object : Object} (hobject : space.heap.object? target = some object) (write : Write) :
    ∃ effect, site.Performs space.heap space.registry target object write effect ∧
      session.step (.call index (.set position target write)) =
        .ok ({ session.withSpace index (effect.outcome space).space with
          setSites := session.setSites.set position effect.site }, .set effect.result) := by
  obtain ⟨effect, hperforms, _, hexecute, _⟩ :=
    h.exists_effect hspace (List.mem_of_getElem? hsite) hobject write
  exact ⟨effect, hperforms, (Steps.assigned hspace hsite hexecute).step_eq⟩

/-- A space that starts with limits holds to them over every run: the tracker counts the objects
that there are, which are no more than allowed, and no object has more slots than allowed,
although boxing an attribute does not ask the tracker. An allocation is refused exactly if the
limit is reached, and then changes nothing. An assignment to an attribute that the object has is
never refused. -/
theorem limits_hold (hsetup : setups[index]? = some (.limited (.new limits), tracer))
    (hspace : ((start setups).run actions).spaces[index]? = some space) :
    (space.heap.stats.trackerAllocations = some space.heap.stats.liveObjects ∧
      ∀ limit, limits.maxAllocations = some limit → space.heap.stats.liveObjects ≤ limit) ∧
    ((∀ limit, limits.maxSlotsPerObject = some limit → ∀ object ∈ space.heap.objects,
        object.words.length + object.slots.length ≤ limit) ∧
      ∀ tracker target shape, ({ space.heap with tracker := tracker }).migrateObject target shape =
        (space.heap.migrateObject target shape).map fun heap => { heap with tracker := tracker }) ∧
    (∃ later result,
      ((start setups).run actions).step (.call index .allocate) = .ok (later, .allocated result) ∧
      ((∃ error, result = .error error) ↔
        limits.maxAllocations = some space.heap.stats.liveObjects) ∧
      ∀ error, result = .error error → later = (start setups).run actions) ∧
    ∀ position site target object write,
      ((start setups).run actions).setSites[position]? = some site →
      space.heap.object? target = some object →
      (object.shape.location? site.name).isSome →
      ∃ later, ((start setups).run actions).step (.call index (.set position target write)) =
        .ok (later, .set (.ok ())) := by
  have hwell := (wellFormed_start setups).run actions
  have hwithin := run_within hsetup hspace
  refine ⟨⟨?_, hwithin.allocations⟩, ⟨?_, space.heap.migrateObject_withTracker⟩,
    ⟨_, _, (Steps.allocated hspace).step_eq, ?_⟩, ?_⟩
  · change space.heap.tracker.allocationCount? = some space.heap.size
    rw [hwithin.counted]
    rfl
  · intro limit hmax object hobject
    have hsized := ((hwell.spaces space (List.mem_of_getElem? hspace)).objects object hobject).2
    rw [hsized.words, hsized.slots]
    exact hwithin.slots limit hmax object hobject
  · obtain ⟨hiff, hunchanged⟩ := Space.allocate_refused_iff hwithin
    refine ⟨hiff, fun error herror => ?_⟩
    rw [hunchanged error herror, withSpace_self hspace]
  · intro position site target object write hsite hobject hlocation
    obtain ⟨effect, hperforms, hstep⟩ := hwell.step_set hspace hsite hobject write
    rw [hperforms.result_of_location? hlocation] at hstep
    exact ⟨_, hstep⟩

/-- One object with one slot is allowed, and that is what there is. The next allocation is refused
and changes nothing, while the integer slot of the object can still be boxed. -/
theorem limits_hold_when_reached :
    let setups : List (Tracker × Tracer) := [(.limited (.new ⟨some 1, some 1⟩), .silent)]
    let actions : List Action :=
      [.call 0 (.intern "x"), .call 0 .allocate, .newSetSite ⟨0⟩, .call 0 (.set 0 ⟨0⟩ (.int 7))]
    let session := (start setups).run actions
    (∃ error, session.step (.call 0 .allocate) = .ok (session, .allocated (.error error))) ∧
      ∃ later, session.step (.call 0 (.set 0 ⟨0⟩ (.float ⟨0⟩))) = .ok (later, .set (.ok ())) := by
  intro setups actions session
  let object : Object := ⟨⟨0, ⟨1⟩, Layout.empty.append ⟨0⟩ .int⟩, [7], []⟩
  have hstate : session.spaces[0]?.map (fun space => (space.heap.size, space.heap.object? ⟨0⟩)) =
      some (1, some object) := by decide
  have hsite : session.setSites[0]? = some ⟨⟨0⟩, some (object.shape, ⟨⟨.int, 0⟩⟩)⟩ := by decide
  obtain ⟨space, hspace, hfound⟩ := Option.map_eq_some_iff.mp hstate
  obtain ⟨hsize, hobject⟩ := Prod.ext_iff.mp hfound
  have hsetup : setups[0]? = some (.limited (.new ⟨some 1, some 1⟩), .silent) := rfl
  obtain ⟨_, _, ⟨later, result, hallocate, hrefused, hunchanged⟩, hassign⟩ :=
    limits_hold hsetup hspace
  obtain ⟨error, rfl⟩ := hrefused.mpr (congrArg some hsize.symm)
  obtain rfl := hunchanged error rfl
  exact ⟨⟨error, hallocate⟩, hassign 0 _ ⟨0⟩ object _ hsite hobject (by decide)⟩

end Session

end ShapedObjects
