import ShapedObjects.Proofs.Refusals

/-!
# Refused calls on a heap

A heap refuses an allocation when the limit of allocations is reached, and an allocation or a
growth when the object would have too many slots. A refusal leaves the heap as it is, but for one
case: an allocation is counted before the slots are checked, so an object with too many slots
uses up an allocation although it is never allocated. Objects and such refusals together are
what the tracker counts, and together they are held to the limit.
-/

namespace ShapedObjects

/-- What a heap can be asked for. -/
inductive HeapCall where
  /-- An object of a shape. -/
  | allocate (shape : Shape)
  /-- To move an object to a shape that has more attributes. -/
  | extend (target : HeapId) (shape : Shape)
  /-- To move an object to a shape that stores its attributes elsewhere. -/
  | migrate (target : HeapId) (shape : Shape)
deriving DecidableEq, Repr

/-- The object that a call moves. -/
def HeapCall.target? : HeapCall → Option HeapId
  | .allocate _ => none
  | .extend target _ | .migrate target _ => some target

/-- The result of a check that refuses nothing else. -/
theorem LimitedTracker.checkSlots_cases (tracker : LimitedTracker) (count : Nat) :
    tracker.checkSlots count = .ok () ∨
      ∃ limit, tracker.checkSlots count = .error (.slots limit count) := by
  cases hcheck : tracker.checkSlots count with
  | ok _ => exact Or.inl rfl
  | error refusal =>
    obtain ⟨limit, _, _, rfl⟩ := checkSlots_eq_error_iff.mp hcheck
    exact Or.inr ⟨limit, rfl⟩

/-- An allocation is refused exactly if the limit is reached, and counted otherwise. -/
theorem LimitedTracker.allocate_cases (tracker : LimitedTracker) :
    (∃ limit, tracker.limits.maxAllocations = some limit ∧ limit ≤ tracker.allocationCount ∧
      tracker.allocate = .error (.allocation limit (tracker.allocationCount + 1))) ∨
    (∀ limit, tracker.limits.maxAllocations = some limit → tracker.allocationCount < limit) ∧
      tracker.allocate = .ok ⟨tracker.limits, tracker.allocationCount + 1⟩ := by
  unfold allocate
  cases tracker.limits.maxAllocations with
  | none => exact Or.inr ⟨nofun, rfl⟩
  | some limit =>
    by_cases hreached : limit ≤ tracker.allocationCount
    · exact Or.inl ⟨limit, rfl, hreached, if_pos hreached⟩
    · refine Or.inr ⟨?_, if_neg hreached⟩
      rintro _ ⟨⟩
      omega

namespace Heap

/-- The heap after a call, and the refusal if there is one. A call that faults changes nothing. -/
def answer (heap : Heap) : HeapCall → Heap × Option LimitError
  | .allocate shape =>
    match heap.allocate shape with
    | (later, .ok _) => (later, none)
    | (later, .error refusal) => (later, some refusal)
  | .extend target shape =>
    match heap.extendObject target shape with
    | .ok (.ok later) => (later, none)
    | .ok (.error refusal) => (heap, some refusal)
    | .error _ => (heap, none)
  | .migrate target shape =>
    match heap.migrateObject target shape with
    | .ok later => (later, none)
    | .error _ => (heap, none)

/-- The heap after some calls. -/
def answerAll (heap : Heap) (calls : List HeapCall) : Heap :=
  calls.foldl (fun heap call => (heap.answer call).1) heap

/-- Whether a call is an allocation that is refused because of its slots. -/
def isWasted (heap : Heap) : HeapCall → Bool
  | .allocate shape =>
    match (heap.allocate shape).2 with
    | .error (.slots _ _) => true
    | .error (.allocation _ _) | .ok _ => false
  | .extend _ _ | .migrate _ _ => false

/-- How many of some calls are allocations that are refused because of their slots. -/
def wasted (heap : Heap) : List HeapCall → Nat
  | [] => 0
  | call :: calls =>
    (if heap.isWasted call then 1 else 0) + (heap.answer call).1.wasted calls

/-- What a call does to a heap whose tracker holds to limits. -/
inductive Answers (heap : Heap) (tracker : LimitedTracker) : HeapCall → Heap → Option LimitError →
    Bool → Prop
  /-- There is one object more. -/
  | allocated (shape : Shape) :
      (∀ limit, tracker.limits.maxAllocations = some limit → tracker.allocationCount < limit) →
      tracker.checkSlots shape.layout.slotCount = .ok () →
      Answers heap tracker (.allocate shape) ⟨heap.objects ++ [.new shape],
        .limited ⟨tracker.limits, tracker.allocationCount + 1⟩⟩ none false
  /-- The limit of allocations is reached. -/
  | full (shape : Shape) {limit : Nat} :
      tracker.limits.maxAllocations = some limit → limit ≤ tracker.allocationCount →
      Answers heap tracker (.allocate shape) heap
        (some (.allocation limit (tracker.allocationCount + 1))) false
  /-- The object would have too many slots, but the allocation was counted. -/
  | wasted (shape : Shape) {limit : Nat} :
      (∀ limit, tracker.limits.maxAllocations = some limit → tracker.allocationCount < limit) →
      tracker.checkSlots shape.layout.slotCount = .error (.slots limit shape.layout.slotCount) →
      Answers heap tracker (.allocate shape) { heap with
        tracker := .limited ⟨tracker.limits, tracker.allocationCount + 1⟩ }
        (some (.slots limit shape.layout.slotCount)) true
  /-- An object was moved. -/
  | moved {call : HeapCall} {target : HeapId} (object : Object) :
      call.target? = some target →
      Answers heap tracker call (heap.put target object) none false
  /-- The object would have too many slots where it is to grow. -/
  | refused (target : HeapId) (shape : Shape) {limit : Nat} :
      Answers heap tracker (.extend target shape) heap
        (some (.slots limit shape.layout.slotCount)) false
  /-- The call has faulted. -/
  | faulted {call : HeapCall} {target : HeapId} :
      call.target? = some target → Answers heap tracker call heap none false

variable {heap : Heap} {tracker : LimitedTracker}

/-- An allocation is counted if the limit is not reached, and then its slots are checked. -/
theorem answers_allocate (h : heap.tracker = .limited tracker) (shape : Shape) :
    heap.Answers tracker (.allocate shape) (heap.answer (.allocate shape)).1
      (heap.answer (.allocate shape)).2 (heap.isWasted (.allocate shape)) := by
  rcases tracker.allocate_cases with ⟨limit, hmax, hreached, hfull⟩ | ⟨hbelow, hcounted⟩
  · have hallocate : heap.allocate shape =
        (heap, .error (.allocation limit (tracker.allocationCount + 1))) := by
      simp only [Heap.allocate, h, Tracker.allocate, hfull]
      rfl
    simp only [answer, isWasted, hallocate]
    exact .full shape hmax hreached
  · rcases LimitedTracker.checkSlots_cases ⟨tracker.limits, tracker.allocationCount + 1⟩
      shape.layout.slotCount with hslots | ⟨limit, hslots⟩
    · have hallocate : heap.allocate shape = (⟨heap.objects ++ [.new shape],
          .limited ⟨tracker.limits, tracker.allocationCount + 1⟩⟩, .ok ⟨heap.size⟩) := by
        simp only [Heap.allocate, h, Tracker.allocate, hcounted, Except.map,
          Tracker.checkSlots, hslots]
        rfl
      simp only [answer, isWasted, hallocate]
      exact .allocated shape hbelow hslots
    · have hallocate : heap.allocate shape = ({ heap with
          tracker := .limited ⟨tracker.limits, tracker.allocationCount + 1⟩ },
          .error (.slots limit shape.layout.slotCount)) := by
        simp only [Heap.allocate, h, Tracker.allocate, hcounted, Except.map,
          Tracker.checkSlots, hslots]
      simp only [answer, isWasted, hallocate]
      exact .wasted shape hbelow hslots

/-- The slots are checked before the object that is to grow is looked up. -/
theorem answers_extend (h : heap.tracker = .limited tracker) (target : HeapId) (shape : Shape) :
    heap.Answers tracker (.extend target shape) (heap.answer (.extend target shape)).1
      (heap.answer (.extend target shape)).2 (heap.isWasted (.extend target shape)) := by
  rcases tracker.checkSlots_cases shape.layout.slotCount with hslots | ⟨limit, hslots⟩
  · cases hget : heap.getToChange target with
    | error fault =>
      have hextend : heap.extendObject target shape = .error fault := by
        simp only [extendObject, h, Tracker.checkSlots, hslots, hget]
        rfl
      simp only [answer, isWasted, hextend]
      exact .faulted rfl
    | ok object =>
      have hextend : heap.extendObject target shape =
          .ok (.ok (heap.put target (object.extend shape))) := by
        simp only [extendObject, h, Tracker.checkSlots, hslots, hget]
        rfl
      simp only [answer, isWasted, hextend]
      exact .moved _ rfl
  · have hextend : heap.extendObject target shape =
        .ok (.error (.slots limit shape.layout.slotCount)) := by
      simp only [extendObject, h, Tracker.checkSlots, hslots]
    simp only [answer, isWasted, hextend]
    exact .refused target shape

/-- Nothing is checked before a migration. -/
theorem answers_migrate (target : HeapId) (shape : Shape) :
    heap.Answers tracker (.migrate target shape) (heap.answer (.migrate target shape)).1
      (heap.answer (.migrate target shape)).2 (heap.isWasted (.migrate target shape)) := by
  cases hmigrate : heap.migrateObject target shape with
  | error fault =>
    simp only [answer, isWasted, hmigrate]
    exact .faulted rfl
  | ok later =>
    obtain ⟨object, _, hmigrated⟩ := ok_of_bind hmigrate
    obtain ⟨migrated, _, hput⟩ := ok_of_bind hmigrated
    cases hput
    simp only [answer, isWasted, hmigrate]
    exact .moved migrated rfl

/-- Every call does one of these things. -/
theorem answers (h : heap.tracker = .limited tracker) (call : HeapCall) :
    heap.Answers tracker call (heap.answer call).1 (heap.answer call).2 (heap.isWasted call) := by
  cases call with
  | allocate shape => exact answers_allocate h shape
  | extend target shape => exact answers_extend h target shape
  | migrate target shape => exact answers_migrate target shape

/-- A refused call leaves the heap as it is, unless it wastes an allocation. Then the count is the
only thing that changes. -/
theorem answer_of_refused (h : heap.tracker = .limited tracker) {call : HeapCall}
    {refusal : LimitError} (hrefused : (heap.answer call).2 = some refusal) :
    (heap.answer call).1 = if heap.isWasted call then
      { heap with tracker := .limited ⟨tracker.limits, tracker.allocationCount + 1⟩ }
    else heap := by
  have hanswers := answers h call
  generalize (heap.answer call).1 = later at hanswers ⊢
  generalize heap.isWasted call = lost at hanswers ⊢
  rw [hrefused] at hanswers
  cases hanswers with
  | full | wasted | refused => rfl

/-- An allocation succeeds exactly if the limit of allocations is not reached and the shape does not
have too many slots. -/
theorem allocate_isOk_iff (h : heap.tracker = .limited tracker) (shape : Shape) :
    (heap.answer (.allocate shape)).2 = none ↔
      (∀ limit, tracker.limits.maxAllocations = some limit → tracker.allocationCount < limit) ∧
      ∀ limit, tracker.limits.maxSlotsPerObject = some limit →
        shape.layout.slotCount ≤ limit := by
  have hanswers := answers h (.allocate shape)
  generalize (heap.answer (.allocate shape)).1 = later at hanswers
  generalize (heap.answer (.allocate shape)).2 = refusal? at hanswers ⊢
  generalize heap.isWasted (.allocate shape) = lost at hanswers
  cases hanswers with
  | allocated _ hbelow hslots =>
    refine iff_of_true rfl ⟨hbelow, fun limit hlimit => ?_⟩
    by_contra hlt
    have hrefused := LimitedTracker.checkSlots_eq_error_iff.mpr
      ⟨limit, hlimit, Nat.lt_of_not_le hlt, rfl⟩
    cases hslots.symm.trans hrefused
  | full _ hmax hreached =>
    exact iff_of_false nofun fun ⟨hbelow, _⟩ => (hbelow _ hmax).not_ge hreached
  | wasted _ _ hslots =>
    obtain ⟨limit, hmax, hlt, _⟩ := LimitedTracker.checkSlots_eq_error_iff.mp hslots
    exact iff_of_false nofun fun ⟨_, hle⟩ => hlt.not_ge (hle limit hmax)
  | moved _ htarget | faulted htarget => cases htarget

/-- A tracker that counts the objects of its heap and the allocations that were lost, and whose
limit is not passed. -/
structure Counts (heap : Heap) (limits : Limits) (lost : Nat) : Prop where
  /-- The count. -/
  tracker_eq : heap.tracker = .limited ⟨limits, heap.size + lost⟩
  /-- The limit. -/
  within : ∀ limit, limits.maxAllocations = some limit → heap.size + lost ≤ limit

/-- A fresh tracker has counted nothing. -/
theorem Counts.new (limits : Limits) : (Heap.new (.limited (.new limits))).Counts limits 0 :=
  ⟨rfl, fun limit _ => limit.zero_le⟩

/-- A call keeps count. -/
theorem Counts.answer {limits : Limits} {lost : Nat} (h : heap.Counts limits lost)
    (call : HeapCall) :
    (heap.answer call).1.Counts limits (lost + if heap.isWasted call then 1 else 0) := by
  have hanswers := answers h.tracker_eq call
  generalize (heap.answer call).1 = later at hanswers ⊢
  generalize (heap.answer call).2 = refusal? at hanswers
  generalize heap.isWasted call = wasted at hanswers ⊢
  cases hanswers with
  | @allocated shape hbelow =>
    have hcount : (heap.objects ++ [Object.new shape]).length + (lost + 0) =
        heap.size + lost + 1 := by
      rw [List.length_append, List.length_singleton, size]
      omega
    exact ⟨congrArg (fun count => Tracker.limited ⟨limits, count⟩) hcount.symm,
      fun limit hlimit => hcount.trans_le (hbelow limit hlimit)⟩
  | wasted _ hbelow =>
    exact ⟨rfl, fun limit hlimit => hbelow limit hlimit⟩
  | full | refused | faulted => exact h
  | moved => exact ⟨by rw [size_put]; exact h.tracker_eq, by rw [size_put]; exact h.within⟩

/-- Some calls keep count. -/
theorem Counts.answerAll {limits : Limits} {lost : Nat} (h : heap.Counts limits lost)
    (calls : List HeapCall) : (heap.answerAll calls).Counts limits (lost + heap.wasted calls) := by
  induction calls generalizing heap lost with
  | nil => exact h
  | cons call calls ih =>
    have hcalls := ih (h.answer call)
    rwa [Nat.add_assoc] at hcalls

/-- A heap that starts with a fresh tracker counts its objects together with the allocations that
were refused because of their slots, and both together stay within the limit of allocations. An
allocation succeeds exactly if they are below the limit and the shape does not have too many slots.
Any other refused call, of an allocation or of a growth, leaves the heap as it is, and those refused
allocations change nothing but the count. -/
theorem allocations_counted (limits : Limits) (calls : List HeapCall) :
    let fresh := Heap.new (.limited (.new limits))
    let heap := fresh.answerAll calls
    let lost := fresh.wasted calls
    heap.stats.trackerAllocations = some (heap.stats.liveObjects + lost) ∧
      (∀ limit, limits.maxAllocations = some limit → heap.stats.liveObjects + lost ≤ limit) ∧
      (∀ shape : Shape, (heap.answer (.allocate shape)).2 = none ↔
        (∀ limit, limits.maxAllocations = some limit → heap.stats.liveObjects + lost < limit) ∧
        ∀ limit, limits.maxSlotsPerObject = some limit → shape.layout.slotCount ≤ limit) ∧
      ∀ call refusal, (heap.answer call).2 = some refusal →
        (heap.answer call).1 = if heap.isWasted call then
          { heap with tracker := .limited ⟨limits, heap.stats.liveObjects + lost + 1⟩ }
        else heap := by
  intro fresh heap lost
  have hcounts : heap.Counts limits lost := by
    have hrun := (Counts.new limits).answerAll calls
    rwa [Nat.zero_add] at hrun
  have htracker := hcounts.tracker_eq
  exact ⟨congrArg Tracker.allocationCount? htracker, hcounts.within,
    fun shape => allocate_isOk_iff htracker shape,
    fun _ _ hrefused => answer_of_refused htracker hrefused⟩

/-- A heap that may hold one object, but no slot, refuses an object with one attribute. The refusal
uses up the only allocation, so an object without attributes is refused too from then on. -/
theorem refused_allocation_counted :
    let heap := Heap.new (.limited (.new ⟨some 1, some 0⟩))
    let registry := Registry.new 0
    let asked := registry.addAttribute registry.root ⟨0⟩ .int
    let call := HeapCall.allocate asked.2.shape
    let later := (heap.answer call).1
    asked.2.shape ∈ asked.1.shapes ∧ (heap.answer call).2 = some (.slots 0 1) ∧ later ≠ heap ∧
      later.stats.liveObjects = 0 ∧ later.stats.trackerAllocations = some 1 ∧
      (heap.answer (.allocate registry.root)).2 = none ∧
      (later.answer (.allocate registry.root)).2 = some (.allocation 1 2) := by
  decide

end Heap

end ShapedObjects
