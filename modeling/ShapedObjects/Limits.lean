/-!
# Limits

The number of allocations and the number of slots of one object can be limited. A
tracker counts the allocations and refuses what goes beyond a limit. Migrations
are not checked, since they never add a slot.
-/

namespace ShapedObjects

/-- The limits of a heap. An absent limit allows everything. -/
structure Limits where
  /-- How many allocations are allowed. -/
  maxAllocations : Option Nat
  /-- How many slots of both kinds together an object may have. -/
  maxSlotsPerObject : Option Nat
deriving DecidableEq, Repr

/-- A refusal. -/
inductive LimitError where
  /-- The allocation would be number `count`. -/
  | allocation (limit count : Nat)
  /-- An object would have `requested` slots. -/
  | slots (limit requested : Nat)
deriving DecidableEq, Repr

namespace LimitError

/-- The message of a refusal. -/
def message : LimitError → String
  | allocation limit count =>
    "allocation limit exceeded: " ++ toString count ++ " > " ++ toString limit
  | slots limit requested =>
    "attribute slot limit exceeded: " ++ toString requested ++ " > " ++ toString limit

end LimitError

/-- A count of allocations with the limits that it is held to. -/
structure LimitedTracker where
  /-- The limits. -/
  limits : Limits
  /-- How many allocations were counted. -/
  allocationCount : Nat
deriving DecidableEq, Repr

namespace LimitedTracker

/-- A tracker that has counted nothing. -/
def new (limits : Limits) : LimitedTracker := ⟨limits, 0⟩

/-- Counts an allocation, unless the limit is reached. -/
def allocate (tracker : LimitedTracker) : Except LimitError LimitedTracker :=
  match tracker.limits.maxAllocations with
  | some limit =>
    if limit ≤ tracker.allocationCount then
      .error (.allocation limit (tracker.allocationCount + 1))
    else .ok { tracker with allocationCount := tracker.allocationCount + 1 }
  | none => .ok { tracker with allocationCount := tracker.allocationCount + 1 }

/-- Refuses a number of slots beyond the limit. -/
def checkSlots (tracker : LimitedTracker) (count : Nat) : Except LimitError Unit :=
  match tracker.limits.maxSlotsPerObject with
  | some limit => if limit < count then .error (.slots limit count) else .ok ()
  | none => .ok ()

/-- A number of slots is refused if it is beyond the limit. -/
theorem checkSlots_eq_error_iff {tracker : LimitedTracker} {count : Nat} {refusal : LimitError} :
    tracker.checkSlots count = .error refusal ↔
      ∃ limit, tracker.limits.maxSlotsPerObject = some limit ∧ limit < count ∧
        refusal = .slots limit count := by
  unfold checkSlots
  cases tracker.limits.maxSlotsPerObject with
  | none => simp
  | some limit =>
    by_cases hlt : limit < count
    · simp [hlt, eq_comm]
    · simp [hlt]

end LimitedTracker

/-- What a heap asks before it allocates or grows an object. -/
inductive Tracker where
  /-- Counts nothing and allows everything. -/
  | unlimited
  /-- Counts allocations and holds to limits. -/
  | limited (tracker : LimitedTracker)
deriving DecidableEq, Repr

namespace Tracker

/-- The tracker of optional limits. -/
def ofLimits : Option Limits → Tracker
  | some limits => limited (.new limits)
  | none => unlimited

/-- Counts an allocation, unless the limit is reached. -/
def allocate : Tracker → Except LimitError Tracker
  | unlimited => .ok unlimited
  | limited tracker => tracker.allocate.map limited

/-- Refuses a number of slots beyond the limit. -/
def checkSlots : Tracker → Nat → Except LimitError Unit
  | unlimited, _ => .ok ()
  | limited tracker, count => tracker.checkSlots count

/-- Only a tracker with a limit refuses a number of slots, and only one beyond the limit. -/
theorem checkSlots_eq_error_iff {tracker : Tracker} {count : Nat} {refusal : LimitError} :
    tracker.checkSlots count = .error refusal ↔
      ∃ counting limit, tracker = limited counting ∧
        counting.limits.maxSlotsPerObject = some limit ∧ limit < count ∧
        refusal = .slots limit count := by
  cases tracker with
  | unlimited => simp [checkSlots]
  | limited counting => simp [checkSlots, LimitedTracker.checkSlots_eq_error_iff]

/-- How many allocations were counted, if they are counted. -/
def allocationCount? : Tracker → Option Nat
  | unlimited => none
  | limited tracker => some tracker.allocationCount

/-- The limits, if there are any. -/
def limits? : Tracker → Option Limits
  | unlimited => none
  | limited tracker => some tracker.limits

end Tracker

end ShapedObjects
