import ShapedObjects.Double.Text
import ShapedObjects.Sum
import ShapedObjects.Trace.Event

/-!
# Write profiles

A profile counts events: the writes by slot kind and path, and the others by what
they are. Its report has one row for each kind that saw a write.
-/

namespace ShapedObjects

/-- Numbers of completed writes. -/
structure WriteCounts where
  /-- Writes that did not box. -/
  fast : Nat
  /-- Writes that boxed. -/
  generic : Nat
deriving DecidableEq, Repr

namespace WriteCounts

/-- No write at all. -/
def none : WriteCounts := ⟨0, 0⟩

/-- All writes together. -/
def total (counts : WriteCounts) : Nat := counts.fast + counts.generic

/-- One more write on a path. -/
def count (counts : WriteCounts) : Path → WriteCounts
  | .fast => { counts with fast := counts.fast + 1 }
  | .generic => { counts with generic := counts.generic + 1 }

/-- The share of writes that did not box, in percent. The share is rounded to a double before
it is multiplied, and the product is rounded again. -/
def percentFast (counts : WriteCounts) : Double :=
  ((Double.ofNat counts.fast).divide (Double.ofNat counts.total)).multiply (Double.ofNat 100)

end WriteCounts

/-- Counters of all events. -/
structure Profile where
  /-- Writes to boxed slots. -/
  object : WriteCounts
  /-- Writes to integer slots. -/
  int : WriteCounts
  /-- Writes to float slots. -/
  float : WriteCounts
  /-- Writes to boolean slots. -/
  boolean : WriteCounts
  /-- Cached nodes. -/
  specializations : Nat
  /-- Refused values. -/
  generalizations : Nat
  /-- Moves of objects between shapes. -/
  transitions : Nat
deriving DecidableEq, Repr

/-- What a profile shows. -/
structure Report where
  /-- The kinds that saw a write, with their numbers of writes. -/
  writes : List (Kind × WriteCounts)
  /-- Number of all writes. -/
  totalWrites : Nat
  /-- Number of cached nodes. -/
  specializations : Nat
  /-- Number of refused values. -/
  generalizations : Nat
  /-- Number of moves of objects between shapes. -/
  transitions : Nat
deriving DecidableEq, Repr

namespace Profile

/-- A profile that has counted nothing. -/
def new : Profile := ⟨.none, .none, .none, .none, 0, 0, 0⟩

/-- The writes to slots of a kind. -/
def writes (profile : Profile) : Kind → WriteCounts
  | .object => profile.object
  | .int => profile.int
  | .float => profile.float
  | .boolean => profile.boolean

/-- Counts a write. -/
def countWrite (profile : Profile) (kind : Kind) (path : Path) : Profile :=
  match kind with
  | .object => { profile with object := profile.object.count path }
  | .int => { profile with int := profile.int.count path }
  | .float => { profile with float := profile.float.count path }
  | .boolean => { profile with boolean := profile.boolean.count path }

/-- Takes notice of an event. -/
def observe (profile : Profile) : Event → Profile
  | .specialized _ _ => { profile with specializations := profile.specializations + 1 }
  | .generalized _ _ => { profile with generalizations := profile.generalizations + 1 }
  | .moved _ _ _ => { profile with transitions := profile.transitions + 1 }
  | .written kind path => profile.countWrite kind path

/-- The report of a profile. -/
def report (profile : Profile) : Report :=
  let rows := (Kind.all.map fun kind => (kind, profile.writes kind)).filter (0 < ·.2.total)
  { writes := rows
    totalWrites := sumOf (·.2.total) rows
    specializations := profile.specializations
    generalizations := profile.generalizations
    transitions := profile.transitions }

end Profile

namespace Report

/-- The line of one kind of slot. -/
def row (kind : Kind) (counts : WriteCounts) : String :=
  "  " ++ alignLeft 10 kind.name ++ " fast=" ++ alignRight 8 (toString counts.fast) ++
    " generic=" ++ alignRight 8 (toString counts.generic) ++ "  (" ++
    alignRight 5 counts.percentFast.oneDecimalText ++ "% fast)"

/-- The lines of a report. -/
def lines (report : Report) : List String :=
  ["=== Storage Profiling Report ===",
    "Total writes:       " ++ toString report.totalWrites,
    "Specializations:    " ++ toString report.specializations,
    "Generalizations:    " ++ toString report.generalizations,
    "Shape transitions:  " ++ toString report.transitions,
    "",
    "--- Writes by kind ---"] ++
  report.writes.map fun entry => row entry.1 entry.2

/-- The text of a report. Every line is ended. -/
def text (report : Report) : String :=
  String.join (report.lines.map (· ++ "\n"))

end Report

end ShapedObjects
