import ShapedObjects.Trace.Event

/-!
# The trace log

A log prints one line per event until its limit is reached, and then one notice.
Writes are printed only on request.
-/

namespace ShapedObjects

/-- A log and the lines that it has printed. -/
structure Log where
  /-- Whether writes are printed. -/
  writes : Bool
  /-- How many events are printed at most. -/
  limit : Option Nat
  /-- How many events were printed. -/
  count : Nat
  /-- All printed lines, oldest first. -/
  lines : List String
deriving DecidableEq, Repr

namespace Log

/-- A log that has printed nothing. -/
def new (writes : Bool) (limit : Option Nat) : Log := ⟨writes, limit, 0, []⟩

/-- The last line of a log whose limit is reached. -/
def notice (count : Nat) : String :=
  "--- trace limit reached (" ++ toString count ++ " lines) ---"

/-- Whether no further event is printed. -/
def isFull (log : Log) : Bool := log.limit.any (· ≤ log.count)

/-- Prints a line, and the notice behind the last line that the limit allows. -/
def print (log : Log) (line : String) : Log :=
  if log.isFull then log
  else
    let count := log.count + 1
    let closing := if log.limit = some count then [notice count] else []
    { log with count := count, lines := log.lines ++ line :: closing }

/-- Takes notice of an event. -/
def observe (log : Log) (event : Event) : Log :=
  if event.isWrite && !log.writes then log else log.print event.line

end Log

end ShapedObjects
