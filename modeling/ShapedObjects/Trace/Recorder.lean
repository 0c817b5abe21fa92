import ShapedObjects.Trace.Event

/-!
# The event recorder

A recorder keeps the first events up to its limit. Writes are kept only on
request.
-/

namespace ShapedObjects

/-- A recorder and the events that it keeps. -/
structure Recorder where
  /-- Whether writes are kept. -/
  writes : Bool
  /-- How many events are kept at most. -/
  limit : Option Nat
  /-- The kept events, oldest first. -/
  events : List Event
deriving DecidableEq, Repr

namespace Recorder

/-- A recorder that keeps no event yet. -/
def new (writes : Bool) (limit : Option Nat) : Recorder := ⟨writes, limit, []⟩

/-- Whether no further event is kept. -/
def isFull (recorder : Recorder) : Bool := recorder.limit.any (· ≤ recorder.events.length)

/-- Keeps an event if there is room. -/
def record (recorder : Recorder) (event : Event) : Recorder :=
  if recorder.isFull then recorder
  else { recorder with events := recorder.events ++ [event] }

/-- Takes notice of an event. -/
def observe (recorder : Recorder) (event : Event) : Recorder :=
  if event.isWrite && !recorder.writes then recorder else recorder.record event

end Recorder

end ShapedObjects
