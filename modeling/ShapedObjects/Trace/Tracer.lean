import ShapedObjects.Trace.Log
import ShapedObjects.Trace.Profile
import ShapedObjects.Trace.Recorder

/-!
# Tracers

A tracer takes notice of every event in one of four ways: not at all, by a log, by
counting, or by recording. What it learns never comes back to the program.
-/

namespace ShapedObjects

/-- An observer of events. -/
inductive Tracer where
  /-- Ignores every event. -/
  | silent
  /-- Prints events. -/
  | log (log : Log)
  /-- Counts events. -/
  | profile (profile : Profile)
  /-- Keeps events. -/
  | recorder (recorder : Recorder)
deriving DecidableEq, Repr

namespace Tracer

/-- Takes notice of an event. -/
def observe : Tracer → Event → Tracer
  | silent, _ => silent
  | log state, event => log (state.observe event)
  | profile state, event => profile (state.observe event)
  | recorder state, event => recorder (state.observe event)

/-- Takes notice of events in their order. -/
def observeAll (tracer : Tracer) (events : List Event) : Tracer :=
  events.foldl observe tracer

/-- The lines that were printed. Only a log prints. -/
def printed : Tracer → List String
  | log state => state.lines
  | silent | profile _ | recorder _ => []

end Tracer

end ShapedObjects
