import ShapedObjects.Proofs.SpaceRuns

/-!
# Recorded moves

Whenever an object changes its shape, a call site reports one move, and it reports none
otherwise. A recorder without limit keeps all moves, whether or not it keeps writes. So what a
work does to the shapes of the objects of a space can be read off the moves that are recorded
in its course, and over a whole run the recorded moves add up to the shapes that the objects
are on.
-/

namespace ShapedObjects

/-- A move of an object from one shape to another, as it is reported. -/
structure Move where
  /-- The number of the shape before. -/
  start : ShapeId
  /-- The number of the shape behind. -/
  target : ShapeId
  /-- Why the object moved. -/
  reason : Reason
deriving DecidableEq, Repr

/-- The move that an event reports. -/
def Event.move? : Event → Option Move
  | moved start target reason => some ⟨start, target, reason⟩
  | specialized _ _ | generalized _ _ | written _ _ => none

/-- The moves that are reported by some events. -/
def moves (events : List Event) : List Move := events.filterMap Event.move?

/-- The reason that is given for a step. -/
def Transition.reason : Transition → Reason
  | add _ _ => .addAttribute
  | generalize _ => .generalize

/-- The shapes that the objects of a heap are on. -/
def Heap.shapes (heap : Heap) : List Shape := heap.objects.map Object.shape

/-- How the shapes of the objects of a space may change, with the moves that are reported of it. -/
inductive Space.Shifts (space after : Space) : List Move → Prop
  /-- All objects stay on their shapes. -/
  | same : after.heap.shapes = space.heap.shapes → Shifts space after []
  /-- There is one object more, on the empty shape. -/
  | gained : after.heap.shapes = space.heap.shapes ++ [space.registry.root] → Shifts space after []
  /-- One object took a step. -/
  | moved {index : Nat} {start : Shape} {step : Transition} {reached : Reached} :
      space.heap.shapes[index]? = some start →
      space.registry.Takes start step after.registry reached →
      after.heap.shapes = space.heap.shapes.set index reached.shape →
      Shifts space after [⟨start.id, reached.shape.id, step.reason⟩]

section Events

@[simp] theorem moves_append (first second : List Event) :
    moves (first ++ second) = moves first ++ moves second :=
  List.filterMap_append

/-- Moves are recorded whether or not writes are. -/
@[simp] theorem moves_filter_recordedWith (writes : Bool) (events : List Event) :
    moves (events.filter (·.recordedWith writes)) = moves events := by
  have hwrite : ∀ event : Event, event.recordedWith writes = false → event.move? = none := by
    intro event hskip
    cases event with
    | written => rfl
    | specialized | generalized | moved => simp [Event.recordedWith, Event.isWrite] at hskip
  rw [moves, List.filterMap_filter]
  refine List.filterMap_congr fun event _ => ?_
  cases hkeep : event.recordedWith writes with
  | true => rw [if_pos rfl]
  | false => rw [if_neg Bool.false_ne_true, hwrite event hkeep]

namespace SetSite

/-- Looking up a slot is no move. -/
@[simp] theorem moves_lookupEvents (site : SetSite) (shape : Shape) (kind : Kind) :
    moves (site.lookupEvents shape kind) = [] := by
  unfold lookupEvents
  split <;> rfl

/-- Neither is the refusal of a value. -/
@[simp] theorem moves_refusalEvents (site : SetSite) (shape : Shape) (kind : Kind) :
    moves (site.refusalEvents shape kind) = [] := by
  unfold refusalEvents
  split
  · rfl
  · rw [moves_append, moves_lookupEvents]
    rfl

end SetSite

end Events

section Works

/-- The shapes of the objects after one of them was replaced. -/
theorem Heap.shapes_put (heap : Heap) (target : HeapId) (object : Object) :
    (heap.put target object).shapes = heap.shapes.set target.index object.shape :=
  List.map_set

/-- A heap tells which object was put in a place. -/
theorem Heap.eq_of_put_eq {heap : Heap} {target : HeapId} {object first second : Object}
    (hobject : heap.object? target = some object)
    (heq : heap.put target first = heap.put target second) : first = second := by
  have hfound := object?_put_self hobject first
  rw [heq, object?_put_self hobject second] at hfound
  exact (Option.some.inj hfound).symm

/-- The shape of an object stands at the object's place. -/
theorem Heap.getElem?_shapes {heap : Heap} {target : HeapId} {object : Object}
    (hobject : heap.object? target = some object) :
    heap.shapes[target.index]? = some object.shape := by
  rw [shapes, List.getElem?_map, show heap.objects[target.index]? = some object from hobject]
  rfl

variable {site : SetSite} {space after : Space} {target : HeapId} {object : Object}
  {write : Write} {effect : Effect}

/-- An assignment reports no move if the object stays on its shape. Else the object took a step, and
that is the one move which is reported. -/
theorem SetSite.Performs.moves_eq
    (hperforms : site.Performs space.heap space.registry target object write effect)
    (h : space.WellFormed) (hobject : space.heap.object? target = some object) {changed : Object}
    (hheap : effect.heap = space.heap.put target changed) :
    changed.shape = object.shape ∧ moves effect.events = [] ∨
      ∃ step reached, space.registry.Takes object.shape step effect.registry reached ∧
        changed.shape = reached.shape ∧
        moves effect.events = [⟨object.shape.id, reached.shape.id, step.reason⟩] := by
  cases hperforms with
  | stored =>
    obtain rfl := Heap.eq_of_put_eq hobject hheap
    rw [Object.overwrite_shape, moves_append, moves_lookupEvents]
    exact Or.inl ⟨rfl, rfl⟩
  | boxed hlocation hkind hgeneralize hmigrate =>
    obtain rfl := Heap.eq_of_put_eq hobject hheap
    have hprimitive := ne_object_of_ne_kindAfter hlocation hkind
    obtain ⟨_, hshape⟩ := boxed_slot h hobject hlocation hprimitive hgeneralize hmigrate
    rw [Object.overwrite_shape, moves_append, moves_refusalEvents]
    exact Or.inr ⟨_, _, boxed_takes h hobject hlocation hprimitive hgeneralize, hshape, rfl⟩
  | added habsent hadd hslots =>
    obtain rfl := Heap.eq_of_put_eq hobject hheap
    rw [Object.overwrite_shape]
    exact Or.inr ⟨_, _, added_takes h hobject habsent hadd, rfl, rfl⟩
  | refused =>
    obtain rfl := Heap.eq_of_put_eq hobject ((Heap.put_object? hobject).trans hheap)
    exact Or.inl ⟨rfl, rfl⟩

/-- Whatever is done on a space shows the tracer events that report what it does to the shapes of
the objects. -/
theorem Space.Works.shifts (hworks : space.Works after) (h : space.WellFormed) :
    ∃ events, after.tracer = space.tracer.observeAll events ∧
      space.Shifts after (moves events) := by
  cases hworks with
  | kept | interned => exact ⟨[], rfl, .same rfl⟩
  | loaded name kind => exact ⟨[.specialized name kind], rfl, .same rfl⟩
  | allocated =>
    refine ⟨[], rfl, ?_⟩
    rcases space.heap.allocate_objects space.registry.root with hsame | hmore
    · exact .same (congrArg (List.map Object.shape) hsame)
    · refine .gained ?_
      change (space.heap.allocate space.registry.root).1.objects.map Object.shape = _
      rw [hmore, List.map_append]
      rfl
  | @assigned site target object write effect hobject hperforms =>
    refine ⟨effect.events, rfl, ?_⟩
    obtain ⟨changed, hheap⟩ := hperforms.heap_eq hobject
    have hshapes : effect.heap.shapes = space.heap.shapes.set target.index changed.shape := by
      rw [hheap, Heap.shapes_put]
    have hplace := Heap.getElem?_shapes hobject
    rcases hperforms.moves_eq h hobject hheap with
      ⟨hshape, hnone⟩ | ⟨step, reached, htakes, hshape, hmove⟩
    · rw [hnone]
      refine .same (hshapes.trans ?_)
      obtain ⟨hlt, hget⟩ := List.getElem?_eq_some_iff.mp hplace
      rw [hshape, ← hget, List.set_getElem_self]
    · rw [hmove]
      exact .moved hplace htakes (hshape ▸ hshapes)

/-- The registry is the same or has grown, whatever is done. -/
theorem Space.Works.grown (hworks : space.Works after) (h : space.WellFormed) :
    space.registry.Extends after.registry := by
  cases hworks with
  | kept | interned | allocated | loaded => exact .refl _
  | assigned hobject hperforms => exact hperforms.grown h hobject

end Works

/-- The tracer of a space is a recorder without limit, and some relation holds between the space and
the moves that are recorded. -/
def Space.Logs (space : Space) (writes : Bool) (Holds : Space → List Move → Prop) : Prop :=
  ∃ events, space.tracer = .recorder ⟨writes, none, events⟩ ∧ Holds space (moves events)

/-- A relation between a space and some moves goes along with the space: whatever happens to the
shapes of its objects, the relation holds afterwards if the moves reported of that are added. -/
def FollowsShifts (Holds : Space → List Move → Prop) : Prop :=
  ∀ space after recorded reported, space.WellFormed → space.Shifts after reported →
    space.registry.Extends after.registry → Holds space recorded →
    Holds after (recorded ++ reported)

section Runs

variable {Holds : Space → List Move → Prop} {writes : Bool}

/-- Whatever is done on a space, a relation that goes along with it holds of the recorded moves. -/
theorem FollowsShifts.works (hfollows : FollowsShifts Holds) {space after : Space}
    (h : space.WellFormed) (hworks : space.Works after) (hlogs : space.Logs writes Holds) :
    after.Logs writes Holds := by
  obtain ⟨before, htracer, hholds⟩ := hlogs
  obtain ⟨events, hshown, hshifts⟩ := hworks.shifts h
  refine ⟨before ++ events.filter (·.recordedWith writes), ?_, ?_⟩
  · rw [hshown, htracer, Tracer.observeAll_recorder]
  · rw [moves_append, moves_filter_recordedWith]
    exact hfollows space after _ _ h hshifts (hworks.grown h) hholds

/-- Where only call sites show events to a recorder without limit, a relation that goes along with
the space, and holds of a new one, holds of the recorded moves after every run. -/
theorem FollowsShifts.run (hfollows : FollowsShifts Holds) {setups : List (Tracker × Tracer)}
    {actions : List Action} {index : Nat} {tracker : Tracker} {space : Space}
    (hnew : ∀ tracer, Holds (.new index tracker tracer) [])
    (hsetup : setups[index]? = some (tracker, .recorder (.new writes none)))
    (hquiet : ∀ event, Action.call index (.observe event) ∉ actions)
    (hspace : ((Session.start setups).run actions).spaces[index]? = some space) :
    space.Logs writes Holds := by
  obtain ⟨first, hfirst, hkept⟩ := (Session.wellFormed_start setups).run_keeps
    (fun _ _ => hfollows.works) actions (fun event hmem => absurd hmem (hquiet event)) hspace
  obtain ⟨setup, hsetup', rfl⟩ := Session.spaces_start hfirst
  cases hsetup.symm.trans hsetup'
  exact hkept ⟨[], rfl, hnew _⟩

end Runs

end ShapedObjects
