import Mathlib.Algebra.BigOperators.Group.Finset.Basic
import ShapedObjects.Proofs.DenseLayouts
import ShapedObjects.Proofs.Moves

/-!
# Statistics and recorded moves

The statistics of a heap look at its objects only, a recorder sees the events of call sites only,
and yet both tell the same. An object starts on the empty shape and leaves a shape by the moves
from it, so the moves say how many objects are on each shape. A move that adds an attribute
takes one more slot, and one that boxes an attribute makes a boxed slot of an unboxed one.
-/

namespace ShapedObjects

/-- If some numbers are below a bound, their items are counted by number up to that bound. -/
theorem sumOf_countP_range {α : Type} {number : α → Nat} {items : List α} {bound : Nat}
    (h : ∀ item ∈ items, number item < bound) :
    sumOf (fun index => items.countP (number · = index)) (List.range bound) = items.length := by
  have hcount : (fun index => items.countP (number · = index)) =
      fun index => Multiset.count index ↑(items.map number) := by
    funext index
    rw [Multiset.coe_count, List.count_eq_countP, List.countP_map]
    rfl
  have hbelow : ∀ index ∈ (↑(items.map number) : Multiset Nat),
      index ∈ (List.range bound).toFinset := by
    intro index hindex
    obtain ⟨item, hitem, rfl⟩ := List.mem_map.mp (Multiset.mem_coe.mp hindex)
    exact List.mem_toFinset.mpr (List.mem_range.mpr (h item hitem))
  calc sumOf (fun index => items.countP (number · = index)) (List.range bound)
      = ∑ index ∈ (List.range bound).toFinset, Multiset.count index ↑(items.map number) := by
        rw [hcount, List.sum_toFinset _ List.nodup_range]
        rfl
    _ = items.length := by
        rw [Multiset.sum_count_eq_card hbelow, Multiset.coe_card, List.length_map]

/-- A bound only rises while it takes in more items. -/
theorem le_foldl_max {α : Type} (number : α → Nat) (items : List α) (bound : Nat) :
    bound ≤ items.foldl (fun bound item => max bound (number item)) bound := by
  induction items generalizing bound with
  | nil => exact Nat.le_refl bound
  | cons item items ih => exact Nat.le_trans (Nat.le_max_left _ _) (ih _)

section Slots

/-- Boxing an attribute that is not boxed makes one boxed attribute more. -/
theorem Layout.inArea_assign {kinds : List (NameId × Kind)} {name : NameId} {kind : Kind}
    (hkind : kinds.lookup name = some kind) (hprimitive : kind.isPrimitive = true) :
    inArea (assign kinds name .object) .object = inArea kinds .object + 1 := by
  induction kinds with
  | nil => cases hkind
  | cons entry kinds ih =>
    obtain ⟨first, current⟩ := entry
    rw [assign]
    by_cases heq : first = name
    · subst heq
      cases List.lookup_cons_self.symm.trans hkind
      have hunboxed : ¬ decide (kind.isPrimitive = Kind.object.isPrimitive) = true := by
        rw [hprimitive]
        decide
      rw [if_pos rfl, inArea, inArea, List.countP_cons, List.countP_cons, if_neg hunboxed]
      rfl
    · rw [lookup_cons_of_ne (Ne.symm heq)] at hkind
      have hrest := ih hkind
      rw [inArea, inArea] at hrest ⊢
      rw [if_neg heq, List.countP_cons, List.countP_cons, hrest]
      omega

/-- A step that adds an attribute takes one more slot, and one that boxes an attribute takes one
more boxed slot in place of another. -/
theorem Transition.Leads.slots {step : Transition} {start : Shape} {reached : Reached}
    (h : step.Leads start reached) (hpacked : start.layout.Packed) :
    reached.shape.layout.slotCount =
        start.layout.slotCount + (if step.reason = .addAttribute then 1 else 0) ∧
      start.layout.objectCount + (if step.reason = .generalize then 1 else 0) ≤
        reached.shape.layout.objectCount := by
  cases h with
  | @add _ _ _ kind _ hlayout _ =>
    rw [hlayout, Layout.slotCount_append]
    exact ⟨rfl, Layout.capacity_le_append kind .object⟩
  | @generalize _ _ name current hcurrent hprimitive hlayout _ =>
    have hwiden := hpacked.widen name
    have hkind := Layout.lookup_kinds_of_location? hcurrent
    have hnames := congrArg List.length (Layout.map_fst_widen start.layout name)
    have hboxed : (start.layout.widen name).objectCount = start.layout.objectCount + 1 := by
      change (start.layout.widen name).capacity .object = start.layout.capacity .object + 1
      rw [hwiden.capacity_eq, hpacked.kinds_widen_eq_assign hcurrent,
        Layout.inArea_assign hkind (Kind.isPrimitive_iff.mpr hprimitive), hpacked.capacity_eq]
    rw [hlayout, hwiden.slotCount_eq, hpacked.slotCount_eq, hboxed]
    simp only [List.length_map] at hnames
    exact ⟨hnames, Nat.le_refl _⟩

end Slots

/-- The moves that have brought objects from the empty shape to the shapes that they are on. -/
structure Flow (shapes : List Shape) (moves : List Move) : Prop where
  /-- What is on a shape has started there or moved there, and has not moved on. -/
  balance : ∀ id : ShapeId,
    shapes.countP (·.id = id) + moves.countP (·.start = id) =
      (if id = ⟨0⟩ then shapes.length else 0) + moves.countP (·.target = id)
  /-- Every slot was taken when an attribute was added. -/
  added : moves.countP (·.reason = .addAttribute) = sumOf (·.layout.slotCount) shapes
  /-- Every attribute that was boxed has a boxed slot. -/
  boxed : moves.countP (·.reason = .generalize) ≤ sumOf (·.layout.objectCount) shapes

namespace Flow

variable {shapes : List Shape} {moves : List Move}

theorem nil : Flow [] [] := ⟨fun _ => by simp, rfl, Nat.le_refl _⟩

/-- An object that starts on the empty shape has not moved. -/
theorem gain (h : Flow shapes moves) (serial : Nat) :
    Flow (shapes ++ [⟨serial, ⟨0⟩, Layout.empty⟩]) moves where
  balance := by
    intro id
    have hbalance := h.balance id
    rw [List.countP_append, List.countP_singleton, List.length_append, List.length_singleton]
    by_cases hid : id = ⟨0⟩
    · rw [if_pos hid] at hbalance ⊢
      rw [if_pos (by simp [hid])]
      omega
    · rw [if_neg hid] at hbalance ⊢
      rw [if_neg (by simpa using Ne.symm hid)]
      exact hbalance
  added := by
    rw [sumOf, List.map_append, List.sum_append_nat]
    exact h.added
  boxed := by
    rw [sumOf, List.map_append, List.sum_append_nat]
    exact h.boxed

/-- An object that takes a step makes one move. -/
theorem move (h : Flow shapes moves) {index : Nat} {start : Shape} {step : Transition}
    {reached : Reached} (hstart : shapes[index]? = some start) (hpacked : start.layout.Packed)
    (hleads : step.Leads start reached) :
    Flow (shapes.set index reached.shape)
      (moves ++ [⟨start.id, reached.shape.id, step.reason⟩]) where
  balance := by
    intro id
    have hbalance := h.balance id
    obtain ⟨hlt, hget⟩ := List.getElem?_eq_some_iff.mp hstart
    have hcounted := List.boole_getElem_le_countP (p := fun shape : Shape => shape.id = id) hlt
    -- Each end of the move changes both sides alike, also if the two are one shape.
    rw [List.countP_set hlt, List.countP_append, List.countP_append, List.countP_singleton,
      List.countP_singleton, List.length_set]
    rw [hget] at hcounted ⊢
    simp only [decide_eq_true_eq] at hcounted ⊢
    omega
  added := by
    have hset := sumOf_set (fun shape : Shape => shape.layout.slotCount) hstart reached.shape
    rw [(hleads.slots hpacked).1] at hset
    rw [List.countP_append, List.countP_singleton, h.added]
    simp only [decide_eq_true_eq]
    omega
  boxed := by
    have hset := sumOf_set (fun shape : Shape => shape.layout.objectCount) hstart reached.shape
    have hmore := (hleads.slots hpacked).2
    have hboxed := h.boxed
    rw [List.countP_append, List.countP_singleton]
    simp only [decide_eq_true_eq]
    omega

/-- Whatever happens to the shapes of objects, the moves reported of it go with the flow. -/
theorem followsShifts : FollowsShifts fun space recorded => Flow space.heap.shapes recorded := by
  intro space after recorded reported hwell hshifts _ h
  cases hshifts with
  | same hshapes =>
    rw [hshapes, List.append_nil]
    exact h
  | gained hshapes =>
    rw [hshapes, List.append_nil]
    exact h.gain space.registry.serial
  | moved hstart htakes hshapes =>
    -- Only the objects of the space are known to be on packed layouts.
    obtain ⟨object, hobject, rfl⟩ := List.mem_map.mp (List.mem_of_getElem? hstart)
    rw [hshapes]
    exact h.move hstart (hwell.objects object hobject).2.packed htakes.leads

end Flow

namespace Heap

variable {heap : Heap}

/-- The numbers of all shapes that have objects are below the bound. -/
theorem index_lt_shapeBound {object : Object} (hobject : object ∈ heap.objects) :
    object.shape.id.index < heap.shapeBound := by
  obtain ⟨before, behind, hobjects⟩ := List.append_of_mem hobject
  rw [shapeBound, hobjects, List.foldl_append, List.foldl_cons]
  have hhere := Nat.le_max_right
    (before.foldl (fun bound other => max bound (other.shape.id.index + 1)) 0)
    (object.shape.id.index + 1)
  exact Nat.lt_of_lt_of_le (Nat.lt_succ_self _) (Nat.le_trans hhere (le_foldl_max _ behind _))

/-- A shape is listed with the number of its objects, if it has any. -/
theorem mem_objectsByShape {entry : ShapeId × Nat} :
    entry ∈ heap.stats.objectsByShape ↔ entry.2 = heap.countOn entry.1 ∧ 0 < entry.2 := by
  obtain ⟨⟨index⟩, count⟩ := entry
  constructor
  · intro hentry
    obtain ⟨hmem, hpos⟩ := List.mem_filter.mp hentry
    obtain ⟨_, _, heq⟩ := List.mem_map.mp hmem
    cases heq
    exact ⟨rfl, of_decide_eq_true hpos⟩
  · rintro ⟨hcount, hpos⟩
    refine List.mem_filter.mpr ⟨List.mem_map.mpr ⟨index, ?_, by rw [← hcount]⟩,
      decide_eq_true hpos⟩
    rw [hcount] at hpos
    obtain ⟨object, hobject, hid⟩ := List.countP_pos_iff.mp hpos
    have hlt := index_lt_shapeBound hobject
    rw [of_decide_eq_true hid] at hlt
    exact List.mem_range.mpr hlt

/-- No shape is listed twice. -/
theorem nodup_objectsByShape (heap : Heap) : (heap.stats.objectsByShape.map Prod.fst).Nodup := by
  refine List.Nodup.sublist (List.filter_sublist.map Prod.fst) ?_
  rw [List.map_map]
  refine List.Nodup.map ?_ List.nodup_range
  intro first second heq
  exact congrArg ShapeId.index heq

/-- The number that is listed for a shape is the number of its objects. -/
theorem lookup_objectsByShape (heap : Heap) (id : ShapeId) :
    (heap.stats.objectsByShape.lookup id).getD 0 = heap.countOn id := by
  by_cases hpos : 0 < heap.countOn id
  · have hmem : (id, heap.countOn id) ∈ heap.stats.objectsByShape :=
      mem_objectsByShape.mpr ⟨rfl, hpos⟩
    rw [lookup_of_mem heap.nodup_objectsByShape hmem]
    rfl
  · have hnone : heap.stats.objectsByShape.lookup id = none := by
      rw [lookup_eq_none_iff_not_mem]
      intro hmem
      obtain ⟨entry, hentry, rfl⟩ := List.mem_map.mp hmem
      obtain ⟨hcount, hentryPos⟩ := mem_objectsByShape.mp hentry
      exact hpos (hcount ▸ hentryPos)
    rw [hnone]
    exact (Nat.eq_zero_of_not_pos hpos).symm

/-- The listed numbers add up to the number of all objects. -/
theorem sumOf_objectsByShape (heap : Heap) :
    sumOf (·.2) heap.stats.objectsByShape = heap.stats.liveObjects := by
  have hcount : ∀ index : Nat, heap.countOn ⟨index⟩ =
      heap.objects.countP (·.shape.id.index = index) := by
    intro index
    refine List.countP_congr fun object _ => ?_
    rw [decide_eq_true_eq, decide_eq_true_eq]
    exact ⟨fun hid => congrArg ShapeId.index hid, fun hindex => congrArg ShapeId.mk hindex⟩
  change sumOf _ (List.filter _ _) = heap.objects.length
  rw [sumOf_filter_pos, sumOf, List.map_map]
  simp only [Function.comp_def, hcount]
  exact sumOf_countP_range fun object hobject => index_lt_shapeBound hobject

/-- The statistics of a heap and the moves of its objects tell the same. -/
structure Accounts (heap : Heap) (moves : List Move) : Prop where
  /-- The number of objects on a shape is the number of those that started there or moved there,
  less those that moved on. All objects start on the shape of number zero. -/
  balance : ∀ id : ShapeId,
    (heap.stats.objectsByShape.lookup id).getD 0 + moves.countP (·.start = id) =
      (if id = ⟨0⟩ then heap.stats.liveObjects else 0) + moves.countP (·.target = id)
  /-- No shape is listed twice. -/
  distinct : (heap.stats.objectsByShape.map Prod.fst).Nodup
  /-- Only shapes that have objects are listed. -/
  positive : ∀ entry ∈ heap.stats.objectsByShape, 0 < entry.2
  /-- Every object is counted on one shape. -/
  live : sumOf (·.2) heap.stats.objectsByShape = heap.stats.liveObjects
  /-- There is one slot for every attribute that was added. -/
  added : moves.countP (·.reason = .addAttribute) =
    heap.stats.primitiveSlots + heap.stats.objectSlots
  /-- There is one slot for every attribute that an object has. -/
  attributes : heap.stats.primitiveSlots + heap.stats.objectSlots =
    sumOf (·.shape.layout.attributes.length) heap.objects
  /-- There is one slot for every item of the objects' storage. -/
  storage : heap.stats.primitiveSlots + heap.stats.objectSlots =
    sumOf (fun object => object.words.length + object.slots.length) heap.objects
  /-- There is a boxed slot for every attribute that was boxed. -/
  boxed : moves.countP (·.reason = .generalize) ≤ heap.stats.objectSlots

/-- The statistics show the flow of the moves. -/
theorem accounts_of_flow {moves : List Move} (h : Flow heap.shapes moves)
    (hwell : ∀ object ∈ heap.objects, object.WellFormed) : heap.Accounts moves := by
  have hslots : heap.stats.primitiveSlots + heap.stats.objectSlots =
      sumOf (·.shape.layout.slotCount) heap.objects :=
    List.sum_map_add.symm
  refine ⟨?_, heap.nodup_objectsByShape, fun entry hentry => (mem_objectsByShape.mp hentry).2,
    heap.sumOf_objectsByShape, ?_, ?_, ?_, ?_⟩
  · intro id
    have hbalance := h.balance id
    rw [shapes, List.countP_map, List.length_map] at hbalance
    rw [lookup_objectsByShape]
    exact hbalance
  · rw [h.added, hslots, shapes, sumOf, List.map_map]
    rfl
  · rw [hslots, sumOf, sumOf,
      List.map_congr_left fun object hobject => (hwell object hobject).packed.slotCount_eq]
  · rw [hslots, sumOf, sumOf]
    congr 1
    refine List.map_congr_left fun object hobject => ?_
    rw [(hwell object hobject).words, (hwell object hobject).slots]
    rfl
  · have hboxed := h.boxed
    rwa [shapes, sumOf, List.map_map] at hboxed

end Heap

namespace Session

/-- If only call sites show events to a recorder without limit, then in every reachable state the
statistics of the heap and the recorded moves tell the same, whether or not writes are
recorded. -/
theorem statistics_account {setups : List (Tracker × Tracer)} {actions : List Action} {index : Nat}
    {tracker : Tracker} {writes : Bool} {space : Space}
    (hsetup : setups[index]? = some (tracker, .recorder (.new writes none)))
    (hquiet : ∀ event, Action.call index (.observe event) ∉ actions)
    (hspace : ((start setups).run actions).spaces[index]? = some space) :
    ∃ events, space.tracer = .recorder ⟨writes, none, events⟩ ∧
      space.heap.Accounts (moves events) := by
  obtain ⟨events, htracer, hflow⟩ :=
    Flow.followsShifts.run (fun _ => Flow.nil) hsetup hquiet hspace
  have hwell := ((wellFormed_start setups).run actions).spaces space (List.mem_of_getElem? hspace)
  exact ⟨events, htracer, Heap.accounts_of_flow hflow fun object hobject =>
    (hwell.objects object hobject).2⟩

/-- Of two objects one gained an integer attribute that was then boxed. It has left the empty shape
and passed through the next one, as the two recorded moves say. -/
theorem statistics_account_sample :
    let setups : List (Tracker × Tracer) := [(.unlimited, .recorder (.new false none))]
    let actions : List Action := [.call 0 (.intern "x"), .call 0 .allocate, .call 0 .allocate,
      .newSetSite ⟨0⟩, .call 0 (.set 0 ⟨0⟩ (.int 7)), .call 0 (.set 0 ⟨0⟩ (.float ⟨0⟩))]
    ∃ space, ((start setups).run actions).spaces[0]? = some space ∧
      space.heap.stats.objectsByShape = [(⟨0⟩, 1), (⟨2⟩, 1)] ∧
      space.heap.Accounts [⟨⟨0⟩, ⟨1⟩, .addAttribute⟩, ⟨⟨1⟩, ⟨2⟩, .generalize⟩] := by
  intro setups actions
  have hstate : ((start setups).run actions).spaces[0]?.map
      (fun space => (space.tracer.recorded, space.heap.stats.objectsByShape)) =
      some ([.moved ⟨0⟩ ⟨1⟩ .addAttribute, .specialized ⟨0⟩ .int, .generalized ⟨0⟩ .int,
        .moved ⟨1⟩ ⟨2⟩ .generalize, .specialized ⟨0⟩ .object], [(⟨0⟩, 1), (⟨2⟩, 1)]) := by decide
  obtain ⟨space, hspace, hfound⟩ := Option.map_eq_some_iff.mp hstate
  obtain ⟨hrecorded, hstats⟩ := Prod.ext_iff.mp hfound
  obtain ⟨events, htracer, haccounts⟩ :=
    @statistics_account setups actions 0 .unlimited false space rfl (by simp [actions]) hspace
  rw [htracer] at hrecorded
  change events = _ at hrecorded
  rw [hrecorded] at haccounts
  exact ⟨space, hspace, hstats, haccounts⟩

end Session

end ShapedObjects
