import ShapedObjects.Trace.Tracer

/-!
# What tracers tell of a sequence of events

A recorder keeps the first events that it is to keep, up to its limit. A log follows it: it
has printed a line for each event that a recorder with the same settings keeps, and the notice
behind them once the limit is reached. A profile counts every event, and its report shows the
counts. So the same is told of a sequence of events, whichever of them looks on.
-/

namespace ShapedObjects

/-- The first items of a list, as many as a limit allows. -/
def upTo {α : Type} (limit : Option Nat) (items : List α) : List α :=
  match limit with
  | some limit => items.take limit
  | none => items

@[simp] theorem upTo_nil {α : Type} (limit : Option Nat) : upTo limit ([] : List α) = [] := by
  cases limit with
  | none => rfl
  | some limit => exact List.take_nil

/-- A list that is as long as its limit allows does not grow. -/
theorem upTo_append_of_le {α : Type} {limit : Option Nat} {items : List α}
    (h : limit.any (· ≤ (upTo limit items).length) = true) (more : List α) :
    upTo limit (items ++ more) = upTo limit items := by
  cases limit with
  | none => cases h
  | some limit =>
    have hle : limit ≤ (items.take limit).length := of_decide_eq_true h
    rw [List.length_take] at hle
    exact List.take_append_of_le_length (by omega)

/-- A list that is shorter than its limit allows may still grow by one. -/
theorem upTo_concat_of_lt {α : Type} {limit : Option Nat} {items : List α}
    (h : limit.any (· ≤ (upTo limit items).length) = false) (item : α) :
    upTo limit (items ++ [item]) = upTo limit items ++ [item] := by
  cases limit with
  | none => rfl
  | some limit =>
    have hlt : ¬ limit ≤ (items.take limit).length := of_decide_eq_false h
    rw [List.length_take] at hlt
    have hroom : (items ++ [item]).length ≤ limit := by
      rw [List.length_append, List.length_singleton]
      omega
    rw [upTo, upTo, List.take_of_length_le hroom, List.take_of_length_le (by omega)]

namespace Event

/-- Whether a recorder keeps an event for which it has room. -/
def recordedWith (writes : Bool) (event : Event) : Bool := writes || !event.isWrite

/-- An event is skipped if it is a write and writes are not to be kept. -/
theorem isWrite_and_not (writes : Bool) (event : Event) :
    (event.isWrite && !writes) = !event.recordedWith writes := by
  rw [recordedWith, Bool.not_or, Bool.not_not, Bool.and_comm]

/-- Whether the event reports that a node was cached. -/
def isSpecialized : Event → Bool
  | specialized _ _ => true
  | generalized _ _ | moved _ _ _ | written _ _ => false

/-- Whether the event reports that a slot refused a value. -/
def isGeneralized : Event → Bool
  | generalized _ _ => true
  | specialized _ _ | moved _ _ _ | written _ _ => false

/-- Whether the event reports that an object moved to another shape. -/
def isMoved : Event → Bool
  | moved _ _ _ => true
  | specialized _ _ | generalized _ _ | written _ _ => false

end Event

section Recording

/-- Events can be shown to a tracer in portions. -/
theorem Tracer.observeAll_append (tracer : Tracer) (first second : List Event) :
    tracer.observeAll (first ++ second) = (tracer.observeAll first).observeAll second :=
  List.foldl_append

/-- The events that a tracer has recorded. -/
def Tracer.recorded : Tracer → List Event
  | recorder state => state.events
  | silent | log _ | profile _ => []

/-- A recorder that keeps as many events as it may is full. -/
theorem Recorder.isFull_of_limit_eq {recorder : Recorder}
    (h : recorder.limit = some recorder.events.length) : recorder.isFull = true := by
  rw [isFull, h]
  exact decide_eq_true (Nat.le_refl _)

/-- A recorder takes notice of an event by keeping it, if it is one to keep and there is room. -/
theorem Recorder.observe_eq (writes : Bool) (limit : Option Nat) (before : List Event)
    (event : Event) :
    observe ⟨writes, limit, upTo limit before⟩ event =
      ⟨writes, limit, upTo limit (before ++ [event].filter (·.recordedWith writes))⟩ := by
  rw [observe, Event.isWrite_and_not]
  cases hkeep : event.recordedWith writes with
  | false => simp [hkeep]
  | true =>
    have hroom : limit.any (· ≤ (upTo limit before).length) =
        isFull ⟨writes, limit, upTo limit before⟩ := rfl
    rw [List.filter_cons_of_pos hkeep, List.filter_nil]
    cases hfull : limit.any (· ≤ (upTo limit before).length) with
    | true =>
      rw [upTo_append_of_le hfull, record, ← hroom, hfull]
      rfl
    | false =>
      rw [upTo_concat_of_lt hfull, record, ← hroom, hfull]
      rfl

/-- A recorder keeps the first of the events that it is to keep, as many as its limit allows. -/
theorem Tracer.observeAll_recorder_upTo (writes : Bool) (limit : Option Nat)
    (before events : List Event) :
    (Tracer.recorder ⟨writes, limit, upTo limit before⟩).observeAll events =
      .recorder ⟨writes, limit, upTo limit (before ++ events.filter (·.recordedWith writes))⟩ := by
  induction events generalizing before with
  | nil => simp [observeAll]
  | cons event events ih =>
    rw [observeAll, List.foldl_cons, observe, Recorder.observe_eq, ← observeAll, ih,
      List.append_assoc, ← List.filter_append, List.singleton_append]

/-- A recorder without limit keeps every event, writes only on request. -/
theorem Tracer.observeAll_recorder (writes : Bool) (before events : List Event) :
    (Tracer.recorder ⟨writes, none, before⟩).observeAll events =
      .recorder ⟨writes, none, before ++ events.filter (·.recordedWith writes)⟩ :=
  observeAll_recorder_upTo writes none before events

/-- A recorder without limit that is to keep writes keeps every event. -/
theorem Tracer.observeAll_recorder_all (before events : List Event) :
    (Tracer.recorder ⟨true, none, before⟩).observeAll events =
      .recorder ⟨true, none, before ++ events⟩ := by
  rw [observeAll_recorder]
  simp [Event.recordedWith]

end Recording

section Lines

/-- A text without line breaks. -/
def OneLine (text : String) : Prop := '\n' ∉ text.toList

instance (text : String) : Decidable (OneLine text) :=
  inferInstanceAs (Decidable (¬ '\n' ∈ text.toList))

theorem OneLine.append {first second : String} (h : OneLine first) (h' : OneLine second) :
    OneLine (first ++ second) := by
  rw [OneLine, String.toList_append, List.mem_append, not_or]
  exact ⟨h, h'⟩

/-- Numbers are written in digits. -/
theorem oneLine_toString (n : Nat) : OneLine (toString n) := by
  intro hmem
  have hdigits : (toString n).toList = Nat.toDigits 10 n := String.toList_ofList
  rw [hdigits] at hmem
  exact absurd (Nat.isDigit_of_mem_toDigits (by decide) (by decide) hmem) (by decide)

/-- Columns are filled up with blanks. -/
theorem OneLine.alignLeft {text : String} (h : OneLine text) (width : Nat) :
    OneLine (alignLeft width text) := by
  refine h.append ?_
  rw [OneLine, blanks, String.toList_ofList]
  intro hmem
  cases List.eq_of_mem_replicate hmem

theorem ShapeId.oneLine_text (id : ShapeId) : OneLine id.text :=
  .append (by decide) (oneLine_toString _)

/-- An event is written as one line. -/
theorem Event.oneLine_line (event : Event) : OneLine event.line := by
  cases event with
  | specialized name kind =>
    have hname : OneLine kind.name := by cases kind <;> decide
    exact .append (.append (.append (by decide) ((oneLine_toString _).alignLeft 4)) (by decide))
      hname
  | generalized name kind =>
    have hname : OneLine kind.name := by cases kind <;> decide
    exact .append (.append (.append (by decide) ((oneLine_toString _).alignLeft 4)) (by decide))
      hname
  | moved start target reason =>
    have hreason : OneLine reason.name := by cases reason <;> decide
    exact .append (.append (.append (.append (.append (.append (by decide) start.oneLine_text)
      (by decide)) target.oneLine_text) (by decide)) hreason) (by decide)
  | written kind path =>
    have hname : OneLine kind.name := by cases kind <;> decide
    have hpath : OneLine path.name := by cases path <;> decide
    exact .append (.append (.append (by decide) (hname.alignLeft 10)) (by decide)) hpath

/-- So is the notice. -/
theorem Log.oneLine_notice (count : Nat) : OneLine (notice count) :=
  .append (.append (by decide) (oneLine_toString count)) (by decide)

end Lines

namespace Log

/-- What a log prints behind the lines of some number of events: the notice, if that is as many as
it may print. A log that may print none gives no notice. -/
def closing : Option Nat → Nat → List String
  | some limit, count => if 1 ≤ limit ∧ count = limit then [notice limit] else []
  | none, _ => []

/-- A log that has printed the lines of the events that a recorder keeps. -/
structure Follows (log : Log) (recorder : Recorder) : Prop where
  /-- Both heed writes, or neither does. -/
  writes : log.writes = recorder.writes
  /-- Both have one limit. -/
  limit : log.limit = recorder.limit
  /-- As many events were printed as are kept. -/
  count : log.count = recorder.events.length
  /-- The lines of the events are followed by the notice once the limit is reached. -/
  lines : log.lines = recorder.events.map Event.line ++ closing log.limit log.count

/-- Nothing but the notice is printed behind the lines of the events. -/
theorem eq_notice_of_mem_closing {limit : Option Nat} {count : Nat} {line : String}
    (h : line ∈ closing limit count) : line = notice count := by
  cases limit with
  | none => cases h
  | some limit =>
    rw [closing] at h
    split at h
    · rename_i hreached
      rw [List.mem_singleton.mp h, hreached.2]
    · cases h

/-- New logs follow new recorders. -/
theorem follows_new (writes : Bool) (limit : Option Nat) :
    (new writes limit).Follows (.new writes limit) := by
  refine ⟨rfl, rfl, rfl, ?_⟩
  cases limit with
  | none => rfl
  | some limit =>
    have hnot : ¬ (1 ≤ limit ∧ 0 = limit) := by omega
    exact (if_neg hnot).symm

/-- There is no notice while there is room. -/
theorem closing_of_not_isFull {log : Log} (h : log.isFull = false) :
    closing log.limit log.count = [] := by
  cases hlimit : log.limit with
  | none => rfl
  | some limit =>
    rw [isFull, hlimit] at h
    have hlt : log.count < limit := by simpa using h
    have hnot : ¬ (1 ≤ limit ∧ log.count = limit) := by omega
    exact if_neg hnot

/-- The notice comes behind the last line that the limit allows. -/
theorem closing_succ (limit : Option Nat) (count : Nat) :
    closing limit (count + 1) = if limit = some (count + 1) then [notice (count + 1)] else [] := by
  cases limit with
  | none => rfl
  | some limit =>
    rw [closing]
    by_cases heq : limit = count + 1
    · subst heq
      rw [if_pos rfl, if_pos ⟨Nat.le_add_left 1 count, rfl⟩]
    · rw [if_neg (fun hlimit => heq (Option.some.inj hlimit)),
        if_neg (fun hlimit => heq hlimit.2.symm)]

namespace Follows

variable {log : Log} {recorder : Recorder}

/-- A log is full exactly if the recorder that it follows is. -/
theorem isFull_eq (h : log.Follows recorder) : log.isFull = recorder.isFull := by
  rw [isFull, Recorder.isFull, h.limit, h.count]

/-- A log prints the line of an event that is kept. -/
theorem print (h : log.Follows recorder) (event : Event) :
    (log.print event.line).Follows (recorder.record event) := by
  rw [Log.print, Recorder.record, ← h.isFull_eq]
  cases hfull : log.isFull with
  | true => exact h
  | false =>
    refine ⟨h.writes, h.limit, ?_, ?_⟩
    · change log.count + 1 = (recorder.events ++ [event]).length
      rw [List.length_append, h.count]
      rfl
    · change log.lines ++ event.line :: (if log.limit = some (log.count + 1) then
        [notice (log.count + 1)] else []) = (recorder.events ++ [event]).map Event.line ++
          closing log.limit (log.count + 1)
      rw [h.lines, closing_of_not_isFull hfull, closing_succ, List.map_append]
      simp

/-- Whatever a log prints is one line. -/
theorem oneLine_of_mem (h : log.Follows recorder) : ∀ line ∈ log.lines, OneLine line := by
  intro line hline
  rw [h.lines] at hline
  rcases List.mem_append.mp hline with hevent | hclosing
  · obtain ⟨event, _, rfl⟩ := List.mem_map.mp hevent
    exact event.oneLine_line
  · rw [eq_notice_of_mem_closing hclosing]
    exact oneLine_notice _

/-- A log goes on to follow its recorder when both are shown an event. -/
theorem observe (h : log.Follows recorder) (event : Event) :
    (log.observe event).Follows (recorder.observe event) := by
  rw [Log.observe, Recorder.observe, h.writes]
  split
  · exact h
  · exact h.print event

/-- Over any sequence of events, a log follows its recorder. -/
theorem observeAll (h : log.Follows recorder) (events : List Event) :
    ∃ log' recorder', (Tracer.log log).observeAll events = .log log' ∧
      (Tracer.recorder recorder).observeAll events = .recorder recorder' ∧
      log'.Follows recorder' := by
  induction events generalizing log recorder with
  | nil => exact ⟨log, recorder, rfl, rfl, h⟩
  | cons event events ih => exact ih (h.observe event)

end Follows

/-- A full log takes no notice of anything. -/
theorem observeAll_of_isFull {log : Log} (h : log.isFull = true) (events : List Event) :
    (Tracer.log log).observeAll events = .log log := by
  induction events with
  | nil => rfl
  | cons event events ih =>
    have hsame : log.observe event = log := by
      rw [observe, print, if_pos h, ite_self]
    rw [Tracer.observeAll, List.foldl_cons, Tracer.observe, hsame]
    exact ih

end Log

/-- The report that some events make: a row for each kind of slot that was written to, with the
numbers of writes on either path, and the numbers of all writes and of the other events. -/
def Report.ofEvents (events : List Event) : Report where
  writes :=
    ([.object, .int, .float, .boolean].filter fun kind =>
      .written kind .fast ∈ events ∨ .written kind .generic ∈ events).map fun kind =>
        (kind, ⟨events.count (.written kind .fast), events.count (.written kind .generic)⟩)
  totalWrites := events.countP Event.isWrite
  specializations := events.countP Event.isSpecialized
  generalizations := events.countP Event.isGeneralized
  transitions := events.countP Event.isMoved

namespace Profile

/-- A profile that has counted some events. -/
structure Counts (profile : Profile) (events : List Event) : Prop where
  /-- Writes are counted by kind and path. -/
  writes : ∀ kind, profile.writes kind =
    ⟨events.count (.written kind .fast), events.count (.written kind .generic)⟩
  /-- Cached nodes are counted. -/
  specializations : profile.specializations = events.countP Event.isSpecialized
  /-- Refused values are counted. -/
  generalizations : profile.generalizations = events.countP Event.isGeneralized
  /-- Moves are counted. -/
  transitions : profile.transitions = events.countP Event.isMoved

/-- A new profile has counted nothing. -/
theorem counts_new : new.Counts [] := by
  refine ⟨fun kind => ?_, rfl, rfl, rfl⟩
  cases kind <;> rfl

/-- An event is counted under the kind and the path that it reports, if it is a write. -/
theorem writes_observe (profile : Profile) (event : Event) (kind : Kind) :
    (profile.observe event).writes kind =
      ⟨(profile.writes kind).fast + [event].count (.written kind .fast),
        (profile.writes kind).generic + [event].count (.written kind .generic)⟩ := by
  cases event with
  | specialized | generalized | moved => rfl
  | written written path =>
    cases written <;> cases kind <;> cases path <;> rfl

/-- Any other event is counted as what it reports. -/
theorem counters_observe (profile : Profile) (event : Event) :
    (profile.observe event).specializations =
        profile.specializations + [event].countP Event.isSpecialized ∧
      (profile.observe event).generalizations =
        profile.generalizations + [event].countP Event.isGeneralized ∧
      (profile.observe event).transitions =
        profile.transitions + [event].countP Event.isMoved := by
  cases event with
  | specialized | generalized | moved => exact ⟨rfl, rfl, rfl⟩
  | written kind path => cases kind <;> exact ⟨rfl, rfl, rfl⟩

/-- A profile counts one event more. -/
theorem Counts.observe {profile : Profile} {events : List Event} (h : profile.Counts events)
    (event : Event) : (profile.observe event).Counts (events ++ [event]) := by
  obtain ⟨hspecializations, hgeneralizations, htransitions⟩ := profile.counters_observe event
  refine ⟨fun kind => ?_, ?_, ?_, ?_⟩
  · rw [writes_observe, h.writes, List.count_append, List.count_append]
  · rw [hspecializations, h.specializations, List.countP_append]
  · rw [hgeneralizations, h.generalizations, List.countP_append]
  · rw [htransitions, h.transitions, List.countP_append]

/-- A profile goes on to count every event. -/
theorem Counts.observeAll {profile : Profile} {before : List Event} (h : profile.Counts before)
    (events : List Event) :
    ∃ profile', (Tracer.profile profile).observeAll events = .profile profile' ∧
      profile'.Counts (before ++ events) := by
  induction events generalizing profile before with
  | nil => exact ⟨profile, rfl, by rwa [List.append_nil]⟩
  | cons event events ih =>
    obtain ⟨profile', hprofile, hcounts⟩ := ih (h.observe event)
    exact ⟨profile', hprofile, by rwa [List.append_assoc] at hcounts⟩

/-- Every write is one to a slot of some kind on one of the two paths. -/
theorem countP_isWrite (events : List Event) :
    events.countP Event.isWrite = sumOf
      (fun kind => events.count (.written kind .fast) + events.count (.written kind .generic))
      Kind.all := by
  induction events with
  | nil => rfl
  | cons event events ih =>
    have hone : [event].countP Event.isWrite = sumOf
        (fun kind => [event].count (.written kind .fast) + [event].count (.written kind .generic))
        Kind.all := by
      cases event with
      | specialized | generalized | moved => rfl
      | written kind path => cases kind <;> cases path <;> rfl
    rw [← List.singleton_append, List.countP_append, hone, ih]
    simp only [sumOf, Kind.all, List.map_cons, List.map_nil, List.sum_cons, List.sum_nil,
      List.count_append]
    omega

/-- A profile reports the events that it has counted. -/
theorem Counts.report_eq {profile : Profile} {events : List Event} (h : profile.Counts events) :
    profile.report = .ofEvents events := by
  have hpos : ∀ kind, decide (0 < (profile.writes kind).total) =
      decide (.written kind .fast ∈ events ∨ .written kind .generic ∈ events) := by
    intro kind
    rw [h.writes, WriteCounts.total, decide_eq_decide, ← List.count_pos_iff, ← List.count_pos_iff]
    exact Nat.add_pos_iff_pos_or_pos
  simp only [report, Report.ofEvents, Report.mk.injEq]
  refine ⟨?_, ?_, h.specializations, h.generalizations, h.transitions⟩
  · rw [List.filter_map]
    simp only [Function.comp_def, hpos]
    simp only [h.writes]
    rfl
  · rw [sumOf_filter_pos fun entry : Kind × WriteCounts => entry.2.total, sumOf, List.map_map,
      countP_isWrite]
    simp only [Function.comp_def, h.writes]
    rfl

end Profile

/-- Whatever events are shown to them, a recorder and a log with the same settings and a profile
tell the same. The recorder keeps the first events, as many as the limit allows, leaving out
writes if they are not to be kept. The log has printed one line for each of these, and then the
notice if the limit is reached, behind which it prints nothing. The profile reports how many
events there were. -/
theorem tracers_agree (writes : Bool) (limit : Option Nat) (events : List Event) :
    ∃ recorder log profile,
      (Tracer.recorder (.new writes limit)).observeAll events = .recorder recorder ∧
      (Tracer.log (.new writes limit)).observeAll events = .log log ∧
      (Tracer.profile .new).observeAll events = .profile profile ∧
      recorder.events = upTo limit (events.filter fun event => writes || !event.isWrite) ∧
      log.lines = recorder.events.map Event.line ++ Log.closing limit recorder.events.length ∧
      (∀ line ∈ log.lines, OneLine line) ∧
      (limit = some recorder.events.length →
        ∀ more, (Tracer.log log).observeAll more = .log log) ∧
      profile.report = .ofEvents events := by
  obtain ⟨log, recorder, hlog, hrecorder, hfollows⟩ :=
    (Log.follows_new writes limit).observeAll events
  obtain ⟨profile, hprofile, hcounts⟩ := Profile.counts_new.observeAll events
  have hkept := Tracer.observeAll_recorder_upTo writes limit [] events
  rw [upTo_nil] at hkept
  obtain rfl := Tracer.recorder.inj (hrecorder.symm.trans hkept)
  refine ⟨_, log, profile, hrecorder, hlog, hprofile, rfl, ?_, hfollows.oneLine_of_mem, ?_,
    hcounts.report_eq⟩
  · rw [hfollows.lines, hfollows.limit, hfollows.count]
  · intro hlimit
    refine Log.observeAll_of_isFull ?_
    rw [hfollows.isFull_eq]
    exact Recorder.isFull_of_limit_eq hlimit

/-- The line of each form of event, and the notice that ends the log. -/
example :
    ((Tracer.log (.new true (some 4))).observeAll
      [.moved ⟨0⟩ ⟨1⟩ .addAttribute, .specialized ⟨7⟩ .int, .generalized ⟨12⟩ .int,
        .written .boolean .fast, .written .object .generic]).printed =
    ["  --> shape#0 -> shape#1 (AddAttribute)",
      "  +++ SPECIALIZE attr#7    Int",
      "  !!! GENERALIZE attr#12   from Int",
      "  ... WRITE Boolean    Fast",
      "--- trace limit reached (4 lines) ---"] := by
  decide

end ShapedObjects
