import Mathlib.Data.Finset.Card
import ShapedObjects.Proofs.Assign

/-!
# Interning

An interner keeps two tables, one from numbers to names and one from names to
numbers. A name is entered into both at once, and only if the second table does
not know it. So the tables are inverse to each other after every name, the numbers
count the different names in the order in which they came up, and nothing that was
entered is ever changed.
-/

namespace ShapedObjects

section Repetitions

variable {α : Type} [BEq α] [LawfulBEq α] {items : List α} {item : α}

/-- An item that came up before is left out as a repetition. -/
theorem eraseDups_concat_of_mem (h : item ∈ items) :
    (items ++ [item]).eraseDups = items.eraseDups := by
  rw [List.eraseDups_append]
  simp [List.removeAll, h]

/-- An item that comes up for the first time is kept. -/
theorem eraseDups_concat_of_not_mem (h : item ∉ items) :
    (items ++ [item]).eraseDups = items.eraseDups ++ [item] := by
  rw [List.eraseDups_append]
  simp [List.removeAll, h, List.eraseDups_cons]

end Repetitions

namespace Interner

variable {interner later : Interner} {name : String} {id : NameId} {names : List String}
  {ids : List NameId}

/-- Interns some names one after the other, and lists the numbers that they get. -/
def internAll (interner : Interner) : List String → Interner × List NameId
  | [] => (interner, [])
  | name :: names =>
    let first := interner.intern name
    let rest := first.1.internAll names
    (rest.1, first.2 :: rest.2)

/-- The two tables are inverse to each other: a name has a number exactly if the number has the
name as its text. -/
def Consistent (interner : Interner) : Prop :=
  ∀ name id, interner.lookup name = some id ↔ interner.text? id = some name

/-- A later state of an interner: both tables have only grown. -/
structure Extends (interner later : Interner) : Prop where
  /-- The names keep their places. -/
  names : interner.names <+: later.names
  /-- The numbers stay entered. -/
  numbers : interner.numbers <+: later.numbers

/-- What an interner holds after some names were interned, and which numbers they got. -/
structure Records (interner : Interner) (names : List String) (ids : List NameId) : Prop where
  /-- The tables are inverse to each other. -/
  consistent : interner.Consistent
  /-- Every name got the number that it has in the table. -/
  answered : names.map interner.lookup = ids.map some
  /-- No other name has a number. -/
  interned : ∀ name id, interner.lookup name = some id → name ∈ names
  /-- The numbers were issued in order, beginning at zero. -/
  ordered : ids.eraseDups = (List.range interner.size).map NameId.mk

section Steps

/-- An interner is a later state of itself. -/
theorem Extends.refl (interner : Interner) : interner.Extends interner :=
  ⟨List.prefix_rfl, List.prefix_rfl⟩

/-- Later than later is later. -/
theorem Extends.trans {first second third : Interner} (h : first.Extends second)
    (h' : second.Extends third) : first.Extends third :=
  ⟨h.names.trans h'.names, h.numbers.trans h'.numbers⟩

/-- A name keeps its number. -/
theorem Extends.lookup (h : interner.Extends later) (hname : interner.lookup name = some id) :
    later.lookup name = some id := by
  obtain ⟨more, hmore⟩ := h.numbers
  have hfirst : interner.numbers.lookup name = some id := hname
  rw [Interner.lookup, ← hmore, List.lookup_append, hfirst, Option.some_or]

/-- A number keeps its text. -/
theorem Extends.text? (h : interner.Extends later) (hid : interner.text? id = some name) :
    later.text? id = some name := by
  obtain ⟨more, hmore⟩ := h.names
  obtain ⟨hlt, _⟩ := List.getElem?_eq_some_iff.mp hid
  rw [Interner.text?, ← hmore, List.getElem?_append_left hlt]
  exact hid

/-- A name that has a number gets it again. -/
theorem intern_of_lookup (h : interner.lookup name = some id) :
    interner.intern name = (interner, id) := by
  rw [intern, h]

/-- A name without a number gets the next one. -/
theorem intern_of_lookup_eq_none (h : interner.lookup name = none) :
    interner.intern name = interner.issue name := by
  rw [intern, h]

/-- Interning a name makes an interner a later state of itself. -/
theorem extends_intern (interner : Interner) (name : String) :
    interner.Extends (interner.intern name).1 := by
  cases hname : interner.lookup name with
  | some id =>
    rw [intern_of_lookup hname]
    exact .refl interner
  | none =>
    rw [intern_of_lookup_eq_none hname]
    exact ⟨List.prefix_append _ _, List.prefix_append _ _⟩

/-- So does interning some names. -/
theorem extends_internAll (interner : Interner) (names : List String) :
    interner.Extends (interner.internAll names).1 := by
  induction names generalizing interner with
  | nil => exact .refl interner
  | cons name names ih => exact (extends_intern interner name).trans (ih _)

/-- Issuing a number enters it under its name, and leaves the numbers of all other names. -/
theorem lookup_issue (h : interner.lookup name = none) (other : String) :
    (interner.issue name).1.lookup other =
      if other = name then some ⟨interner.size⟩ else interner.lookup other := by
  have hnumbers : (interner.issue name).1.lookup other =
      (interner.lookup other).or ([(name, ⟨interner.size⟩)].lookup other) :=
    List.lookup_append
  rw [hnumbers]
  split
  case isTrue heq =>
    subst heq
    rw [h, Option.none_or, List.lookup_cons_self]
  case isFalse hne => rw [lookup_cons_of_ne hne, List.lookup_nil, Option.or_none]

/-- Issuing a number gives it its name as text, and leaves the texts of all other numbers. -/
theorem text?_issue (interner : Interner) (name : String) (id : NameId) :
    (interner.issue name).1.text? id =
      if id = ⟨interner.size⟩ then some name else interner.text? id := by
  have hnames : (interner.issue name).1.text? id = (interner.names ++ [name])[id.index]? := rfl
  rw [hnames]
  split
  case isTrue heq =>
    subst heq
    exact List.getElem?_concat_length
  case isFalse hne =>
    have hindex : id.index ≠ interner.names.length := fun heq => hne (congrArg NameId.mk heq)
    rw [List.getElem?_append, Interner.text?]
    split
    · rfl
    · rw [List.getElem?_eq_none (by simp; omega), List.getElem?_eq_none (by omega)]

/-- A number that has a text is one of those that were issued. -/
theorem index_lt_size (h : interner.text? id = some name) : id.index < interner.size :=
  (List.getElem?_eq_some_iff.mp h).1

/-- The tables of an empty interner are inverse to each other. -/
theorem consistent_empty : empty.Consistent := by
  intro name id
  simp [lookup, text?, empty]

/-- The tables stay inverse to each other when a number is issued. -/
theorem Consistent.issue (h : interner.Consistent) (hname : interner.lookup name = none) :
    (interner.issue name).1.Consistent := by
  intro other id
  have hnext : interner.text? ⟨interner.size⟩ ≠ some other :=
    fun htext => Nat.lt_irrefl _ (index_lt_size htext)
  have hnew : interner.text? id ≠ some name := by
    rw [Ne, ← h name id, hname]
    exact nofun
  rw [lookup_issue hname, text?_issue]
  -- Each table changes at one place only, and there it held nothing before.
  by_cases hother : other = name <;> by_cases hid : id = ⟨interner.size⟩
  · simp [hother, hid]
  · simp [hother, hid, hnew, Ne.symm hid]
  · simp [hother, hid, h other, hnext, Ne.symm hother]
  · simp [hother, hid, h other]

/-- No name is entered twice. -/
theorem Consistent.nodup (h : interner.Consistent) : interner.names.Nodup := by
  refine List.nodup_iff_getElem?_ne_getElem?.mpr fun first second hlt hsecond heq => ?_
  have htext : interner.text? ⟨second⟩ = some interner.names[second] :=
    List.getElem?_eq_getElem hsecond
  have hnumber := (h _ _).mpr htext
  have hnumber' := (h _ ⟨first⟩).mpr (heq.trans htext)
  cases hnumber.symm.trans hnumber'
  exact Nat.lt_irrefl _ hlt

end Steps

section Runs

/-- An empty interner records that nothing was interned. -/
theorem records_empty : empty.Records [] [] where
  consistent := consistent_empty
  answered := rfl
  interned := fun _ _ h => nomatch h
  ordered := rfl

/-- A name that was interned has a number, which is one of those that were answered. -/
theorem Records.exists_number (h : interner.Records names ids) (hname : name ∈ names) :
    ∃ id ∈ ids, interner.lookup name = some id := by
  have hlookup : interner.lookup name ∈ ids.map some :=
    h.answered ▸ List.mem_map_of_mem hname
  obtain ⟨id, hid, heq⟩ := List.mem_map.mp hlookup
  exact ⟨id, hid, heq.symm⟩

/-- A number that was answered is the number of a name that was interned. -/
theorem Records.exists_name (h : interner.Records names ids) (hid : id ∈ ids) :
    ∃ name ∈ names, interner.lookup name = some id := by
  have hsome : some id ∈ names.map interner.lookup :=
    h.answered ▸ List.mem_map_of_mem hid
  exact List.mem_map.mp hsome

/-- All numbers that were answered were issued. -/
theorem Records.index_lt (h : interner.Records names ids) (hid : id ∈ ids) :
    id.index < interner.size := by
  obtain ⟨name, _, hlookup⟩ := h.exists_name hid
  exact index_lt_size ((h.consistent name id).mp hlookup)

/-- A name that was interned before is answered from the table. -/
theorem Records.again (h : interner.Records names ids) (hname : interner.lookup name = some id) :
    interner.Records (names ++ [name]) (ids ++ [id]) where
  consistent := h.consistent
  answered := by
    rw [List.map_append, List.map_append, h.answered, List.map_singleton, hname,
      List.map_singleton]
  interned := fun other number hother => List.mem_append_left _ (h.interned other number hother)
  ordered := by
    obtain ⟨number, hnumber, heq⟩ := h.exists_number (h.interned name id hname)
    have hid : id ∈ ids := Option.some.inj (hname.symm.trans heq) ▸ hnumber
    rw [eraseDups_concat_of_mem hid, h.ordered]

/-- A new name is entered and answered with the next number. -/
theorem Records.issue (h : interner.Records names ids) (hname : interner.lookup name = none) :
    (interner.issue name).1.Records (names ++ [name]) (ids ++ [(interner.issue name).2]) where
  consistent := h.consistent.issue hname
  answered := by
    have hold : names.map (interner.issue name).1.lookup = names.map interner.lookup := by
      refine List.map_congr_left fun other hother => ?_
      obtain ⟨id, _, hid⟩ := h.exists_number hother
      have hne : other ≠ name := by
        rintro rfl
        cases hname.symm.trans hid
      rw [lookup_issue hname, if_neg hne]
    have hself : (interner.issue name).1.lookup name = some (interner.issue name).2 := by
      rw [lookup_issue hname, if_pos rfl]
      rfl
    rw [List.map_append, List.map_append, hold, h.answered, List.map_singleton, hself,
      List.map_singleton]
  interned := by
    intro other id hother
    rw [lookup_issue hname] at hother
    split at hother
    case isTrue heq => simp [heq]
    case isFalse => exact List.mem_append_left _ (h.interned other id hother)
  ordered := by
    -- What was answered before was issued before, so the next number is greater than all of it.
    have hfresh : (interner.issue name).2 ∉ ids := fun hmem => Nat.lt_irrefl _ (h.index_lt hmem)
    have hsize : (interner.issue name).1.size = interner.size + 1 := List.length_append
    rw [eraseDups_concat_of_not_mem hfresh, h.ordered, hsize, List.range_succ, List.map_append]
    rfl

/-- Interning a name is recorded, whether the name is new or not. -/
theorem Records.intern (h : interner.Records names ids) (name : String) :
    (interner.intern name).1.Records (names ++ [name]) (ids ++ [(interner.intern name).2]) := by
  cases hname : interner.lookup name with
  | some id =>
    rw [intern_of_lookup hname]
    exact h.again hname
  | none =>
    rw [intern_of_lookup_eq_none hname]
    exact h.issue hname

/-- Interning some names is recorded. -/
theorem Records.internAll (h : interner.Records names ids) (more : List String) :
    (interner.internAll more).1.Records (names ++ more) (ids ++ (interner.internAll more).2) := by
  -- The names interned so far and their numbers grow with every step, so they are generalized too.
  induction more generalizing interner names ids with
  | nil => simpa [Interner.internAll] using h
  | cons name more ih =>
    have hrest := ih (h.intern name)
    rwa [List.append_assoc, List.append_assoc] at hrest

end Runs

section Laws

/-- A name is in the first table exactly if it was interned. -/
theorem Records.mem_names_iff (h : interner.Records names ids) :
    name ∈ interner.names ↔ name ∈ names := by
  constructor
  · intro hname
    obtain ⟨index, hindex⟩ := List.mem_iff_getElem?.mp hname
    exact h.interned name ⟨index⟩ ((h.consistent name ⟨index⟩).mpr hindex)
  · intro hname
    obtain ⟨id, _, hid⟩ := h.exists_number hname
    exact List.mem_of_getElem? ((h.consistent name id).mp hid)

/-- There are as many numbers as different names. -/
theorem Records.size_eq (h : interner.Records names ids) : interner.size = names.toFinset.card := by
  have hsame : interner.names.toFinset = names.toFinset := by
    ext name
    rw [List.mem_toFinset, List.mem_toFinset, h.mem_names_iff]
  rw [← hsame, List.toFinset_card_of_nodup h.consistent.nodup, size]

/-- A name has a number exactly if it was interned and is the text of the number. -/
theorem Records.lookup_iff (h : interner.Records names ids) :
    interner.lookup name = some id ↔ name ∈ names ∧ interner.text? id = some name :=
  ⟨fun hname => ⟨h.interned name id hname, (h.consistent name id).mp hname⟩,
    fun hname => (h.consistent name id).mpr hname.2⟩

/-- A call was answered with the number that its name has in the table. -/
theorem Records.lookup_of_call (h : interner.Records names ids) {call : String × NameId}
    (hcall : call ∈ names.zip ids) : interner.lookup call.1 = some call.2 := by
  obtain ⟨index, hindex⟩ := List.mem_iff_getElem?.mp hcall
  obtain ⟨hname, hid⟩ := List.getElem?_zip_eq_some.mp hindex
  have hanswer := congrArg (fun answers => answers[index]?) h.answered
  simpa [hname, hid] using hanswer

/-- Equal names got equal numbers, and only equal names did. -/
theorem Records.eq_iff (h : interner.Records names ids) {call other : String × NameId}
    (hcall : call ∈ names.zip ids) (hother : other ∈ names.zip ids) :
    call.1 = other.1 ↔ call.2 = other.2 := by
  have hnumber := h.lookup_of_call hcall
  have hnumber' := h.lookup_of_call hother
  constructor
  · intro heq
    rw [heq, hnumber'] at hnumber
    exact (Option.some.inj hnumber).symm
  · intro heq
    have htext := (h.consistent _ _).mp hnumber
    have htext' := (h.consistent _ _).mp hnumber'
    rw [heq, htext'] at htext
    exact (Option.some.inj htext).symm

/-- Interning numbers the different names once and for all. After any names, fewer than 2³² of
them different, the numbers that were answered are, in the order in which they were issued, those
from zero up to the size of the interner, and they fit 32 bits. The size is the number of different
names. A name has a number exactly if it was interned and the number has it as its text. Every call
was answered with the number that its name has in the end, so equal names, and only they, got equal
numbers. Whatever is interned later, an earlier name has its number and gets it again without a
change, and an earlier number has its text. -/
theorem interning_stable_bijection (names : List String)
    (hnames : names.toFinset.card < UInt32.size) :
    let interner := (empty.internAll names).1
    let ids := (empty.internAll names).2
    (ids.eraseDups = (List.range interner.size).map NameId.mk ∧
        ∀ id ∈ ids, id.index < UInt32.size) ∧
      interner.size = names.toFinset.card ∧
      (∀ name id, interner.lookup name = some id ↔
        name ∈ names ∧ interner.text? id = some name) ∧
      (names.map interner.lookup = ids.map some ∧
        ∀ call ∈ names.zip ids, ∀ other ∈ names.zip ids, call.1 = other.1 ↔ call.2 = other.2) ∧
      ∀ more, let later := (interner.internAll more).1
        (∀ name id, interner.lookup name = some id →
          later.lookup name = some id ∧ later.intern name = (later, id)) ∧
        ∀ id name, interner.text? id = some name → later.text? id = some name := by
  intro interner ids
  have hrecords : interner.Records names ids := records_empty.internAll names
  have hsize : interner.size = names.toFinset.card := hrecords.size_eq
  refine ⟨⟨hrecords.ordered, fun id hid => ?_⟩, hsize, fun _ _ => hrecords.lookup_iff,
    ⟨hrecords.answered, fun _ hcall _ hother => hrecords.eq_iff hcall hother⟩, ?_⟩
  · exact (hrecords.index_lt hid).trans (hsize ▸ hnames)
  · intro more later
    have hgrown : interner.Extends later := extends_internAll interner more
    constructor
    · intro name id hname
      exact ⟨hgrown.lookup hname, intern_of_lookup (hgrown.lookup hname)⟩
    · intro id name hid
      exact hgrown.text? hid

/-- Of four names two are equal, so the numbers are 0, 1, 0 and 2. The empty name is a name like
any other. It has its number and gets it again after a name that is new and one that is not. -/
theorem interning_stable_bijection_sample :
    let names := ["x", "", "x", "y"]
    let interner := (empty.internAll names).1
    let later := (interner.internAll ["z", "x"]).1
    names.toFinset.card < UInt32.size ∧ (empty.internAll names).2 = [⟨0⟩, ⟨1⟩, ⟨0⟩, ⟨2⟩] ∧
      interner.size = 3 ∧ interner.lookup "" = some ⟨1⟩ ∧ interner.lookup "z" = none ∧
      interner.text? ⟨2⟩ = some "y" ∧ later.size = 4 ∧
      (later.lookup "" = some ⟨1⟩ ∧ later.intern "" = (later, ⟨1⟩)) ∧
      later.text? ⟨2⟩ = some "y" := by
  intro names interner later
  have hnames : names.toFinset.card < UInt32.size := by decide
  obtain ⟨_, _, _, _, hlater⟩ := interning_stable_bijection names hnames
  obtain ⟨hnumbers, htexts⟩ := hlater ["z", "x"]
  have hempty : interner.lookup "" = some ⟨1⟩ := by decide
  have htext : interner.text? ⟨2⟩ = some "y" := by decide
  exact ⟨hnames, by decide, by decide, hempty, by decide, htext, by decide,
    hnumbers "" ⟨1⟩ hempty, htexts ⟨2⟩ "y" htext⟩

end Laws

end Interner

end ShapedObjects
