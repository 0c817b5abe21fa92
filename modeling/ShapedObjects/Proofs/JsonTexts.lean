import Mathlib.Data.List.TakeWhile
import ShapedObjects.Json.Writer
import ShapedObjects.Proofs.JsonTokens

/-!
# JSON texts

Blanks may stand between all tokens of a JSON text, so a value can be spelled in many ways. A
reader that may go deep enough finds the value behind each of its spellings. The compact form and
the pretty form are two of them, so both are read back as the value that was written, provided that
its numbers have nothing but digits behind the point.
-/

namespace ShapedObjects.Json

/-- Every character is a blank. -/
def Blank (gap : List Char) : Prop := ∀ char ∈ gap, isBlank char = true

mutual

/-- A text from the first token of a value to its last one. -/
inductive Spells : Json → List Char → Prop
  | null : Spells .null ['n', 'u', 'l', 'l']
  | yes : Spells (.bool true) ['t', 'r', 'u', 'e']
  | no : Spells (.bool false) ['f', 'a', 'l', 's', 'e']
  | number {number : JsonNumber} : number.IsProper → Spells (.number number) number.write
  | string (text : Option String) : Spells (.string text) (writeText text)
  | emptyArray {gap : List Char} : Blank gap → Spells (.array []) ('[' :: (gap ++ [']']))
  | array {gap text : List Char} {items : List Json} :
      Blank gap → SpellsItems items text → Spells (.array items) ('[' :: (gap ++ text))
  | emptyObject {gap : List Char} : Blank gap → Spells (.object []) ('{' :: (gap ++ ['}']))
  | object {gap text : List Char} {members : List (Option String × Json)} :
      Blank gap → SpellsMembers members text → Spells (.object members) ('{' :: (gap ++ text))

/-- A text from the first of some items to the bracket behind the last one. -/
inductive SpellsItems : List Json → List Char → Prop
  | last {item : Json} {text gap : List Char} :
      Spells item text → Blank gap → SpellsItems [item] (text ++ (gap ++ [']']))
  | more {item : Json} {items : List Json} {text gap next texts : List Char} :
      Spells item text → Blank gap → Blank next → SpellsItems items texts →
      SpellsItems (item :: items) (text ++ (gap ++ ',' :: (next ++ texts)))

/-- A text from the key of a member to the last token of its value. -/
inductive SpellsMember : Option String × Json → List Char → Prop
  | mk {key : Option String} {value : Json} {before after text : List Char} :
      Blank before → Blank after → Spells value text →
      SpellsMember (key, value) (writeText key ++ (before ++ ':' :: (after ++ text)))

/-- A text from the first of some members to the brace behind the last one. -/
inductive SpellsMembers : List (Option String × Json) → List Char → Prop
  | last {member : Option String × Json} {text gap : List Char} :
      SpellsMember member text → Blank gap → SpellsMembers [member] (text ++ (gap ++ ['}']))
  | more {member : Option String × Json} {members : List (Option String × Json)}
      {text gap next texts : List Char} :
      SpellsMember member text → Blank gap → Blank next → SpellsMembers members texts →
      SpellsMembers (member :: members) (text ++ (gap ++ ',' :: (next ++ texts)))

end

section Blanks

variable {gap : List Char}

/-- Blanks are skipped. -/
theorem skipBlanks_append (h : Blank gap) (chars : List Char) :
    skipBlanks (gap ++ chars) = skipBlanks chars :=
  List.dropWhile_append_of_pos h

/-- Nothing is skipped where no blank comes next. -/
theorem skipBlanks_cons {char : Char} (h : isBlank char = false) (chars : List Char) :
    skipBlanks (char :: chars) = char :: chars :=
  List.dropWhile_cons_of_neg (Bool.eq_false_iff.mp h)

/-- A value is read behind blanks. -/
theorem readValue_blanks (h : Blank gap) (fuel : Nat) (chars : List Char) :
    readValue fuel (gap ++ chars) = readValue fuel chars := by
  cases fuel with
  | zero => rfl
  | succ fuel => rw [readValue, readValue, skipBlanks_append h]

/-- Items are read behind blanks. -/
theorem readItems_blanks (h : Blank gap) (fuel : Nat) (chars : List Char) :
    readItems fuel (gap ++ chars) = readItems fuel chars := by
  cases fuel with
  | zero => rfl
  | succ fuel => rw [readItems, readItems, readValue_blanks h]

/-- Members are read behind blanks. -/
theorem readMembers_blanks (h : Blank gap) (fuel : Nat) (chars : List Char) :
    readMembers fuel (gap ++ chars) = readMembers fuel chars := by
  cases fuel with
  | zero => rfl
  | succ fuel => rw [readMembers, readMembers, skipBlanks_append h]

/-- A blank is no part of a number. -/
theorem continues_of_isBlank {char : Char} (h : isBlank char = true) :
    JsonNumber.continues char = false := by
  simp only [isBlank, Bool.or_eq_true, decide_eq_true_eq] at h
  rcases h with ((rfl | rfl) | rfl) | rfl <;> rfl

/-- A number ends at a blank, and where the text ends. -/
theorem Blank.ends (h : Blank gap) : JsonNumber.Ends gap := fun char hchar =>
  continues_of_isBlank (h char (List.mem_of_mem_head? hchar))

/-- A number ends at a blank, and at a token that is no part of it. -/
theorem Blank.ends_append (h : Blank gap) {token : Char}
    (htoken : JsonNumber.continues token = false) (chars : List Char) :
    JsonNumber.Ends (gap ++ token :: chars) := by
  cases gap with
  | nil =>
    rintro _ ⟨⟩
    exact htoken
  | cons char gap =>
    rintro _ ⟨⟩
    exact continues_of_isBlank (h char List.mem_cons_self)

end Blanks

section Tokens

/-- What a number starts with starts nothing else. -/
theorem ne_of_starts {first token : Char} (h : first = '-' ∨ first.isDigit = true)
    (hminus : token ≠ '-') (hdigit : token.isDigit = false) : first ≠ token := by
  rintro rfl
  rcases h with hfirst | hfirst
  · exact hminus hfirst
  · exact Bool.false_ne_true (hdigit.symm.trans hfirst)

/-- A word that starts with another letter does not come next. -/
theorem isPrefixOf?_of_ne {letter first : Char} (h : letter ≠ first) (word chars : List Char) :
    (letter :: word).isPrefixOf? (first :: chars) = none :=
  if_neg (by simpa using h)

/-- A number does not start with a blank. -/
theorem isBlank_of_starts {first : Char} (h : first = '-' ∨ first.isDigit = true) :
    isBlank first = false := by
  simp [isBlank, ne_of_starts h]

/-- A value starts with a token, and not with a closing bracket. -/
theorem Spells.exists_first {value : Json} {text : List Char} (h : Spells value text) :
    ∃ first chars, text = first :: chars ∧ isBlank first = false ∧ first ≠ ']' := by
  cases h with
  | @number number _ =>
    obtain ⟨first, chars, htext, hfirst⟩ := number.head_write
    exact ⟨first, chars, htext, isBlank_of_starts hfirst,
      ne_of_starts hfirst (by decide) (by decide)⟩
  | string text =>
    obtain ⟨chars, htext, _⟩ := readText_writeText text
    exact ⟨'"', chars, htext, rfl, by decide⟩
  | null | yes | no | emptyArray | array | emptyObject | object =>
    exact ⟨_, _, rfl, rfl, by decide⟩

/-- A number is a value. -/
theorem readValue_number {number : JsonNumber} {rest : List Char} (hproper : number.IsProper)
    (hrest : JsonNumber.Ends rest) (fuel : Nat) :
    readValue (fuel + 1) (number.write ++ rest) = some (.number number, rest) := by
  have hread := JsonNumber.read_write hproper hrest
  obtain ⟨first, chars, htext, hfirst⟩ := number.head_write
  have hword : readWord (first :: (chars ++ rest)) = none := by
    simp [readWord, isPrefixOf?_of_ne, (ne_of_starts hfirst _ _).symm]
  rw [htext, List.cons_append] at hread ⊢
  rw [readValue, skipBlanks_cons (isBlank_of_starts hfirst)]
  simp [ne_of_starts hfirst, readPlain, hword, hread]

/-- A string is a value. -/
theorem readValue_string (text : Option String) (rest : List Char) (fuel : Nat) :
    readValue (fuel + 1) (writeText text ++ rest) = some (.string text, rest) := by
  obtain ⟨chars, htext, hread⟩ := readText_writeText text
  rw [htext, List.cons_append, readValue, skipBlanks_cons rfl]
  simp only [hread]
  rfl

/-- An array may have no items. -/
theorem readValue_emptyArray {gap : List Char} (hgap : Blank gap) (rest : List Char) (fuel : Nat) :
    readValue (fuel + 1) ('[' :: (gap ++ ']' :: rest)) = some (.array [], rest) := by
  rw [readValue, skipBlanks_cons rfl]
  simp only [skipBlanks_append hgap]
  rfl

/-- An array has its items between brackets. -/
theorem readValue_array {gap chars rest : List Char} {first : Char} {items : List Json}
    {fuel : Nat} (hgap : Blank gap) (hblank : isBlank first = false) (hfirst : first ≠ ']')
    (hitems : readItems fuel (first :: chars) = some (items, rest)) :
    readValue (fuel + 1) ('[' :: (gap ++ first :: chars)) = some (.array items, rest) := by
  rw [readValue, skipBlanks_cons rfl]
  simp [skipBlanks_append hgap, skipBlanks_cons hblank, hfirst, hitems]

/-- An object may have no members. -/
theorem readValue_emptyObject {gap : List Char} (hgap : Blank gap) (rest : List Char)
    (fuel : Nat) :
    readValue (fuel + 1) ('{' :: (gap ++ '}' :: rest)) = some (.object [], rest) := by
  rw [readValue, skipBlanks_cons rfl]
  simp only [skipBlanks_append hgap]
  rfl

/-- An object has its members between braces. -/
theorem readValue_object {gap chars rest : List Char} {members : List (Option String × Json)}
    {fuel : Nat} (hgap : Blank gap)
    (hmembers : readMembers fuel ('"' :: chars) = some (members, rest)) :
    readValue (fuel + 1) ('{' :: (gap ++ '"' :: chars)) = some (.object members, rest) := by
  rw [readValue, skipBlanks_cons rfl]
  simp [skipBlanks_append hgap, skipBlanks_cons, hmembers, isBlank]

variable {gap next chars rest : List Char} {fuel : Nat}

/-- A bracket stands behind the last item. -/
theorem readItems_last {item : Json}
    (hitem : readValue fuel chars = some (item, gap ++ ']' :: rest)) (hgap : Blank gap) :
    readItems (fuel + 1) chars = some ([item], rest) := by
  rw [readItems, hitem]
  simp [skipBlanks_append hgap, skipBlanks_cons, isBlank]

/-- A comma stands behind every other item. -/
theorem readItems_more {item : Json} {items : List Json} {more : List Char}
    (hitem : readValue fuel chars = some (item, gap ++ ',' :: (next ++ more))) (hgap : Blank gap)
    (hnext : Blank next) (hitems : readItems fuel more = some (items, rest)) :
    readItems (fuel + 1) chars = some (item :: items, rest) := by
  rw [readItems, hitem]
  simp [skipBlanks_append hgap, skipBlanks_cons, isBlank, readItems_blanks hnext, hitems]

variable {key : Option String} {value : Json} {before after : List Char}

/-- A brace stands behind the last member. -/
theorem readMembers_last (hbefore : Blank before) (hafter : Blank after)
    (hvalue : readValue fuel chars = some (value, gap ++ '}' :: rest)) (hgap : Blank gap) :
    readMembers (fuel + 1) (writeText key ++ (before ++ ':' :: (after ++ chars))) =
      some ([(key, value)], rest) := by
  obtain ⟨text, htext, hread⟩ := readText_writeText key
  rw [htext, List.cons_append, readMembers, skipBlanks_cons rfl]
  simp [hread, skipColon, skipBlanks_append hbefore, readValue_blanks hafter, hvalue,
    skipBlanks_append hgap, skipBlanks_cons, isBlank]

/-- A comma stands behind every other member. -/
theorem readMembers_more {members : List (Option String × Json)} {more : List Char}
    (hbefore : Blank before) (hafter : Blank after)
    (hvalue : readValue fuel chars = some (value, gap ++ ',' :: (next ++ more)))
    (hgap : Blank gap) (hnext : Blank next)
    (hmembers : readMembers fuel more = some (members, rest)) :
    readMembers (fuel + 1) (writeText key ++ (before ++ ':' :: (after ++ chars))) =
      some ((key, value) :: members, rest) := by
  obtain ⟨text, htext, hread⟩ := readText_writeText key
  rw [htext, List.cons_append, readMembers, skipBlanks_cons rfl]
  simp [hread, skipColon, skipBlanks_append hbefore, readValue_blanks hafter, hvalue,
    skipBlanks_append hgap, skipBlanks_cons, isBlank, readMembers_blanks hnext, hmembers]

end Tokens

/-- Items start with a token that is no closing bracket. -/
theorem SpellsItems.exists_first {items : List Json} {text : List Char}
    (h : SpellsItems items text) :
    ∃ first chars, text = first :: chars ∧ isBlank first = false ∧ first ≠ ']' := by
  cases h with
  | last hitem | more hitem =>
    obtain ⟨first, chars, rfl, hfirst⟩ := hitem.exists_first
    exact ⟨first, _, rfl, hfirst⟩

/-- Members start with a quote. -/
theorem SpellsMembers.exists_first {members : List (Option String × Json)} {text : List Char}
    (h : SpellsMembers members text) : ∃ chars, text = '"' :: chars := by
  cases h with
  | last hmember | more hmember =>
    cases hmember with
    | @mk key =>
      obtain ⟨chars, htext, _⟩ := readText_writeText key
      rw [htext]
      exact ⟨_, rfl⟩

/-- What a reader of limited depth makes of spellings that are not longer than it is deep. -/
structure Reads (fuel : Nat) : Prop where
  /-- A value is read to its last token. -/
  value : ∀ value text rest, Spells value text → JsonNumber.Ends rest → text.length ≤ fuel →
    readValue fuel (text ++ rest) = some (value, rest)
  /-- Items are read to their bracket. -/
  items : ∀ items text rest, SpellsItems items text → text.length ≤ fuel →
    readItems fuel (text ++ rest) = some (items, rest)
  /-- Members are read to their brace. -/
  members : ∀ members text rest, SpellsMembers members text → text.length ≤ fuel →
    readMembers fuel (text ++ rest) = some (members, rest)

/-- There is no spelling without a character. -/
theorem reads_zero : Reads 0 := by
  constructor
  · intro value text rest h _ hfuel
    obtain ⟨first, chars, rfl, _⟩ := h.exists_first
    cases hfuel
  · intro items text rest h hfuel
    obtain ⟨first, chars, rfl, _⟩ := h.exists_first
    cases hfuel
  · intro members text rest h hfuel
    obtain ⟨chars, rfl⟩ := h.exists_first
    cases hfuel

section Step

variable {fuel : Nat} {text rest : List Char}

/-- A value is read if its items and members are. -/
theorem Reads.value_succ (hreads : Reads fuel) {value : Json} (h : Spells value text)
    (hrest : JsonNumber.Ends rest) (hfuel : text.length ≤ fuel + 1) :
    readValue (fuel + 1) (text ++ rest) = some (value, rest) := by
  cases h with
  | null | yes | no => rfl
  | number hproper => exact readValue_number hproper hrest fuel
  | string text => exact readValue_string text rest fuel
  | emptyArray hgap =>
    rw [List.cons_append, List.append_assoc]
    exact readValue_emptyArray hgap rest fuel
  | @array gap text items hgap hitems =>
    have hread := hreads.items items text rest hitems (by simp at hfuel; omega)
    obtain ⟨first, chars, rfl, hblank, hfirst⟩ := hitems.exists_first
    rw [List.cons_append, List.append_assoc]
    exact readValue_array hgap hblank hfirst hread
  | emptyObject hgap =>
    rw [List.cons_append, List.append_assoc]
    exact readValue_emptyObject hgap rest fuel
  | @object gap text members hgap hmembers =>
    have hread := hreads.members members text rest hmembers (by simp at hfuel; omega)
    obtain ⟨chars, rfl⟩ := hmembers.exists_first
    rw [List.cons_append, List.append_assoc]
    exact readValue_object hgap hread

/-- Items are read if each of them is. -/
theorem Reads.items_succ (hreads : Reads fuel) {items : List Json} (h : SpellsItems items text)
    (hfuel : text.length ≤ fuel + 1) :
    readItems (fuel + 1) (text ++ rest) = some (items, rest) := by
  cases h with
  | @last item text gap hitem hgap =>
    have hread := hreads.value item text (gap ++ ']' :: rest) hitem (hgap.ends_append rfl rest)
      (by simp at hfuel; omega)
    simp only [List.append_assoc, List.cons_append]
    exact readItems_last hread hgap
  | @more item items text gap next texts hitem hgap hnext hitems =>
    have hread := hreads.value item text (gap ++ ',' :: (next ++ (texts ++ rest))) hitem
      (hgap.ends_append rfl _) (by simp at hfuel; omega)
    have hmore := hreads.items items texts rest hitems (by simp at hfuel; omega)
    simp only [List.append_assoc, List.cons_append]
    exact readItems_more hread hgap hnext hmore

/-- Members are read if the value of each of them is. -/
theorem Reads.members_succ (hreads : Reads fuel) {members : List (Option String × Json)}
    (h : SpellsMembers members text) (hfuel : text.length ≤ fuel + 1) :
    readMembers (fuel + 1) (text ++ rest) = some (members, rest) := by
  cases h with
  | @last _ _ gap hmember hgap =>
    cases hmember with
    | @mk key value before after text hbefore hafter hvalue =>
      have hread := hreads.value value text (gap ++ '}' :: rest) hvalue
        (hgap.ends_append rfl rest) (by simp at hfuel; omega)
      simp only [List.append_assoc, List.cons_append]
      exact readMembers_last hbefore hafter hread hgap
  | @more _ members _ gap next texts hmember hgap hnext hmembers =>
    cases hmember with
    | @mk key value before after text hbefore hafter hvalue =>
      have hread := hreads.value value text (gap ++ ',' :: (next ++ (texts ++ rest))) hvalue
        (hgap.ends_append rfl _) (by simp at hfuel; omega)
      have hmore := hreads.members members texts rest hmembers (by simp at hfuel; omega)
      simp only [List.append_assoc, List.cons_append]
      exact readMembers_more hbefore hafter hread hgap hnext hmore

end Step

/-- A reader of any depth reads what is not longer than it is deep. The induction is on the depth,
since readers of values, items and members call each other. -/
theorem reads (fuel : Nat) : Reads fuel := by
  induction fuel with
  | zero => exact reads_zero
  | succ fuel ih =>
    exact ⟨fun _ _ _ h hrest hfuel => ih.value_succ h hrest hfuel,
      fun _ _ _ h hfuel => ih.items_succ h hfuel, fun _ _ _ h hfuel => ih.members_succ h hfuel⟩

/-- A text is read as the value that it spells, and blanks may stand around it. -/
theorem ofText?_of_spells {value : Json} {before text after : List Char} (hbefore : Blank before)
    (h : Spells value text) (hafter : Blank after) :
    ofText? (String.ofList (before ++ (text ++ after))) = some value := by
  have hread := (reads (2 * (String.ofList (before ++ (text ++ after))).length + 2)).value
    value text after h hafter.ends (by simp; omega)
  have hend : skipBlanks after = [] := List.dropWhile_eq_nil_iff.mpr hafter
  rw [ofText?, String.toList_ofList, readValue_blanks hbefore, hread]
  simp [hend]

/-- Every number in a value has nothing but digits behind its point. -/
inductive Proper : Json → Prop
  | null : Proper .null
  | bool (value : Bool) : Proper (.bool value)
  | number {number : JsonNumber} : number.IsProper → Proper (.number number)
  | string (text : Option String) : Proper (.string text)
  | array {items : List Json} : (∀ item ∈ items, Proper item) → Proper (.array items)
  | object {members : List (Option String × Json)} :
      (∀ member ∈ members, Proper member.2) → Proper (.object members)

/-- No blank is a blank. -/
theorem blank_nil : Blank [] := nofun

/-- One blank is blank. -/
theorem blank_space : Blank [' '] := by
  rintro _ ⟨⟩
  · rfl
  · contradiction

/-- The start of a line is blank. -/
theorem blank_newLine (depth : Nat) : Blank (newLine depth) := by
  intro char hchar
  rcases List.mem_cons.mp hchar with rfl | hspace
  · rfl
  · rw [List.eq_of_mem_replicate hspace]
    rfl

/-- Items without blanks are separated by commas alone. -/
theorem spells_writeItems {items : List Json} (hne : items ≠ [])
    (h : ∀ item ∈ items, Spells item item.write) :
    SpellsItems items (writeItems items ++ [']']) := by
  induction items with
  | nil => cases hne rfl
  | cons item items ih =>
    obtain ⟨hitem, hitems⟩ := List.forall_mem_cons.mp h
    cases items with
    | nil => exact .last hitem blank_nil
    | cons second items =>
      have hmore := SpellsItems.more hitem blank_nil blank_nil (ih (by simp) hitems)
      simpa [writeItems] using hmore

/-- Members without blanks are separated by commas alone. -/
theorem spells_writeMembers {members : List (Option String × Json)} (hne : members ≠ [])
    (h : ∀ member ∈ members, Spells member.2 member.2.write) :
    SpellsMembers members (writeMembers members ++ ['}']) := by
  induction members with
  | nil => cases hne rfl
  | cons member members ih =>
    obtain ⟨key, value⟩ := member
    obtain ⟨hvalue, hmembers⟩ := List.forall_mem_cons.mp h
    have hmember : SpellsMember (key, value) (writeText key ++ ':' :: value.write) :=
      .mk blank_nil blank_nil hvalue
    cases members with
    | nil => exact .last hmember blank_nil
    | cons second members =>
      have hmore := SpellsMembers.more hmember blank_nil blank_nil (ih (by simp) hmembers)
      simpa [writeMembers] using hmore

/-- The compact form of a value spells it. -/
theorem spells_write {value : Json} (h : value.Proper) : Spells value value.write := by
  induction h with
  | null => exact .null
  | bool value =>
    cases value with
    | true => exact .yes
    | false => exact .no
  | number hproper => exact .number hproper
  | string text => exact .string text
  | @array items _ ih =>
    cases items with
    | nil => exact .emptyArray blank_nil
    | cons item items =>
      have harray := Spells.array blank_nil (spells_writeItems (by simp) ih)
      exact harray
  | @object members _ ih =>
    cases members with
    | nil => exact .emptyObject blank_nil
    | cons member members =>
      have hobject := Spells.object blank_nil (spells_writeMembers (by simp) ih)
      exact hobject

/-- Every item on a line of its own is spelled behind the start of that line. -/
theorem spells_writePrettyItems (depth outer : Nat) {items : List Json} (hne : items ≠ [])
    (h : ∀ item ∈ items, Spells item (item.writePretty depth)) :
    ∃ text, writePrettyItems depth items ++ newLine outer ++ [']'] = newLine depth ++ text ∧
      SpellsItems items text := by
  induction items with
  | nil => cases hne rfl
  | cons item items ih =>
    obtain ⟨hitem, hitems⟩ := List.forall_mem_cons.mp h
    cases items with
    | nil =>
      refine ⟨_, ?_, .last hitem (blank_newLine outer)⟩
      simp [writePrettyItems]
    | cons second items =>
      obtain ⟨text, htext, hspells⟩ := ih (by simp) hitems
      refine ⟨_, ?_, .more hitem blank_nil (blank_newLine depth) hspells⟩
      rw [← htext]
      simp [writePrettyItems]

/-- Every member on a line of its own is spelled behind the start of that line. -/
theorem spells_writePrettyMembers (depth outer : Nat) {members : List (Option String × Json)}
    (hne : members ≠ []) (h : ∀ member ∈ members, Spells member.2 (member.2.writePretty depth)) :
    ∃ text, writePrettyMembers depth members ++ newLine outer ++ ['}'] = newLine depth ++ text ∧
      SpellsMembers members text := by
  induction members with
  | nil => cases hne rfl
  | cons member members ih =>
    obtain ⟨key, value⟩ := member
    obtain ⟨hvalue, hmembers⟩ := List.forall_mem_cons.mp h
    have hmember : SpellsMember (key, value)
        (writeText key ++ ([] ++ ':' :: ([' '] ++ value.writePretty depth))) :=
      .mk blank_nil blank_space hvalue
    cases members with
    | nil =>
      refine ⟨_, ?_, .last hmember (blank_newLine outer)⟩
      simp [writePrettyMembers]
    | cons second members =>
      obtain ⟨text, htext, hspells⟩ := ih (by simp) hmembers
      refine ⟨_, ?_, .more hmember blank_nil (blank_newLine depth) hspells⟩
      rw [← htext]
      simp [writePrettyMembers]

/-- The pretty form of a value spells it. -/
theorem spells_writePretty {value : Json} (h : value.Proper) (depth : Nat) :
    Spells value (value.writePretty depth) := by
  induction h generalizing depth with
  | null => exact .null
  | bool value =>
    cases value with
    | true => exact .yes
    | false => exact .no
  | number hproper => exact .number hproper
  | string text => exact .string text
  | @array items _ ih =>
    cases items with
    | nil => exact .emptyArray blank_nil
    | cons item items =>
      obtain ⟨text, htext, hspells⟩ := spells_writePrettyItems (depth + 1) depth
        (List.cons_ne_nil item items) fun item hitem => ih item hitem (depth + 1)
      rw [writePretty, htext]
      exact .array (blank_newLine _) hspells
  | @object members _ ih =>
    cases members with
    | nil => exact .emptyObject blank_nil
    | cons member members =>
      obtain ⟨text, htext, hspells⟩ := spells_writePrettyMembers (depth + 1) depth
        (List.cons_ne_nil member members) fun member hmember => ih member hmember (depth + 1)
      rw [writePretty, htext]
      exact .object (blank_newLine _) hspells

/-- A value is read back from its compact text. -/
theorem ofText?_text {value : Json} (h : value.Proper) : ofText? value.text = some value := by
  have hread := ofText?_of_spells blank_nil (spells_write h) blank_nil
  rwa [List.append_nil] at hread

/-- A value is read back from its pretty text. -/
theorem ofText?_prettyText {value : Json} (h : value.Proper) :
    ofText? value.prettyText = some value := by
  have hread := ofText?_of_spells blank_nil (spells_writePretty h 0) blank_nil
  rwa [List.append_nil] at hread

end ShapedObjects.Json
