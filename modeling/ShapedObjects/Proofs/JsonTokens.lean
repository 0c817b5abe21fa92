import Mathlib.Data.Option.Basic
import ShapedObjects.Json.Reader
import ShapedObjects.Proofs.Assign

/-!
# Numbers and strings in JSON texts

A number and a string are read back as they were written, whatever text follows. A string says
itself where it ends. A number ends where no character follows that could be part of it. The
short escapes, the escapes of control characters and the characters that stand for themselves
exclude each other, so what was escaped is read as the character that it was.
-/

namespace ShapedObjects

/-- Digits that no digit follows are read to their end. -/
theorem takeWhile_isDigit {digits rest : List Char}
    (hdigits : ∀ digit ∈ digits, digit.isDigit = true)
    (hrest : ∀ char ∈ rest.head?, char.isDigit = false) :
    (digits ++ rest).takeWhile Char.isDigit = digits ∧
      (digits ++ rest).dropWhile Char.isDigit = rest := by
  rw [List.takeWhile_append_of_pos hdigits, List.dropWhile_append_of_pos hdigits]
  cases rest with
  | nil => simp
  | cons char rest => simp [hrest char rfl]

namespace JsonNumber

/-- The digits behind the point are digits. -/
def IsProper (number : JsonNumber) : Prop := ∀ digit ∈ number.fraction, digit.isDigit = true

/-- An integer has no digits behind a point. -/
theorem isProper_ofInt (value : Int) : (ofInt value).IsProper := nofun

/-- Whether a character behind a number could be part of it. -/
def continues (char : Char) : Bool :=
  char.isDigit || char = '.' || char = 'e' || char = 'E'

/-- No part of a number comes next. -/
def Ends (rest : List Char) : Prop := ∀ char ∈ rest.head?, continues char = false

/-- The digits of a natural are digits. -/
theorem isDigit_of_mem_digits (value : Nat) :
    ∀ digit ∈ Nat.toDigits 10 value, digit.isDigit = true := fun _ hdigit =>
  Nat.isDigit_of_mem_toDigits (by decide) (by decide) hdigit

/-- A natural has a first digit. -/
theorem exists_first_digit (value : Nat) : ∃ first digits,
    Nat.toDigits 10 value = first :: digits ∧ first.isDigit = true := by
  obtain ⟨first, digits, hdigits⟩ := List.exists_cons_of_ne_nil
    (Nat.toDigits_ne_nil (b := 10) (n := value))
  exact ⟨first, digits, hdigits,
    isDigit_of_mem_digits value first (hdigits ▸ List.mem_cons_self)⟩

/-- The first digit of a positive natural is not zero. -/
theorem head?_digits {value : Nat} (h : 0 < value) :
    (Nat.toDigits 10 value).head? ≠ some '0' := by
  induction value using Nat.strongRecOn with
  | ind value ih =>
    by_cases hsmall : value < 10
    · rw [Nat.toDigits_of_lt_base hsmall, List.head?_cons, ne_eq, Option.some.injEq,
        Nat.digitChar_eq_zero]
      omega
    · have hsplit := Nat.toDigits_of_base_le (b := 10) (n := value) (by decide) (by omega)
      rw [hsplit, List.head?_append, List.head?_eq_some_head Nat.toDigits_ne_nil, Option.some_or,
        ← List.head?_eq_some_head]
      exact ih (value / 10) (by omega) (by omega)

/-- The point and the digits behind it as they are written. -/
def writeFraction (number : JsonNumber) : List Char :=
  if number.fraction.isEmpty then [] else '.' :: number.fraction

/-- The power of ten as it is written. -/
def writeExponent (number : JsonNumber) : List Char :=
  match number.exponent with
  | none => []
  | some exponent =>
    'e' :: (if exponent < 0 then '-' else '+') :: Nat.toDigits 10 exponent.natAbs

/-- A number is written part by part. -/
theorem write_eq (number : JsonNumber) :
    number.write = (if number.isNegative then ['-'] else []) ++ (Nat.toDigits 10 number.whole ++
      (number.writeFraction ++ number.writeExponent)) := by
  rw [← List.append_assoc, ← List.append_assoc]
  rfl

variable {number : JsonNumber} {rest : List Char}

/-- No digit comes next where a number ends. -/
theorem Ends.isDigit (h : Ends rest) : ∀ char ∈ rest.head?, char.isDigit = false := by
  intro char hchar
  have hends := h char hchar
  simp only [continues, Bool.or_eq_false_iff] at hends
  exact hends.1.1.1

/-- A power of ten is read back. -/
theorem readExponent_writeExponent (h : Ends rest) :
    readExponent (number.writeExponent ++ rest) = some (number.exponent, rest) := by
  rw [writeExponent]
  cases number.exponent with
  | none =>
    cases rest with
    | nil => rfl
    | cons char rest =>
      have hends := h char rfl
      simp [continues] at hends
      rw [List.nil_append, readExponent]
      · exact fun _ heq => hends.1.2 (List.cons.inj heq).1
      · exact fun _ heq => hends.2 (List.cons.inj heq).1
  | some exponent =>
    obtain ⟨htake, hdrop⟩ := takeWhile_isDigit
      (isDigit_of_mem_digits exponent.natAbs) h.isDigit
    have hvalue : digitsValue (Nat.toDigits 10 exponent.natAbs) = exponent.natAbs :=
      Nat.ofDigitChars_ten_toDigits
    by_cases hnegative : exponent < 0
    · have hsize : -(exponent.natAbs : Int) = exponent := by omega
      simpa [readExponent, readSign, hnegative, htake, hdrop, hvalue, Nat.toDigits_ne_nil]
        using hsize
    · have hsize : (exponent.natAbs : Int) = exponent := by omega
      simpa [readExponent, readSign, hnegative, htake, hdrop, hvalue, Nat.toDigits_ne_nil]
        using hsize

/-- Behind the digits of a number there is no further digit or point. -/
theorem head?_writeExponent (number : JsonNumber) (h : Ends rest) :
    ∀ char ∈ (number.writeExponent ++ rest).head?, char.isDigit = false ∧ char ≠ '.' := by
  rw [writeExponent]
  cases number.exponent with
  | none =>
    intro char hchar
    have hends := h char hchar
    simp only [continues, Bool.or_eq_false_iff, decide_eq_false_iff_not] at hends
    exact hends.1.1
  | some exponent =>
    rintro _ ⟨⟩
    decide

/-- The digits behind a point are read back. -/
theorem readFraction_writeFraction (hproper : number.IsProper) (h : Ends rest) :
    readFraction (number.writeFraction ++ (number.writeExponent ++ rest)) =
      some (number.fraction, number.writeExponent ++ rest) := by
  have hhead := head?_writeExponent number h
  rw [writeFraction]
  cases hfraction : number.fraction with
  | nil =>
    rw [List.isEmpty_nil, if_pos rfl, List.nil_append, readFraction]
    intro more heq
    rw [heq] at hhead
    exact (hhead '.' rfl).2 rfl
  | cons digit digits =>
    obtain ⟨htake, hdrop⟩ := takeWhile_isDigit hproper fun char hchar => (hhead char hchar).1
    rw [List.isEmpty_cons, if_neg Bool.false_ne_true, ← hfraction, List.cons_append,
      readFraction, htake, hdrop]
    simp [hfraction]

/-- Behind the whole part of a number there is no further digit. -/
theorem head?_writeFraction (number : JsonNumber) (h : Ends rest) :
    ∀ char ∈ (number.writeFraction ++ (number.writeExponent ++ rest)).head?,
      char.isDigit = false := by
  rw [writeFraction]
  cases number.fraction with
  | nil => exact fun char hchar => (head?_writeExponent number h char hchar).1
  | cons =>
    rintro _ ⟨⟩
    decide

/-- Reads a number whose sign was read already. -/
def readUnsigned (isNegative : Bool) (chars : List Char) : Option (JsonNumber × List Char) := do
  let digits := chars.takeWhile Char.isDigit
  guard (!digits.isEmpty)
  guard (digits.head? ≠ some '0' ∨ digits.length = 1)
  let (fraction, rest) ← readFraction (chars.dropWhile Char.isDigit)
  let (exponent, rest) ← readExponent rest
  return (⟨isNegative, digitsValue digits, fraction, exponent⟩, rest)

/-- A minus sign is read first. -/
theorem read_minus (chars : List Char) : read ('-' :: chars) = readUnsigned true chars := rfl

/-- There may be no minus sign. -/
theorem read_of_ne {first : Char} (h : first ≠ '-') (chars : List Char) :
    read (first :: chars) = readUnsigned false (first :: chars) := by
  simp [read, readUnsigned, h]

/-- Behind its sign, a number is read back, up to where it ends. -/
theorem readUnsigned_write (isNegative : Bool) (hproper : number.IsProper) (h : Ends rest) :
    readUnsigned isNegative (Nat.toDigits 10 number.whole ++
        (number.writeFraction ++ (number.writeExponent ++ rest))) =
      some (⟨isNegative, number.whole, number.fraction, number.exponent⟩, rest) := by
  obtain ⟨htake, hdrop⟩ := takeWhile_isDigit
    (isDigit_of_mem_digits number.whole) (head?_writeFraction number h)
  have hvalue : digitsValue (Nat.toDigits 10 number.whole) = number.whole :=
    Nat.ofDigitChars_ten_toDigits
  have hdigits : (guard ((!(Nat.toDigits 10 number.whole).isEmpty) = true) : Option Unit) =
      some () := if_pos (by simp [Nat.toDigits_ne_nil])
  have hfirst : (guard ((Nat.toDigits 10 number.whole).head? ≠ some '0' ∨
      (Nat.toDigits 10 number.whole).length = 1) : Option Unit) = some () := by
    refine if_pos ?_
    rcases Nat.eq_zero_or_pos number.whole with hzero | hpos
    · exact Or.inr (by rw [hzero]; rfl)
    · exact Or.inl (head?_digits hpos)
  unfold readUnsigned
  dsimp only
  rw [htake, hdrop, hdigits, hfirst, readFraction_writeFraction hproper h, hvalue]
  dsimp only [Option.bind_eq_bind, Option.bind_some]
  rw [readExponent_writeExponent h]
  rfl

/-- A number is read back, up to where it ends. -/
theorem read_write (hproper : number.IsProper) (h : Ends rest) :
    read (number.write ++ rest) = some (number, rest) := by
  rw [write_eq, List.append_assoc, List.append_assoc, List.append_assoc]
  cases hsign : number.isNegative with
  | true =>
    rw [if_pos rfl, List.singleton_append, read_minus, readUnsigned_write true hproper h, ← hsign]
  | false =>
    have hunsigned := readUnsigned_write false hproper h
    obtain ⟨first, digits, hdigits, hdigit⟩ := exists_first_digit number.whole
    have hminus : first ≠ '-' := by
      rintro rfl
      cases hdigit
    rw [hdigits, List.cons_append] at hunsigned ⊢
    rw [if_neg Bool.false_ne_true, List.nil_append, read_of_ne hminus, hunsigned, ← hsign]

/-- A number starts with a minus sign or a digit. -/
theorem head_write (number : JsonNumber) : ∃ first chars, number.write = first :: chars ∧
    (first = '-' ∨ first.isDigit = true) := by
  rw [write_eq]
  cases number.isNegative with
  | true => exact ⟨'-', _, rfl, Or.inl rfl⟩
  | false =>
    obtain ⟨first, digits, hdigits, hdigit⟩ := exists_first_digit number.whole
    exact ⟨first, _, by rw [hdigits]; rfl, Or.inr hdigit⟩

end JsonNumber

namespace Json

/-- The unit that a character is read as. Only control characters without a short escape are written
as their codes. -/
def unitOf (char : Char) : TextUnit :=
  if shortEscape? char = none ∧ char.toNat < 32 then .code char.toNat else .char char

/-- A short escape stands for the character that it was written for, and is no code. -/
theorem shortEscaped?_of_shortEscape? {char letter : Char}
    (h : shortEscape? char = some letter) : shortEscaped? letter = some char ∧ letter ≠ 'u' := by
  have hall : ∀ entry ∈ [('"', '"'), ('\\', '\\'), ('\x08', 'b'), ('\x0c', 'f'), ('\n', 'n'),
      ('\r', 'r'), ('\t', 't')], shortEscaped? entry.2 = some entry.1 ∧ entry.2 ≠ 'u' := by
    decide
  exact hall (char, letter) (mem_of_lookup h)

/-- A hexadecimal digit is read as its value. -/
theorem hexDigit?_digitChar {digit : Nat} (h : digit < 16) :
    hexDigit? (Nat.digitChar digit) = some digit := by
  decide +revert

/-- Four digits of a small code are read as the code. -/
theorem hexCode?_small {code : Nat} (h : code < 32) :
    hexCode? '0' '0' (Nat.digitChar (code / 16)) (Nat.digitChar (code % 16)) = some code := by
  have hzero : hexDigit? '0' = some 0 := rfl
  have hhigh : hexDigit? (Nat.digitChar (code / 16)) = some (code / 16) :=
    hexDigit?_digitChar (by omega)
  have hlow : hexDigit? (Nat.digitChar (code % 16)) = some (code % 16) :=
    hexDigit?_digitChar (by omega)
  simp only [hexCode?, hzero, hhigh, hlow]
  exact congrArg some (by omega)

/-- A character of a string is read as its unit. -/
theorem scanText_writeChar (char : Char) (chars : List Char) :
    scanText (writeChar char ++ chars) = do
      let (units, rest) ← scanText chars
      return (unitOf char :: units, rest) := by
  rw [writeChar, unitOf]
  cases hshort : shortEscape? char with
  | some letter =>
    obtain ⟨hescaped, hletter⟩ := shortEscaped?_of_shortEscape? hshort
    rw [List.cons_append, List.cons_append, List.nil_append, scanText, hescaped]
    · rfl
    · exact fun _ _ _ _ _ hcode _ => hletter hcode
  | none =>
    by_cases hcontrol : char.toNat < 32
    · simp [hcontrol, scanText, hexCode?_small hcontrol]
    · have hquote : char ≠ '"' := by
        rintro rfl
        cases hshort
      have hbackslash : char ≠ '\\' := by
        rintro rfl
        cases hshort
      simp [hcontrol, scanText, hbackslash]

/-- A code that is no surrogate makes a character of its own. -/
theorem joinUnits_code {code : Nat} (h : code < 0xD800) (units : List TextUnit) :
    joinUnits (.code code :: units) = (joinUnits units).map (Char.ofNat code :: ·) := by
  have hhigh : isHighSurrogate code = false := by
    simp [isHighSurrogate]
    omega
  have hlow : isLowSurrogate code = false := by
    simp [isLowSurrogate]
    omega
  cases units with
  | nil => simp [joinUnits, hhigh, hlow]
  | cons unit units => cases unit <;> simp [joinUnits, hhigh, hlow]

/-- The units of some characters make these characters. -/
theorem joinUnits_map_unitOf (chars : List Char) : joinUnits (chars.map unitOf) = some chars := by
  induction chars with
  | nil => rfl
  | cons char chars ih =>
    rw [List.map_cons, unitOf]
    split
    · next hcontrol =>
      rw [joinUnits_code (by omega), ih, Char.ofNat_toNat]
      rfl
    · rw [joinUnits, ih]
      rfl

/-- The characters of a string are read as their units, up to the last quote. -/
theorem scanText_flatMap (chars rest : List Char) :
    scanText (chars.flatMap writeChar ++ '"' :: rest) = some (chars.map unitOf, rest) := by
  induction chars with
  | nil => rfl
  | cons char chars ih =>
    rw [List.flatMap_cons, List.append_assoc, scanText_writeChar, ih]
    rfl

/-- A string is written with a quote first, and behind that quote it is read back. -/
theorem readText_writeText (text : Option String) :
    ∃ chars, writeText text = '"' :: chars ∧
      ∀ rest, readText (chars ++ rest) = some (text, rest) := by
  cases text with
  | none => exact ⟨_, rfl, fun rest => rfl⟩
  | some text =>
    refine ⟨_, rfl, fun rest => ?_⟩
    rw [List.append_assoc, List.singleton_append, readText, scanText_flatMap]
    simp [joinUnits_map_unitOf]

end Json

end ShapedObjects
