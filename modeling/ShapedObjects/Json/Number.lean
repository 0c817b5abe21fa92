import ShapedObjects.Double.Text
import ShapedObjects.Json

/-!
# JSON numbers

Integers are read exactly. A float is read in double precision: its leading digits
that fit 64 bits are rounded to a double, which is then multiplied or divided by
the double nearest to a power of ten. A float is written with its shortest digits,
positionally from `0.00001` to below `10 ^ 16` and with an exponent otherwise.
-/

namespace ShapedObjects.JsonNumber

/-- The number as it is written. An exponent always has a sign. -/
def write (number : JsonNumber) : List Char :=
  (if number.isNegative then ['-'] else []) ++ Nat.toDigits 10 number.whole ++
    (if number.fraction.isEmpty then [] else '.' :: number.fraction) ++
    match number.exponent with
    | none => []
    | some exponent =>
      'e' :: (if exponent < 0 then '-' else '+') :: Nat.toDigits 10 exponent.natAbs

/-- The value of a run of digits. -/
def digitsValue (digits : List Char) : Nat := Nat.ofDigitChars 10 digits 0

/-- Reads the digits behind a point, if a point comes next. -/
def readFraction : List Char → Option (List Char × List Char)
  | '.' :: rest =>
    let digits := rest.takeWhile Char.isDigit
    if digits.isEmpty then none else some (digits, rest.dropWhile Char.isDigit)
  | chars => some ([], chars)

/-- Splits off a sign and tells whether it is a minus. -/
def readSign : List Char → Bool × List Char
  | '-' :: rest => (true, rest)
  | '+' :: rest => (false, rest)
  | chars => (false, chars)

/-- Reads a power of ten, if one comes next. -/
def readExponent : List Char → Option (Option Int × List Char)
  | 'e' :: rest | 'E' :: rest =>
    let (isNegative, rest) := readSign rest
    let digits := rest.takeWhile Char.isDigit
    let size : Int := digitsValue digits
    if digits.isEmpty then none
    else some (some (if isNegative then -size else size), rest.dropWhile Char.isDigit)
  | chars => some (none, chars)

/-- Reads a number. Its first digit is zero only if it is the only one before the point. -/
def read (chars : List Char) : Option (JsonNumber × List Char) := do
  let (isNegative, chars) := match chars with
    | '-' :: rest => (true, rest)
    | chars => (false, chars)
  let digits := chars.takeWhile Char.isDigit
  guard (!digits.isEmpty)
  guard (digits.head? ≠ some '0' ∨ digits.length = 1)
  let (fraction, rest) ← readFraction (chars.dropWhile Char.isDigit)
  let (exponent, rest) ← readExponent rest
  return (⟨isNegative, digitsValue digits, fraction, exponent⟩, rest)

/-- An integer as a number. -/
def ofInt (value : Int) : JsonNumber := ⟨value < 0, value.natAbs, [], none⟩

/-- The integer that a number is written as. One with a point or an exponent is not an integer,
and neither is the negative zero. -/
def toInt? (number : JsonNumber) : Option Int :=
  if !number.fraction.isEmpty || number.exponent.isSome then none
  else if number.isNegative then
    if number.whole = 0 then none else some (-number.whole)
  else some number.whole

/-- An integer is read back from the number that it is written as. -/
@[simp] theorem toInt?_ofInt (value : Int) : (ofInt value).toInt? = some value := by
  have hplain : (!(ofInt value).fraction.isEmpty || (ofInt value).exponent.isSome) = false := rfl
  unfold toInt?
  rw [hplain, if_neg Bool.false_ne_true]
  by_cases hnegative : value < 0
  · have hsign : (ofInt value).isNegative = true := decide_eq_true hnegative
    have hwhole : (ofInt value).whole ≠ 0 := Int.natAbs_ne_zero.mpr (by omega)
    have hvalue : -((ofInt value).whole : Int) = value := by
      change -(value.natAbs : Int) = value
      omega
    rw [if_pos hsign, if_neg hwhole, hvalue]
  · have hsign : ¬(ofInt value).isNegative = true := by
      change ¬decide (value < 0) = true
      rwa [decide_eq_true_iff]
    have hvalue : ((ofInt value).whole : Int) = value := by
      change (value.natAbs : Int) = value
      omega
    rw [if_neg hsign, hvalue]

/-- The number that shows a finite double. -/
def ofDouble (x : Double) : JsonNumber :=
  if x.isZero then ⟨x.isNegative, 0, ['0'], none⟩
  else
    let decimal := x.shortest .even
    let digits := Nat.toDigits 10 decimal.digits
    let size : Int := digits.length + decimal.exponent - 1
    if size < -5 ∨ 15 < size then
      ⟨x.isNegative, digitsValue (digits.take 1), digits.drop 1, some size⟩
    else if 0 ≤ decimal.exponent then
      ⟨x.isNegative, decimal.digits * Nat.pow 10 decimal.exponent.toNat, ['0'], none⟩
    else
      let places := (-decimal.exponent).toNat
      ⟨x.isNegative, decimal.digits / Nat.pow 10 places,
        fractionDigits decimal.digits places, none⟩

/-- Appends digits to a number while it fits 64 bits. Also gives the digits that are left. -/
def absorb (significand : Nat) : List Char → Nat × List Char
  | [] => (significand, [])
  | digit :: rest =>
    let next := 10 * significand + (digit.toNat - '0'.toNat)
    if next < UInt64.size then absorb next rest else (significand, digit :: rest)

/-- The double nearest to a power of ten. -/
def powerOfTen (exponent : Nat) : Double := Double.ofNat (Nat.pow 10 exponent)

/-- The exponent of the largest power of ten that is not infinite as a double. -/
def largestPower : Nat := 308

/-- A nonnegative double times a power of ten, unless that is too large for a double. An exponent
below the range of doubles is worked off in steps. -/
def scale (x : Double) (exponent : Int) : Nat → Option Double
  | 0 =>
    if exponent < 0 then some (x.divide (powerOfTen exponent.natAbs))
    else
      let product := x.multiply (powerOfTen exponent.natAbs)
      if product.isInfinite then none else some product
  | steps + 1 =>
    if x.isZero then some x
    else if 0 ≤ exponent then none
    else scale (x.divide (powerOfTen largestPower)) (exponent + largestPower) steps

/-- The number of steps to an exponent that is in the range of doubles. -/
def scaleSteps (exponent : Int) : Nat := (exponent.natAbs - 1) / largestPower

/-- The double that a number is read as, unless it is too large. -/
def toDouble? (number : JsonNumber) : Option Double :=
  let (significand, skipped) := absorb 0 (Nat.toDigits 10 number.whole)
  let (significand, dropped) := absorb significand number.fraction
  let exponent : Int := number.exponent.getD 0 + skipped.length + dropped.length -
    number.fraction.length
  let magnitude := scale (Double.ofNat significand) exponent (scaleSteps exponent)
  magnitude.map fun x => if number.isNegative then x.negate else x

end ShapedObjects.JsonNumber
