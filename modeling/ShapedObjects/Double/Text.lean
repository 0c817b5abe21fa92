import ShapedObjects.Double.Rounding
import ShapedObjects.Double.Shortest

/-!
# Doubles as text

An integral double is shown with all its digits and every other finite double
with the shortest digits that read back. An exponent is never shown, and a finite
double always has a decimal point.
-/

namespace ShapedObjects

/-- The last `places` digits of a number. -/
def fractionDigits (number places : Nat) : List Char :=
  let digits := Nat.toDigits 10 (number % Nat.pow 10 places)
  List.replicate (places - digits.length) '0' ++ digits

/-- A number with a decimal point before its last `places` digits. -/
def pointed (number places : Nat) : String :=
  toString (number / Nat.pow 10 places) ++ "." ++ String.ofList (fractionDigits number places)

namespace Decimal

/-- The decimal without an exponent and with at least one digit after the point. -/
def positional (decimal : Decimal) : String :=
  if decimal.exponent < 0 then
    pointed decimal.digits (-decimal.exponent).toNat
  else toString (decimal.digits * Nat.pow 10 decimal.exponent.toNat) ++ ".0"

end Decimal

namespace Double

/-- The sign of a double as it stands before its digits. -/
def signText (x : Double) : String := if x.isNegative then "-" else ""

/-- The text of a double for people. -/
def text (x : Double) : String :=
  if x.isNaN then "NaN"
  else if x.isInfinite then x.signText ++ "inf"
  else if x.isIntegral then x.signText ++ toString (x.fraction.1 / x.fraction.2) ++ ".0"
  else x.signText ++ (x.shortest .up).positional

/-- A nonnegative finite double rounded to one decimal place. -/
def oneDecimalText (x : Double) : String :=
  pointed (roundHalfEven (10 * x.fraction.1) x.fraction.2) 1

end Double

end ShapedObjects
