import ShapedObjects.Double

/-!
# Rounding fractions

Quotients of naturals are rounded to the nearest natural or to the nearest
double, and a tie goes to the even neighbour. Products and quotients of doubles
are the exact results rounded once.
-/

namespace ShapedObjects

/-- The natural nearest to `numerator / denominator`; a tie goes to the even neighbour. -/
def roundHalfEven (numerator denominator : Nat) : Nat :=
  let quotient := numerator / denominator
  let twice := 2 * (numerator % denominator)
  if twice < denominator then quotient
  else if denominator < twice then quotient + 1
  else quotient + quotient % 2

namespace Double

/-- The exponent at which `numerator / denominator` has a significand of fifty-three
bits, or the least exponent if that one is smaller. -/
def roundingExponent (numerator denominator : Nat) : Int :=
  let guess : Int := (numerator.log2 : Int) - denominator.log2 - 52
  let isSmall : Bool :=
    numerator * Nat.pow 2 (-guess).toNat < leadingBit * (denominator * Nat.pow 2 guess.toNat)
  max (-1074) (if isSmall then guess - 1 else guess)

/-- The nonnegative double nearest to a fraction with a positive denominator; a tie goes
to the even significand, and what is too large becomes infinity. -/
def ofFraction (numerator denominator : Nat) : Double :=
  if numerator = 0 then zero else
    let exponent := roundingExponent numerator denominator
    let significand :=
      roundHalfEven (numerator * Nat.pow 2 (-exponent).toNat)
        (denominator * Nat.pow 2 exponent.toNat)
    let magnitude := (exponent + 1074).toNat * leadingBit + significand
    if magnitude < infinityMagnitude then ⟨UInt64.ofNat magnitude⟩ else infinity

/-- The double nearest to a natural. -/
def ofNat (n : Nat) : Double := ofFraction n 1

/-- The product of two nonnegative finite doubles. -/
def multiply (x y : Double) : Double :=
  ofFraction (x.fraction.1 * y.fraction.1) (x.fraction.2 * y.fraction.2)

/-- The quotient of a nonnegative finite double by a positive finite one. -/
def divide (x y : Double) : Double :=
  ofFraction (x.fraction.1 * y.fraction.2) (x.fraction.2 * y.fraction.1)

end Double

end ShapedObjects
