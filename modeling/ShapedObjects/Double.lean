/-!
# Double-precision numbers

A double is kept as its 64 IEEE bits, so that a word can be stored and loaded
without losing a sign of zero or the payload of a NaN. A finite double is the
exact number `significand * 2 ^ exponent` with a sign.
-/

namespace ShapedObjects

/-- A double-precision number, as its IEEE bits. -/
structure Double where
  /-- Sign bit, eleven exponent bits, fifty-two fraction bits. -/
  bits : UInt64
deriving DecidableEq, Repr

namespace Double

/-- The weight of the sign bit, two to the sixty-third. -/
def signBit : Nat := 0x8000000000000000

/-- The weight of the leading bit of a normal significand, two to the fifty-second. -/
def leadingBit : Nat := 0x10000000000000

/-- Positive zero. -/
def zero : Double := ⟨0⟩

/-- Whether the sign bit is set. -/
def isNegative (x : Double) : Bool := signBit ≤ x.bits.toNat

/-- The bits without the sign: they order the magnitudes. -/
def magnitude (x : Double) : Nat := x.bits.toNat % signBit

/-- The magnitude of infinity. Larger magnitudes are NaN, smaller ones are finite. -/
def infinityMagnitude : Nat := 2047 * leadingBit

/-- Positive infinity. -/
def infinity : Double := ⟨UInt64.ofNat infinityMagnitude⟩

/-- Whether this is not a number. -/
def isNaN (x : Double) : Bool := infinityMagnitude < x.magnitude

/-- Whether this is positive or negative infinity. -/
def isInfinite (x : Double) : Bool := x.magnitude = infinityMagnitude

/-- Whether this is an ordinary number. -/
def isFinite (x : Double) : Bool := x.magnitude < infinityMagnitude

/-- Whether this is positive or negative zero. -/
def isZero (x : Double) : Bool := x.magnitude = 0

/-- IEEE equality: a NaN differs from every number, and the two zeros are equal. -/
def equals (x y : Double) : Bool :=
  !x.isNaN && !y.isNaN && (x.bits = y.bits || (x.isZero && y.isZero))

/-- The integer part of the exact form `significand * 2 ^ exponent`. -/
def significand (x : Double) : Nat :=
  if x.magnitude < leadingBit then x.magnitude else x.magnitude % leadingBit + leadingBit

/-- The power of two of the exact form `significand * 2 ^ exponent`. -/
def exponent (x : Double) : Int :=
  if x.magnitude < leadingBit then -1074 else (x.magnitude / leadingBit : Nat) - 1075

/-- The magnitude of a finite double as a fraction of two naturals. -/
def fraction (x : Double) : Nat × Nat :=
  (x.significand * Nat.pow 2 x.exponent.toNat, Nat.pow 2 (-x.exponent).toNat)

/-- Whether a finite double is an integer. -/
def isIntegral (x : Double) : Bool :=
  x.fraction.1 % x.fraction.2 = 0

/-- The double with the opposite sign. -/
def negate (x : Double) : Double := ⟨x.bits ^^^ 0x8000000000000000⟩

end Double

end ShapedObjects
