import ShapedObjects.Double

/-!
# Shortest decimals

A decimal reads back as a double if it lies in the interval of numbers that round
to that double. The shortest decimal of a double is the point of the coarsest
decimal grid that reads back; of two such points it is the nearer one.
-/

namespace ShapedObjects

/-- The number `digits * 10 ^ exponent`. -/
structure Decimal where
  /-- The significant digits. -/
  digits : Nat
  /-- The power of ten. -/
  exponent : Int
deriving DecidableEq, Repr

/-- Which way to go from the middle between two decimals. -/
inductive Tie where
  /-- To the even neighbour. -/
  | even
  /-- To the larger neighbour. -/
  | up
deriving DecidableEq, Repr

namespace Double

/-- The distance from a double to the lower end of its rounding interval, in quarters of
the unit of its significand. Below a power of two the doubles lie twice as dense. -/
def lowerGap (x : Double) : Nat :=
  if x.significand = leadingBit ∧ -1074 < x.exponent then 1 else 2

/-- The factors `(a, b)` by which `n` quarters of the significand's unit are `n * a / b`
steps of the grid of multiples of `10 ^ grid`. -/
def gridScale (x : Double) (grid : Int) : Nat × Nat :=
  let quarter := x.exponent - 2
  (Nat.pow 2 quarter.toNat * Nat.pow 10 (-grid).toNat,
    Nat.pow 2 (-quarter).toNat * Nat.pow 10 grid.toNat)

/-- Whether `digits` steps of a grid round to the double. The ends of the interval belong
to it exactly if the significand is even. -/
def readsBack (x : Double) (grid : Int) (digits : Nat) : Bool :=
  let (a, b) := x.gridScale grid
  let low := (4 * x.significand - x.lowerGap) * a
  let high := (4 * x.significand + 2) * a
  if x.significand % 2 = 0 then low ≤ digits * b && digits * b ≤ high
  else low < digits * b && digits * b < high

/-- The point of a grid that reads back and is nearest to the double, if there is one. -/
def nearestOnGrid? (tie : Tie) (x : Double) (grid : Int) : Option Decimal :=
  let (a, b) := x.gridScale grid
  let value := 4 * x.significand * a
  let floor := value / b
  let nearer :=
    match compare (2 * value) ((2 * floor + 1) * b) with
    | .lt => floor
    | .gt => floor + 1
    | .eq => if tie = .up ∨ floor % 2 = 1 then floor + 1 else floor
  match x.readsBack grid floor, x.readsBack grid (floor + 1) with
  | false, false => none
  | true, false => some ⟨floor, grid⟩
  | false, true => some ⟨floor + 1, grid⟩
  | true, true => some ⟨nearer, grid⟩

/-- A grid that is at least as coarse as the double is large. -/
def coarsestGrid (x : Double) : Int :=
  ((x.significand.log2 : Int) + x.exponent + 1) * 30103 / 100000 + 1

/-- The shortest decimal that reads back as the magnitude of a finite double other than
zero. Nineteen grids reach from the size of the double to seventeen digits. -/
def shortest (tie : Tie) (x : Double) : Decimal :=
  ((List.range 20).findSome? fun step : Nat => x.nearestOnGrid? tie (x.coarsestGrid - step)).getD
    ⟨x.significand, 0⟩

end Double

end ShapedObjects
