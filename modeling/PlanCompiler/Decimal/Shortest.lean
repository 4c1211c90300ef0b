/-
# Decimal.Shortest -- the shortest decimal that reads back as a float

A float stands for every real that rounds to it: the interval that reaches half
way to the floats beside it, with its ends when the significand is even.  Its
shortest decimal is the point with the fewest digits inside that interval, and
of those the one nearest to the float.  Of two that are equally near, as 0.2 and
0.3 are to the last quarter of 952147735343338.25, the larger is taken.

For each number of digits, only the two neighbours of the float on that decimal
grid have to be tried: if any point of the grid is inside, one of the two is.
Seventeen digits always reach it.
-/
import PlanCompiler.Decimal.Binary

namespace PlanCompiler

set_option autoImplicit false

/-- The value `significand · 10 ^ exponent`. -/
structure Decimal where
  significand : Nat
  exponent : Int
deriving DecidableEq, Repr

namespace Decimal

/-- The number of decimal digits of a number, none for zero. -/
def width (n : Nat) : Nat :=
  if n = 0 then 0 else (Nat.toDigits 10 n).length

/-- The exponent of the first digit of `numerator / denominator`. -/
def leadingExponent (numerator denominator : Nat) : Int :=
  if denominator ≤ numerator then (width (numerator / denominator) : Int) - 1
  else -(width ((denominator - 1) / numerator) : Int)

/-- The reals that round to a float, in quarters of its unit `2 ^ exponent`.  Below a power of two
the next float is only half a unit away. -/
structure Interval where
  low : Nat
  centre : Nat
  high : Nat
  closed : Bool

def Interval.ofBinary (b : Binary) : Interval where
  low := 4 * b.significand - if b.significand = Nat.pow 2 52 ∧ Binary.minExponent < b.exponent then 1 else 2
  centre := 4 * b.significand
  high := 4 * b.significand + 2
  closed := b.significand % 2 = 0

/-- Whether `candidate / denominator` is inside the interval, its bounds times `numerator`. -/
def Interval.contains (i : Interval) (numerator : Nat) (candidate : Nat) : Bool :=
  if i.closed then i.low * numerator ≤ candidate && candidate ≤ i.high * numerator
  else i.low * numerator < candidate && candidate < i.high * numerator

/-- The neighbour on the grid of `10 ^ exponent` that is inside the interval: the nearer if both
are, and the upper if they are equally near. -/
def onGrid (i : Interval) (binaryExponent exponent : Int) : Option Decimal :=
  let quarter := binaryExponent - 2
  let numerator := Nat.pow 2 quarter.toNat * Nat.pow 10 (-exponent).toNat
  let denominator := Nat.pow 2 (-quarter).toNat * Nat.pow 10 exponent.toNat
  let below := i.centre * numerator / denominator
  let above := below + 1
  let hitBelow := i.contains numerator (below * denominator)
  let hitAbove := i.contains numerator (above * denominator)
  let nearerBelow := 2 * (i.centre * numerator) < (below + above) * denominator
  if hitBelow && (nearerBelow || !hitAbove) then some ⟨below, exponent⟩
  else if hitAbove then some ⟨above, exponent⟩
  else none

/-- Ten units of one power of ten are one of the next. -/
def carry (d : Decimal) : Decimal :=
  if d.significand = 10 then ⟨1, d.exponent + 1⟩ else d

/-- The shortest decimal that reads back as the magnitude of a finite float.  The neighbour above a
leading 9 is the next power of ten, which needs no more than one digit. -/
def shortest (b : Binary) : Decimal :=
  if b.significand = 0 then ⟨0, 0⟩
  else
    let i := Interval.ofBinary b
    let first := leadingExponent (b.significand * Nat.pow 2 b.exponent.toNat) (Nat.pow 2 (-b.exponent).toNat)
    match (List.range 17).findSome? fun (more : Nat) => onGrid i b.exponent (first - more) with
    | some d => d.carry
    | none => ⟨b.significand, b.exponent⟩

/-! ## Positional text -/

/-- The digits with a point where it belongs, and without one for a whole number. -/
def positional (d : Decimal) : List Char :=
  let digits := Nat.toDigits 10 d.significand
  if 0 ≤ d.exponent then
    if d.significand = 0 then ['0'] else digits ++ List.replicate d.exponent.toNat '0'
  else
    let places := d.exponent.natAbs
    let padded := List.replicate (places + 1 - digits.length) '0' ++ digits
    padded.take (padded.length - places) ++ '.' :: padded.drop (padded.length - places)

theorem positional_of_whole {d : Decimal} (whole : 0 ≤ d.exponent) (nonzero : d.significand ≠ 0) :
    d.positional = Nat.toDigits 10 d.significand ++ List.replicate d.exponent.toNat '0' := by
  simp [positional, whole, nonzero]

end Decimal

/-- The text of a finite float: the shortest decimal, written positionally, after its sign. -/
def floatText (x : Float) : List Char :=
  let b := Binary.ofFloat x
  let magnitude := (Decimal.shortest b).positional
  if b.negative then '-' :: magnitude else magnitude

end PlanCompiler
