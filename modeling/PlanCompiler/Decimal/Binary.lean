/-
# Decimal.Binary -- a finite float as an integer times a power of two

Every finite double is `± significand · 2 ^ exponent` with a significand below
`2 ^ 53` and an exponent of at least `-1074`.  In that form the value is exact,
so whatever has to be exact about floats (their shortest decimal, the remainder
of a division) is computed there, in integers.
-/

namespace PlanCompiler

set_option autoImplicit false

/-- The value `± significand · 2 ^ exponent`. -/
structure Binary where
  negative : Bool
  significand : Nat
  exponent : Int
deriving DecidableEq, Repr

namespace Binary

/-- The exponent of the smallest subnormal double. -/
def minExponent : Int := -1074

/-- The parts of a finite float; those of an infinity or NaN mean nothing. -/
def ofFloat (x : Float) : Binary :=
  let bits := x.toBits.toNat
  let fraction := bits % Nat.pow 2 52
  let field := bits / Nat.pow 2 52 % Nat.pow 2 11
  let negative := Nat.pow 2 63 ≤ bits
  if field = 0 then ⟨negative, fraction, minExponent⟩
  else ⟨negative, Nat.pow 2 52 + fraction, minExponent + (field - 1 : Nat)⟩

/-- The float `2 ^ exponent`, for exponents from `-1074` to `1023`. -/
def powerOfTwo (exponent : Int) : Float :=
  if exponent < -1022 then .ofBits (.ofNat (Nat.pow 2 (exponent - minExponent).toNat))
  else .ofBits (.ofNat ((exponent + 1023).toNat * Nat.pow 2 52))

/-- The float with these parts, when there is one: both factors are then exact, and so is their
product. -/
def toFloat (b : Binary) : Float :=
  let magnitude := Float.ofNat b.significand * powerOfTwo b.exponent
  if b.negative then -magnitude else magnitude

/-- The integer that the value is a multiple `2 ^ exponent` of, for an exponent not above its own. -/
def unitsOf (b : Binary) (exponent : Int) : Nat :=
  b.significand * Nat.pow 2 (b.exponent - exponent).toNat

end Binary

/-- The remainder of the division that truncates toward zero.  It has the sign of the dividend, also
when it is zero, and it is exact: it is a multiple of the finer of the two units and smaller than
the divisor. -/
def remainder (x y : Float) : Float :=
  if x.isNaN || y.isNaN || x.isInf || y == 0 then 0 / 0
  else if y.isInf then x
  else
    let a := Binary.ofFloat x
    let b := Binary.ofFloat y
    let unit := min a.exponent b.exponent
    Binary.toFloat ⟨a.negative, a.unitsOf unit % b.unitsOf unit, unit⟩

end PlanCompiler
