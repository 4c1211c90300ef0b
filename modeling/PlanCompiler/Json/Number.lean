/-
# Json.Number -- what the numbers of a JSON text stand for

The digits of a number are gathered in a significand of 64 bits.  Digits that no
longer fit are dropped, and those of them before the point leave a factor of ten
each.  A number with neither point nor exponent whose digits all fit is an integer.

Everything else is a float: the significand, rounded to a float, times or divided
by one power of ten, rounded once more.  This is not always the float nearest to
the number as it is written (`5e54`), but never far from it.
-/
import PlanCompiler.Json.Basic

namespace PlanCompiler.Json

set_option autoImplicit false

/-- A number as it is written: digits before and after the point, and an exponent. -/
structure Numeral where
  negative : Bool
  whole : List Char
  /-- The digits after the point, if there is one. -/
  fraction : Option (List Char)
  exponent : Option Int
deriving DecidableEq, Repr

namespace Numeral

/-- The digits gathered so far fit below this bound. -/
def significandBound : Nat := Nat.pow 2 64

/-- Gather digits as long as they fit, and say how many are left. -/
def gather (significand : Nat) : List Char → Nat × Nat
  | [] => (significand, 0)
  | digit :: rest =>
    let more := significand * 10 + (digit.toNat - '0'.toNat)
    if more < significandBound then gather more rest else (significand, rest.length + 1)

/-- The largest power of ten that is a float. -/
def maxPower : Nat := 308

def powerOfTen (exponent : Nat) : Float :=
  Float.ofScientific 1 false exponent

/-- A float times a power of ten, none if that is too large. -/
def scale? (x : Float) (exponent : Int) : Option Float :=
  let power := exponent.natAbs
  if x == 0 then some 0
  else if 0 ≤ exponent then
    if maxPower < power then none
    else
      let scaled := x * powerOfTen power
      if scaled.isInf then none else some scaled
  else if power ≤ maxPower then some (x / powerOfTen power)
  else if power ≤ 2 * maxPower then
    some (x / powerOfTen maxPower / powerOfTen (power - maxPower))
  else some 0

/-- The value of a numeral, which is unusable beyond the largest float. -/
def value (n : Numeral) : Json :=
  let (significand, dropped) := gather 0 n.whole
  let real (significand : Nat) (exponent : Int) : Json :=
    match scale? (UInt64.ofNat significand).toFloat exponent with
    | some x => .real (if n.negative then -x else x)
    | none => .unusable
  match n.fraction, n.exponent with
  | none, none =>
    if dropped ≠ 0 then real significand dropped
    else if !n.negative then .integer significand
    else if significand = 0 ∨ Nat.pow 2 63 < significand then real significand 0
    else .integer (-(significand : Int))
  | fraction, exponent =>
    let digits := fraction.getD []
    let (significand, unread) := gather significand digits
    real significand (exponent.getD 0 + dropped - (digits.length - unread : Nat))

end Numeral

end PlanCompiler.Json
