/-
# Literal.Wide -- calculations in 128 bits

Signed and unsigned integers of 64 bits are calculated with together, in signed
integers of 128 bits, which hold both.  A calculation whose result leaves even
those has none; nothing wraps around.
-/
import PlanCompiler.Operator

namespace PlanCompiler

set_option autoImplicit false

/-- A signed integer of 128 bits. -/
abbrev Wide := BitVec 128

namespace Wide

def ofInt (value : Int) : Wide := BitVec.ofInt 128 value

/-- A result, unless getting it overflowed. -/
def checked (overflows : Bool) (result : Wide) : Option Wide :=
  if overflows then none else some result

/-- The operands that can be divided: not by zero, and not the smallest integer by -1, which would
be one more than the largest. -/
def divides (left right : Wide) : Bool :=
  right != 0 && (left != BitVec.intMin 128 || right != -1)

/-- A calculation, if its result fits.  Division drops the fraction, and the remainder has the sign
of the dividend. -/
def calculate? (op : Calculation) (left right : Wide) : Option Wide :=
  match op with
  | .add => checked (left.saddOverflow right) (left + right)
  | .subtract => checked (left.ssubOverflow right) (left - right)
  | .multiply => checked (left.smulOverflow right) (left * right)
  | .divide => checked (!divides left right) (left.sdiv right)
  | .modulo => checked (!divides left right) (left.srem right)

end Wide

end PlanCompiler
