/-
# Literal.Evaluate -- the operators between literals

An operator that has no value on its operands answers `none`, and is then left to
the database.

Integers are calculated with in 128 bits, and a result is given when it fits the 64
bits of its kind, which is unsigned when both operands are and signed otherwise.
Division drops the fraction and the remainder has the sign of the dividend; both
have no value for a zero divisor.  With a float on either side all is done in
floats, and the result has to be finite.  A text on either side of `+` makes it a
concatenation.
-/
import PlanCompiler.Decimal.Binary
import PlanCompiler.Literal.Order
import PlanCompiler.Literal.Text
import PlanCompiler.Literal.Wide
import PlanCompiler.Operator

namespace PlanCompiler.Literal

set_option autoImplicit false

/-! ## Comparisons -/

def compareWith? (op : Comparison) (left right : Literal) : Option Bool :=
  match op with
  | .equal => equal? left right
  | .notEqual => (equal? left right).map not
  | op => (compare? left right).map op.accepts

/-! ## Calculations -/

def floatResult (op : Calculation) (left right : Float) : Float :=
  match op with
  | .add => left + right
  | .subtract => left - right
  | .multiply => left * right
  | .divide => left / right
  | .modulo => remainder left right

/-- The literal of a float, if it is finite. -/
def ofFloat? (value : Float) : Option Literal :=
  if value.isFinite then some (.float value) else none

/-- The literal of an integer in the kind that these operands give. -/
def ofResult? : Literal → Literal → Int → Option Literal
  | .uint _, .uint _, value => ofUInt? value
  | _, _, value => ofInt? value

def calculateNumbers? (op : Calculation) (left right : Literal) : Option Literal := do
  match ← left.number?, ← right.number? with
  | .integer a, .integer b =>
    ofResult? left right (← Wide.calculate? op (.ofInt a) (.ofInt b)).toInt
  | a, b => ofFloat? (floatResult op a.toFloat b.toFloat)

def isString : Literal → Bool
  | .string _ => true
  | _ => false

/-- The concatenated texts, if all have one. -/
def concat? (values : List Literal) : Option Literal := do
  some (.string ("".intercalate (← values.mapM text?)))

def calculate? (op : Calculation) (left right : Literal) : Option Literal :=
  if op = .add && (left.isString || right.isString) then concat? [left, right]
  else calculateNumbers? op left right

/-! ## Any operator -/

def binary? (op : BinaryOp) (left right : Literal) : Option Literal :=
  match op with
  | .comparison op => (compareWith? op left right).map .bool
  | .calculation op => calculate? op left right
  | .andAlso =>
    match left, right with
    | .bool a, .bool b => some (.bool (a && b))
    | _, _ => none
  | .orElse =>
    match left, right with
    | .bool a, .bool b => some (.bool (a || b))
    | _, _ => none

def unary? (op : UnaryOp) (value : Literal) : Option Literal :=
  match op, value with
  | .not, .bool b => some (.bool !b)
  | .negate, .int n => ofInt? (-n.toInt)
  | .negate, .uint n => if n.toNat < Nat.pow 2 63 then ofInt? (-n.toNat) else none
  | .negate, .float x => some (.float (-x))
  | _, _ => none

end PlanCompiler.Literal
