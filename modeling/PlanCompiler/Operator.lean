/-
# Operator -- the operators of predicates

A binary operator compares, calculates or connects.  `symbol` is how plans are
shown, `spellings` how operators are named in JSON.
-/

namespace PlanCompiler

set_option autoImplicit false

inductive Comparison
  | equal
  | notEqual
  | less
  | lessOrEqual
  | greater
  | greaterOrEqual
deriving DecidableEq, Repr

inductive Calculation
  | add
  | subtract
  | multiply
  | divide
  | modulo
deriving DecidableEq, Repr

inductive BinaryOp
  | comparison (operator : Comparison)
  | calculation (operator : Calculation)
  | andAlso
  | orElse
deriving DecidableEq, Repr

inductive UnaryOp
  | not
  | negate
deriving DecidableEq, Repr

namespace Comparison

def symbol : Comparison → String
  | .equal => "=="
  | .notEqual => "!="
  | .less => "<"
  | .lessOrEqual => "<="
  | .greater => ">"
  | .greaterOrEqual => ">="

/-- Whether two values in this order satisfy the comparison. -/
def accepts : Comparison → Ordering → Bool
  | .equal, order => order.isEq
  | .notEqual, order => order.isNe
  | .less, order => order.isLT
  | .lessOrEqual, order => order.isLE
  | .greater, order => order.isGT
  | .greaterOrEqual, order => order.isGE

end Comparison

namespace Calculation

def symbol : Calculation → String
  | .add => "+"
  | .subtract => "-"
  | .multiply => "*"
  | .divide => "/"
  | .modulo => "%"

end Calculation

namespace BinaryOp

def symbol : BinaryOp → String
  | .comparison operator => operator.symbol
  | .calculation operator => operator.symbol
  | .andAlso => "&&"
  | .orElse => "||"

def spellings : List (String × BinaryOp) := [
  ("equal", .comparison .equal),
  ("not_equal", .comparison .notEqual),
  ("less_than", .comparison .less),
  ("less_than_or_equal", .comparison .lessOrEqual),
  ("greater_than", .comparison .greater),
  ("greater_than_or_equal", .comparison .greaterOrEqual),
  ("add", .calculation .add),
  ("subtract", .calculation .subtract),
  ("multiply", .calculation .multiply),
  ("divide", .calculation .divide),
  ("modulo", .calculation .modulo),
  ("and_also", .andAlso),
  ("or_else", .orElse)]

def spelling : BinaryOp → String
  | .comparison .equal => "equal"
  | .comparison .notEqual => "not_equal"
  | .comparison .less => "less_than"
  | .comparison .lessOrEqual => "less_than_or_equal"
  | .comparison .greater => "greater_than"
  | .comparison .greaterOrEqual => "greater_than_or_equal"
  | .calculation .add => "add"
  | .calculation .subtract => "subtract"
  | .calculation .multiply => "multiply"
  | .calculation .divide => "divide"
  | .calculation .modulo => "modulo"
  | .andAlso => "and_also"
  | .orElse => "or_else"

theorem spelling_read (op : BinaryOp) : spellings.lookup op.spelling = some op := by
  cases op with
  | comparison operator => cases operator <;> rfl
  | calculation operator => cases operator <;> rfl
  | andAlso => rfl
  | orElse => rfl

end BinaryOp

namespace UnaryOp

def symbol : UnaryOp → String
  | .not => "!"
  | .negate => "-"

def spellings : List (String × UnaryOp) := [("not", .not), ("negate", .negate)]

def spelling : UnaryOp → String
  | .not => "not"
  | .negate => "negate"

theorem spelling_read (op : UnaryOp) : spellings.lookup op.spelling = some op := by
  cases op <;> rfl

end UnaryOp

end PlanCompiler
