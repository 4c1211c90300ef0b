/-
# Sql.Expression -- scalar expressions of MySQL

Operators with two operands stand in parentheses, and so do the null tests; the
negations `NOT` and `-` put theirs around the operand.  An expression lists its
pieces from left to right, which is the order in which its values are bound.
-/
import PlanCompiler.Operator
import PlanCompiler.Sql.Piece

namespace PlanCompiler.Sql

set_option autoImplicit false

inductive Operator
  | comparison (operator : Comparison)
  | calculation (operator : Calculation)
  | like
deriving DecidableEq, Repr

inductive UnaryOperator
  | isNull
  | isNotNull
  | negate
deriving DecidableEq, Repr

inductive Function
  | concat
  | conditional
  | now
  | utcTimestamp
  | currentDate
  | uuid
  | year
  | month
  | day
  | hour
  | minute
  | second
  | dayOfWeek
  | dayOfYear
  | upper
  | lower
  | trim
deriving DecidableEq, Repr

/-- What a field is read from: a column, or a fragment that is written as it is. -/
inductive Column
  | named (name : String)
  | mapped (fragment : String)
deriving DecidableEq, Repr

inductive Expression
  | column (source : Column)
  | value (literal : Literal)
  | raw (words : String)
  | and (left right : Expression)
  | or (left right : Expression)
  | not (operand : Expression)
  | unary (operator : UnaryOperator) (operand : Expression)
  | binary (operator : Operator) (left right : Expression)
  | inList (item : Expression) (items : List Expression)
  | function (function : Function) (args : List Expression)

/-! ## Words -/

def Operator.word : Operator → String
  | .comparison .equal => "="
  | .comparison operator => operator.symbol
  | .calculation operator => operator.symbol
  | .like => "LIKE"

def UnaryOperator.word : UnaryOperator → String
  | .isNull => " IS NULL"
  | .isNotNull => " IS NOT NULL"
  | .negate => "-"

def Function.word : Function → String
  | .concat => "CONCAT"
  | .conditional => "IF"
  | .now => "NOW"
  | .utcTimestamp => "UTC_TIMESTAMP"
  | .currentDate => "CURDATE"
  | .uuid => "UUID"
  | .year => "YEAR"
  | .month => "MONTH"
  | .day => "DAY"
  | .hour => "HOUR"
  | .minute => "MINUTE"
  | .second => "SECOND"
  | .dayOfWeek => "DAYOFWEEK"
  | .dayOfYear => "DAYOFYEAR"
  | .upper => "UPPER"
  | .lower => "LOWER"
  | .trim => "TRIM"

/-! ## Pieces -/

def Column.piece : Column → Piece
  | .named name => .name name
  | .mapped fragment => .verbatim fragment

/-- The text of a column. -/
def Column.text (column : Column) : String :=
  Sql.text [column.piece]

namespace Expression

mutual

/-- The pieces of an expression, from left to right. -/
def pieces : Expression → List Piece
  | .column source => [source.piece]
  | .value literal => [.value literal]
  | .raw words => [.words words]
  | .and left right => .words "(" :: pieces left ++ .words " AND " :: pieces right ++ [.words ")"]
  | .or left right => .words "(" :: pieces left ++ .words " OR " :: pieces right ++ [.words ")"]
  | .not operand => .words "NOT (" :: pieces operand ++ [.words ")"]
  | .unary .negate operand =>
    .words UnaryOperator.negate.word :: .words "(" :: pieces operand ++ [.words ")"]
  | .unary operator operand =>
    .words "(" :: pieces operand ++ [.words operator.word, .words ")"]
  | .binary operator left right =>
    .words "(" :: pieces left ++ .words (" " ++ operator.word ++ " ") :: pieces right
      ++ [.words ")"]
  | .inList item items =>
    .words "(" :: pieces item ++ .words " IN " :: .words "(" ::
      separated (.words ", ") (allPieces items) ++ [.words "))"]
  | .function f args =>
    .words f.word :: .words "(" :: separated (.words ", ") (allPieces args) ++ [.words ")"]

def allPieces : List Expression → List (List Piece)
  | [] => []
  | e :: rest => pieces e :: allPieces rest

end

theorem allPieces_eq_map (es : List Expression) : allPieces es = es.map pieces := by
  induction es with
  | nil => rfl
  | cons e rest ih => simp [allPieces, ih]

/-- The text of an expression on its own. -/
def text (e : Expression) : String :=
  Sql.text e.pieces

/-! ## Questions -/

mutual

/-- Whether a column is read anywhere. -/
def reads : Expression → Bool
  | .column _ => true
  | .value _ | .raw _ => false
  | .and left right | .or left right | .binary _ left right => reads left || reads right
  | .not operand | .unary _ operand => reads operand
  | .inList item items => reads item || anyReads items
  | .function _ args => anyReads args

def anyReads : List Expression → Bool
  | [] => false
  | e :: rest => reads e || anyReads rest

end

mutual

/-- Whether two expressions are written alike. -/
def same : Expression → Expression → Bool
  | .column a, .column b => a = b
  | .value a, .value b => a.same b
  | .raw a, .raw b => a = b
  | .and a b, .and c d => same a c && same b d
  | .or a b, .or c d => same a c && same b d
  | .not a, .not b => same a b
  | .unary op a, .unary op' b => op = op' && same a b
  | .binary op a b, .binary op' c d => op = op' && same a c && same b d
  | .inList a as, .inList b bs => same a b && allSame as bs
  | .function f as, .function g bs => f = g && allSame as bs
  | _, _ => false

def allSame : List Expression → List Expression → Bool
  | [], [] => true
  | a :: as, b :: bs => same a b && allSame as bs
  | _, _ => false

end

/-! ## Shapes -/

/-- The wildcard of a pattern, which stands for any text. -/
def wildcard : Expression := .raw "'%'"

end Expression

end PlanCompiler.Sql
