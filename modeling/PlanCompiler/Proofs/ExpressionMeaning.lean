/-
# Proofs.ExpressionMeaning -- the value of an SQL expression on a row

`Sql.Expression.meaning` evaluates conditions the way the database does: with
null as a third truth, exact integers, `IS [NOT] NULL`, `IN` and `IF`.  What a
column holds is given.  Texts, functions other than `IF`, and divisions have no
value here.
-/
import PlanCompiler.Proofs.RowValue
import PlanCompiler.Sql.Expression

namespace PlanCompiler.Sql.Expression

set_option autoImplicit false

/-- The result of `IF`: what is not true chooses the last operand. -/
def conditionalMeaning : List (Option RowValue) → Option RowValue
  | [test, whenTrue, whenFalse] =>
    match test with
    | some (.bool true) => whenTrue
    | some (.bool false) | some .null => whenFalse
    | _ => none
  | _ => none

mutual

/-- The value of an expression, given what the columns hold. -/
def meaning (columns : Column → RowValue) : Expression → Option RowValue
  | .column source => some (columns source)
  | .value literal => some literal.rowValue
  | .raw _ => none
  | .and left right => do RowValue.sqlAnd? (← meaning columns left) (← meaning columns right)
  | .or left right => do RowValue.sqlOr? (← meaning columns left) (← meaning columns right)
  | .not operand => (meaning columns operand).bind RowValue.sqlNot?
  | .unary .isNull operand => (meaning columns operand).bind (RowValue.testNull? .equal)
  | .unary .isNotNull operand => (meaning columns operand).bind (RowValue.testNull? .notEqual)
  | .unary .negate operand => (meaning columns operand).bind RowValue.sqlNegate?
  | .binary (.comparison op) left right => do
    RowValue.lifted (RowValue.compare? op) (← meaning columns left) (← meaning columns right)
  | .binary (.calculation op) left right => do
    RowValue.lifted (RowValue.calculate? op) (← meaning columns left) (← meaning columns right)
  | .binary .like _ _ => none
  | .inList item items => do
    RowValue.sqlMember? (← meaning columns item) (← (meanings columns items).mapM id)
  | .function .conditional args => conditionalMeaning (meanings columns args)
  | .function _ _ => none

def meanings (columns : Column → RowValue) : List Expression → List (Option RowValue)
  | [] => []
  | e :: rest => meaning columns e :: meanings columns rest

end

/-- Written values are listed as they are. -/
theorem meanings_values (columns : Column → RowValue) (items : List Literal) :
    meanings columns (items.map .value) = items.map fun item => some item.rowValue := by
  induction items with
  | nil => rfl
  | cons item rest ih => simp [meanings, meaning, ih]

end PlanCompiler.Sql.Expression
