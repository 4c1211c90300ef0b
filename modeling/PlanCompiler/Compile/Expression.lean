/-
# Compile.Expression -- drafts in SQL

Fields become columns and literals become bound values.  `==` and `!=` with a
written null on either side become a null test of the other side and bind nothing.
Parts that have been compiled before are taken over as they are.
-/
import PlanCompiler.Compile.Call
import PlanCompiler.Compile.Environment

namespace PlanCompiler.Draft

set_option autoImplicit false

/-- The null test that a comparison with null is. -/
def nullTest? : Comparison → Option Sql.UnaryOperator
  | .equal => some .isNull
  | .notEqual => some .isNotNull
  | _ => none

/-- The null test of a comparison, and whether it tests the left side. -/
def nullCheck? (op : Comparison) (left right : Draft) : Option (Sql.UnaryOperator × Bool) :=
  match nullTest? op with
  | none => none
  | some test =>
    if right.isNull then some (test, true)
    else if left.isNull then some (test, false)
    else none

mutual

/-- The SQL of a draft. -/
def expression (env : Environment) : Draft → Except CompileError Sql.Expression
  | .leaf sql => .ok sql
  | .field name => .column <$> env.column name
  | .literal (.array items) => .error (.arrayNotSupported (Literal.array items).display)
  | .literal value => .ok (.value value)
  | .unary .not operand => .not <$> expression env operand
  | .unary .negate operand => .unary .negate <$> expression env operand
  | .binary op left right =>
    match op with
    | .andAlso => do return .and (← expression env left) (← expression env right)
    | .orElse => do return .or (← expression env left) (← expression env right)
    | .calculation op => do
      return .binary (.calculation op) (← expression env left) (← expression env right)
    | .comparison op =>
      match nullCheck? op left right with
      | some (test, true) => .unary test <$> expression env left
      | some (test, false) => .unary test <$> expression env right
      | none => do
        return .binary (.comparison op) (← expression env left) (← expression env right)
  | .conditional test whenTrue whenFalse => do
    return .function .conditional
      [← expression env test, ← expression env whenTrue, ← expression env whenFalse]
  | .call name target args isStatic =>
    match Sql.Expression.ofCall? name (targetOperand env target) (operands env args) isStatic with
    | .ok (some sql) => .ok sql
    | .ok none => .error (.unsupportedMethod (display (.call name target args isStatic)))
    | .error e => .error e

def targetOperand (env : Environment) : Option Draft → Option Operand
  | none => none
  | some target => some ⟨target, expression env target⟩

def operands (env : Environment) : List Draft → List Operand
  | [] => []
  | arg :: rest => ⟨arg, expression env arg⟩ :: operands env rest

end

/-- The draft as an operand of a call. -/
def operand (env : Environment) (draft : Draft) : Operand :=
  ⟨draft, draft.expression env⟩

@[simp] theorem targetOperand_eq_map (env : Environment) (target : Option Draft) :
    targetOperand env target = target.map (operand env) := by
  cases target <;> simp [targetOperand, operand]

@[simp] theorem operands_eq_map (env : Environment) (args : List Draft) :
    operands env args = args.map (operand env) := by
  induction args with
  | nil => simp [operands]
  | cons arg rest ih => simp [operands, operand, ih]

end PlanCompiler.Draft
