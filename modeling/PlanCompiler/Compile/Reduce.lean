/-
# Compile.Reduce -- calls on fields become SQL

Calls that read a field are compiled before anything is folded, and so are the
generators, whose value must never be computed here.  Their operands are folded
for the purpose, so that `Name.StartsWith("a" + "b")` binds one value.  A call
that cannot be compiled stays, with its operands as they were, to be folded or
refused later.  `x.Value` on a field is the field.
-/
import PlanCompiler.Compile.Expression
import PlanCompiler.Compile.Fold

namespace PlanCompiler.Draft

set_option autoImplicit false

/-- Whether a call by this name has another value each time. -/
def isGenerator (name : String) (target : Option Draft) (args : List Draft) : Bool :=
  match Method.ofName? name, target, args with
  | some (.generator _), none, [] => true
  | _, _, _ => false

/-- The field that `x.Value` reads. -/
def unwrapped? (name : String) (target : Option Draft) (args : List Draft) : Option String :=
  match Method.ofName? name, target, args with
  | some .value, some (.field field), [] => some field
  | _, _, _ => none

/-- The SQL of a call whose operands have been reduced. -/
def reducedCall? (env : Environment) (name : String) (target : Option Draft) (args : List Draft)
    (isStatic : Bool) : Option Sql.Expression :=
  if target.any readsField || args.any readsField || isGenerator name target args then
    let folded (draft : Draft) := operand env draft.fold
    match Sql.Expression.ofCall? name (target.map folded) (args.map folded) isStatic with
    | .ok sql => sql
    | .error _ => none
  else none

/-- Reduce one node, whose operands have been reduced. -/
def reduceStep (env : Environment) : Draft → Draft
  | .call name target args isStatic =>
    match unwrapped? name target args with
    | some field => .field field
    | none =>
      match reducedCall? env name target args isStatic with
      | some sql => .leaf sql
      | none => .call name target args isStatic
  | draft => draft

/-- Replace the calls that can be compiled by their SQL. -/
def reduce (env : Environment) (draft : Draft) : Draft :=
  draft.transform (reduceStep env)

end PlanCompiler.Draft
