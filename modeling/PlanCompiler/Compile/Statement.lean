/-
# Compile.Statement -- from queries to statements

The operations of the plan are compiled in their order.  Filters add conditions,
pages move the window, projections narrow the columns, and sort operations are
collected to be ordered at the end.  The same is done for counting, so a query can
be counted exactly when its rows can be fetched.

The parameters of the caller may not have the names of generated ones.
-/
import PlanCompiler.Text.Caseless
import PlanCompiler.Compile.Assembly
import PlanCompiler.Compile.Page
import PlanCompiler.Compile.Projection

namespace PlanCompiler

set_option autoImplicit false

/-- A statement that can be sent to the database. -/
structure Statement extends Assembly where
  selectedColumns : List String
  commands : List Command
  /-- The parameters of the base query. -/
  callerParameters : Bindings
  /-- The plan as it is shown in reports. -/
  plan : String

namespace Statement

/-- All parameters, the generated ones first. -/
def allParameters (statement : Statement) : List (String × Literal) :=
  statement.parameters.entries ++ statement.callerParameters

/-- The value bound to a name, in whatever case of letters. -/
def parameter? (name : String) (statement : Statement) : Option Literal :=
  (statement.allParameters.find? fun (bound, _) => Text.sameName bound name).map (·.2)

end Statement

namespace Query

variable {Row : Type}

def environment (query : Query Row) : Environment :=
  ⟨query.mappings, query.fields, query.allColumnsMapped⟩

/-- What has been compiled of a plan. -/
structure Progress (Row : Type) where
  conditions : List Sql.Expression
  sorts : List SortStep
  limit : Sql.Limit
  projection : Projection Row

def Progress.start : Progress Row := ⟨[], [], .none, .empty⟩

/-- Compile one more operation. -/
def advance (query : Query Row) (progress : Progress Row) (operation : Operation) :
    Except CompileError (Progress Row) :=
  let env := query.environment
  match operation with
  | .filter predicate => do
    let condition ← Draft.condition env (Draft.simplify env predicate)
    return { progress with conditions := progress.conditions ++ condition.toList }
  | .sortBy key direction =>
    .ok { progress with sorts := progress.sorts ++ [⟨Draft.simplify env key, direction, true⟩] }
  | .thenSortBy key direction =>
    .ok { progress with sorts := progress.sorts ++ [⟨Draft.simplify env key, direction, false⟩] }
  | .skip count => .ok { progress with limit := progress.limit.skip count }
  | .take count => .ok { progress with limit := progress.limit.take count }
  | .project shape mutator =>
    match progress.projection.project env query.mutators shape mutator with
    | (projection, .ok ()) => .ok { progress with projection := projection }
    | (_, .error e) => .error e

/-- Compile all operations of the plan. -/
def progress (query : Query Row) : Except CompileError (Progress Row) :=
  query.plan.foldlM query.advance .start

/-- The clauses of the plan and what is to be done to fetched rows. -/
def clauses (query : Query Row) : Except CompileError (Clauses × ItemTransform Row) := do
  let progress ← query.progress
  let order ← SortKey.ordering query.environment progress.sorts
  return (⟨progress.conditions, order, progress.limit, progress.projection.selected⟩,
    progress.projection.transform)

/-- The first parameter of the caller that has the name of a generated one. -/
def collision? (generated : Sql.Parameters) (caller : Bindings) : Option String :=
  (caller.find? fun (name, _) =>
    generated.entries.any fun (bound, _) => Text.sameName bound name).map (·.1)

/-- The statement of compiled clauses. -/
def statement (query : Query Row) (clauses : Clauses) (output : Output) :
    Except CompileError Statement :=
  let assembly :=
    Assembly.assemble query.environment query.baseSql query.commands clauses output
  match collision? assembly.parameters query.parameters with
  | some name => .error (.parameterNameCollision name)
  | none => .ok {
      assembly with
      selectedColumns := clauses.selected
      commands := query.commands
      callerParameters := query.parameters
      plan := query.plan.display }

/-- The statement that fetches the rows, and what is to be done to each of them. -/
def compile (query : Query Row) :
    Except CompileError (Statement × ItemTransform Row) := do
  let (clauses, transform) ← query.clauses
  return (← query.statement clauses .rows, transform)

/-- The statement that counts the rows.  Their order, pages and projections do not matter. -/
def compileCount (query : Query Row) : Except CompileError Statement := do
  let (clauses, _) ← query.clauses
  query.statement { clauses with selected := [] } .count

end Query

end PlanCompiler
