/-
# Proofs.CompiledSteps -- what compiling a plan does, step by step

Compiling an operation adds to one part of what has been compiled before it, and leaves the other
parts as they are (`Query.Advances`).  What is kept by each of these cases is kept by a whole plan,
by induction on its operations.

From there a query is compiled in three steps: the sorts of its plan are ordered
(`Query.clauses_eq_ok`), the clauses are assembled to a statement (`Query.statement_eq`), and this
is handed out with what is to be done to the rows (`Query.compile_eq_ok`).  For counting, what the
projections select is left out before (`Query.compileCount_eq_ok`).
-/
import PlanCompiler.Compile.Statement
import PlanCompiler.Proofs.Results

namespace PlanCompiler.Query

set_option autoImplicit false

variable {Row : Type} {query : Query Row} {clauses : Clauses} {transform : ItemTransform Row}
  {statement : Statement}

/-- What compiling one more operation does, if the operation is not refused. -/
inductive Advances (query : Query Row) (before : Progress Row) : Operation → Progress Row → Prop
  | filter {predicate : Predicate} {condition : Option Sql.Expression}
      (compiles : Draft.condition query.environment (Draft.simplify query.environment predicate) =
        .ok condition) :
      Advances query before (.filter predicate)
        { before with conditions := before.conditions ++ condition.toList }
  | sortBy (key : Predicate) (direction : Direction) :
      Advances query before (.sortBy key direction)
        { before with
          sorts := before.sorts ++ [⟨Draft.simplify query.environment key, direction, true⟩] }
  | thenSortBy (key : Predicate) (direction : Direction) :
      Advances query before (.thenSortBy key direction)
        { before with
          sorts := before.sorts ++ [⟨Draft.simplify query.environment key, direction, false⟩] }
  | skip (count : UInt64) :
      Advances query before (.skip count) { before with limit := before.limit.skip count }
  | take (count : UInt64) :
      Advances query before (.take count) { before with limit := before.limit.take count }
  | project {shape : Shape} {mutator : Option Nat} {projection : Projection Row}
      (projects : before.projection.project query.environment query.mutators shape mutator =
        (projection, .ok ())) :
      Advances query before (.project shape mutator) { before with projection := projection }

theorem advance_eq_ok {before after : Progress Row} {operation : Operation} :
    query.advance before operation = .ok after ↔ query.Advances before operation after := by
  constructor
  · intro advanced
    cases operation with
    | filter predicate =>
      obtain ⟨condition, compiles, same⟩ := Except.bind_eq_ok.1 advanced
      cases same
      exact .filter compiles
    | sortBy key direction =>
      cases advanced
      exact .sortBy key direction
    | thenSortBy key direction =>
      cases advanced
      exact .thenSortBy key direction
    | skip count =>
      cases advanced
      exact .skip count
    | take count =>
      cases advanced
      exact .take count
    | project shape mutator =>
      simp only [advance] at advanced
      split at advanced <;> cases advanced
      rename_i projects
      exact .project projects
  · intro advances
    cases advances with
    | filter compiles => exact Except.bind_eq_ok.2 ⟨_, compiles, rfl⟩
    | project projects => simp only [advance, projects]
    | sortBy | thenSortBy | skip | take => rfl

/-- The clauses of a plan are the parts of what it has been compiled to, with its sorts in order. -/
theorem clauses_eq_ok :
    query.clauses = .ok (clauses, transform) ↔ ∃ progress order, query.progress = .ok progress ∧
      SortKey.ordering query.environment progress.sorts = .ok order ∧
      clauses = ⟨progress.conditions, order, progress.limit, progress.projection.selected⟩ ∧
      transform = progress.projection.transform := by
  constructor
  · intro compiled
    obtain ⟨progress, isProgress, compiled⟩ := Except.bind_eq_ok.1 compiled
    obtain ⟨order, isOrder, same⟩ := Except.bind_eq_ok.1 compiled
    cases same
    exact ⟨progress, order, isProgress, isOrder, rfl, rfl⟩
  · rintro ⟨progress, order, isProgress, isOrder, rfl, rfl⟩
    exact Except.bind_eq_ok.2 ⟨progress, isProgress, Except.bind_eq_ok.2 ⟨order, isOrder, rfl⟩⟩

/-- The statement that clauses are assembled to, unless it is refused. -/
theorem statement_eq {output : Output} (compiled : query.statement clauses output = .ok statement) :
    statement = {
      Assembly.assemble query.environment query.baseSql query.commands clauses output with
      selectedColumns := clauses.selected
      commands := query.commands
      callerParameters := query.parameters
      plan := query.plan.display } := by
  unfold Query.statement at compiled
  simp only at compiled
  split at compiled <;> cases compiled
  rfl

theorem compile_eq_ok :
    query.compile = .ok (statement, transform) ↔
      ∃ clauses, query.clauses = .ok (clauses, transform) ∧
        query.statement clauses .rows = .ok statement := by
  constructor
  · intro compiled
    obtain ⟨⟨clauses, _⟩, areClauses, compiled⟩ := Except.bind_eq_ok.1 compiled
    obtain ⟨_, isStatement, same⟩ := Except.bind_eq_ok.1 compiled
    cases same
    exact ⟨clauses, areClauses, isStatement⟩
  · rintro ⟨clauses, areClauses, isStatement⟩
    exact Except.bind_eq_ok.2 ⟨_, areClauses, Except.bind_eq_ok.2 ⟨_, isStatement, rfl⟩⟩

theorem compileCount_eq_ok :
    query.compileCount = .ok statement ↔
      ∃ clauses transform, query.clauses = .ok (clauses, transform) ∧
        query.statement { clauses with selected := [] } .count = .ok statement := by
  rw [compileCount, Except.bind_eq_ok, Prod.exists]

end PlanCompiler.Query
