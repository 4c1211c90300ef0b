/-
# Proofs.Counting -- counting the rows agrees with fetching them

The statement that counts is compiled from the same clauses as the one that fetches,
so they are refused alike (`compileCount_error_iff`) and bind the same values.

What is counted are the rows of the plan without its sorts, pages and projections.  Of
what such a plan compiles to only the conditions are left (`clauses_filtersOnly`), and
the statement that fetches its rows stands inside of the one that counts
(`compileCount_agrees`).
-/
import PlanCompiler.Proofs.ParameterNames

namespace PlanCompiler

set_option autoImplicit false

variable {Row : Type}

/-! ## Filters alone -/

def Operation.isFilter : Operation → Bool
  | .filter _ => true
  | _ => false

/-- The plan without its sorts, pages and projections. -/
def Plan.filtersOnly (plan : Plan) : Plan :=
  List.filter Operation.isFilter plan

/-- What has been compiled of the filters. -/
def Query.Progress.ofFilters (progress : Query.Progress Row) : Query.Progress Row :=
  { Query.Progress.start with conditions := progress.conditions }

namespace Query

variable {query : Query Row}

/-- An operation that is no filter leaves what has been compiled of the filters. -/
theorem advance_ofFilters {before after : Progress Row} {operation : Operation}
    (advanced : query.advance before operation = .ok after) :
    if operation.isFilter then query.advance before.ofFilters operation = .ok after.ofFilters
    else after.ofFilters = before.ofFilters := by
  cases advance_eq_ok.1 advanced with
  | filter isCondition => exact advance_eq_ok.2 (.filter isCondition)
  | sortBy | thenSortBy | skip | take | project => rfl

/-- The filters of a plan compile alone to what they compile to among the other operations. -/
theorem foldlM_filtersOnly {plan : Plan} {before after : Progress Row} :
    plan.foldlM query.advance before = .ok after →
      plan.filtersOnly.foldlM query.advance before.ofFilters = .ok after.ofFilters := by
  refine Except.foldlM_induction (motive := fun (plan : Plan) (before after : Progress Row) =>
    plan.filtersOnly.foldlM query.advance before.ofFilters = .ok after.ofFilters) ?_ ?_
  · exact fun _ => rfl
  · intro operation rest before next after first later
    have step := advance_ofFilters first
    cases filters : operation.isFilter with
    | true =>
      rw [filters, if_pos rfl] at step
      rw [Plan.filtersOnly, List.filter_cons_of_pos filters, List.foldlM_cons, step]
      exact later
    | false =>
      rw [filters, if_neg Bool.false_ne_true] at step
      rw [Plan.filtersOnly, List.filter_cons_of_neg (by simp [filters]), ← step]
      exact later

/-- Of a plan without sorts, pages and projections the conditions are left. -/
theorem clauses_filtersOnly {clauses : Clauses} {transform : ItemTransform Row}
    (compiled : query.clauses = .ok (clauses, transform)) :
    (query.withPlan query.plan.filtersOnly).clauses =
      .ok (⟨clauses.conditions, [], .none, []⟩, []) := by
  obtain ⟨progress, order, isProgress, -, rfl, -⟩ := clauses_eq_ok.1 compiled
  have alone : (query.withPlan query.plan.filtersOnly).progress = .ok progress.ofFilters :=
    foldlM_filtersOnly isProgress
  rw [Query.clauses, alone]
  rfl

end Query

/-! ## Statements -/

namespace Assembly

/-- Clauses without text add no line. -/
theorem lines_append_empty (clauses : List String) : lines (clauses ++ ["", ""]) = lines clauses := by
  rw [lines, List.foldl_append]
  rfl

/-- The statement that counts is put around the one that fetches by the conditions alone. -/
theorem assemble_count (env : Environment) (baseSql : String) (commands : List Command)
    (clauses : Clauses) :
    ∃ inner,
      (assemble env baseSql commands ⟨clauses.conditions, [], .none, []⟩ .rows).statementSql =
        inner ++ ";" ∧
      (assemble env baseSql commands (clauses.forOutput .count) .count).statementSql =
        "SELECT COUNT(*) FROM (" ++ inner ++ ") AS "
          ++ Sql.quoteIdentifier (Sql.uniqueTableAlias inner) ++ ";" := by
  let inner := lines (clauseTexts env baseSql commands (clauses.forOutput .count) .count)
  -- without sorts and pages their clauses are empty, and without a projection nothing is wrapped
  have page : pageTexts ⟨clauses.conditions, [], .none, []⟩ .rows = ["", ""] := rfl
  have fetched : lines (clauseTexts env baseSql commands ⟨clauses.conditions, [], .none, []⟩ .rows) =
      inner := by
    rw [clauseTexts, page, lines_append_empty]
    exact congrArg lines (List.append_nil _).symm
  have wrapped : wrap inner .countStar [] = "SELECT COUNT(*) FROM (" ++ inner ++ ") AS "
      ++ Sql.quoteIdentifier (Sql.uniqueTableAlias inner) := by
    rw [wrap, Sql.OuterSelect.text_pieces, ← String.toList_inj]
    simp [Sql.text_toList, Sql.OuterSelect.opening, Sql.OuterSelect.closing,
      Sql.OuterSelect.listPieces, Sql.trailing]
  refine ⟨inner, ?_, ?_⟩
  · rw [assemble_statementSql, fetched, body]
    simp
  · rw [assemble_statementSql, body, wrapped]

end Assembly

/-- What the statement that counts has in common with the one that fetches. -/
structure Statement.AgreesWith (count fetch : Statement) : Prop where
  parameters : count.parameters = fetch.parameters
  callerParameters : count.callerParameters = fetch.callerParameters
  headerSql : count.headerSql = fetch.headerSql
  filterSql : count.filterSql = fetch.filterSql
  orderBySql : count.orderBySql = fetch.orderBySql
  limitSql : count.limitSql = fetch.limitSql

namespace Query

variable {query : Query Row}

theorem compileAs_of_error {e : CompileError} (failed : query.clauses = .error e)
    (output : Output) : query.compileAs output = .error e := by
  cases output with
  | rows =>
    rw [compileAs, compile, failed]
    rfl
  | count =>
    rw [compileAs, compileCount, failed]
    rfl

/-- Counting fails when fetching does, with the same error. -/
theorem compileCount_error_iff {e : CompileError} :
    query.compileCount = .error e ↔ query.compile = .error e := by
  have fetched : query.compile = .error e ↔ query.compileAs .rows = .error e := by
    rw [compileAs]
    cases query.compile <;> simp
  rw [fetched]
  change query.compileAs .count = .error e ↔ _
  cases compiled : query.clauses with
  | error e' => rw [compileAs_of_error compiled, compileAs_of_error compiled]
  | ok result =>
    rw [compileAs_of_clauses compiled, compileAs_of_clauses compiled, statement_error_iff,
      statement_error_iff]
    rfl

/-- The two statements of the same clauses agree. -/
theorem statement_agreesWith {clauses : Clauses} {count fetch : Statement}
    (counted : query.statement (clauses.forOutput .count) .count = .ok count)
    (fetched : query.statement clauses .rows = .ok fetch) : count.AgreesWith fetch := by
  obtain ⟨ofCount, countParameters⟩ := statement_assembly counted
  obtain ⟨ofFetch, fetchParameters⟩ := statement_assembly fetched
  constructor
  case parameters => rw [statement_parameters counted, statement_parameters fetched]; rfl
  case callerParameters => rw [countParameters, fetchParameters]
  case headerSql | filterSql | orderBySql | limitSql =>
    rw [ofCount, ofFetch]
    rfl

/-- Clauses that can be counted are not refused for the plan they come from. -/
theorem exists_statement_filtersOnly {clauses : Clauses} {count : Statement}
    (counted : query.statement (clauses.forOutput .count) .count = .ok count) :
    ∃ stripped, (query.withPlan query.plan.filtersOnly).statement
      ⟨clauses.conditions, [], .none, []⟩ .rows = .ok stripped := by
  cases compiled : (query.withPlan query.plan.filtersOnly).statement
      ⟨clauses.conditions, [], .none, []⟩ .rows with
  | ok stripped => exact ⟨stripped, rfl⟩
  | error e =>
    obtain ⟨name, -, found⟩ := statement_error_iff.1 compiled
    have refused : query.statement (clauses.forOutput .count) .count =
        .error (.parameterNameCollision name) := statement_error_iff.2 ⟨name, rfl, found⟩
    rw [refused] at counted
    cases counted

/-- **Counting agrees with fetching.** -/
theorem compileCount_agrees (query : Query Row) :
    (∀ e, query.compileCount = .error e ↔ query.compile = .error e) ∧
      ∀ count fetch transform, query.compileCount = .ok count →
        query.compile = .ok (fetch, transform) →
        count.AgreesWith fetch ∧
          ∃ stripped transform' inner,
            (query.withPlan query.plan.filtersOnly).compile = .ok (stripped, transform') ∧
            stripped.statementSql = inner ++ ";" ∧
            count.statementSql = "SELECT COUNT(*) FROM (" ++ inner ++ ") AS "
              ++ Sql.quoteIdentifier (Sql.uniqueTableAlias inner) ++ ";" := by
  refine ⟨fun e => compileCount_error_iff, fun count fetch transform counted fetched => ?_⟩
  obtain ⟨clauses, _, areClauses, isCount⟩ := compileCount_eq_ok.1 counted
  obtain ⟨_, areClauses', isFetch⟩ := compile_eq_ok.1 fetched
  cases areClauses.symm.trans areClauses'
  obtain ⟨stripped, isStripped⟩ := exists_statement_filtersOnly isCount
  obtain ⟨inner, ofStripped, ofCount⟩ :=
    Assembly.assemble_count query.environment query.baseSql query.commands clauses
  refine ⟨statement_agreesWith isCount isFetch, stripped, [], inner, ?_, ?_, ?_⟩
  · exact compile_eq_ok.2 ⟨_, clauses_filtersOnly areClauses, isStripped⟩
  · rw [(statement_assembly isStripped).1]
    exact ofStripped
  · rw [(statement_assembly isCount).1]
    exact ofCount

/-- The names of the three youngest adults. -/
def youngestAdults : Query Nat :=
  (Query.ofSql "SELECT * FROM people")
    |>.sortBy (.field "Age") .ascending
    |>.filter (.greaterThan (.field "Age") (.literal (.int 17)))
    |>.project (Shape.fields ["Name"])
    |>.take 3

theorem compileCount_youngestAdults :
    ∃ count fetch transform, youngestAdults.compileCount = .ok count ∧
      youngestAdults.compile = .ok (fetch, transform) ∧
      fetch.statementSql = "SELECT `t0`.`Name` FROM (SELECT * FROM people\n"
        ++ "HAVING (`Age` > @P1000)\nORDER BY `Age` ASC\nLIMIT 3) AS `t0`;" ∧
      count.statementSql = "SELECT COUNT(*) FROM (SELECT * FROM people\n"
        ++ "HAVING (`Age` > @P1000)) AS `t0`;" ∧
      count.AgreesWith fetch := by
  refine ⟨_, _, _, rfl, rfl, ?_, ?_, ?_⟩
  · decide +kernel
  · decide +kernel
  · exact ((compileCount_agrees youngestAdults).2 _ _ _ rfl rfl).1

end Query

end PlanCompiler
