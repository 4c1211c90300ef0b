/-
# Proofs.ParameterNumbering -- how the parameters of a statement are numbered

Each clause of a statement is written into a buffer of its own, whose table of
parameters starts at the same name.  Only conditions hold values, so the table of
the filter is the table of the statement, and no name means two values
(`compile_numbersParameters`).

Conditions are collected operation by operation (`advance_conditions`), so they
stand in the order of the filters of the plan (`progress_conditions`).
-/
import Mathlib.Data.List.Nodup
import Mathlib.Data.List.ReduceOption
import PlanCompiler.Proofs.CompiledSteps
import PlanCompiler.Proofs.GeneratedExpression
import PlanCompiler.Proofs.WrittenPieces

namespace PlanCompiler

set_option autoImplicit false

variable {Row : Type}

/-! ## Clauses and their values -/

namespace Sql

theorem Expression.allLeafValues_eq_flatMap (es : List Expression) :
    allLeafValues es = es.flatMap leafValues := by
  induction es with
  | nil => rfl
  | cons e rest ih => simp [allLeafValues, ih]

/-- Collections are not among the values of compiled expressions. -/
theorem Expression.Generated.leafValues_single {fromColumn : Column → Prop} {e : Expression}
    (generated : e.Generated fromColumn) : ∀ value ∈ e.leafValues, value.isArray = false := by
  induction generated with
  | column _ => exact nofun
  | value single =>
    intro value mem
    cases List.mem_singleton.1 mem
    exact single
  | wildcard => exact nofun
  | and _ _ inLeft inRight | or _ _ inLeft inRight | binary _ _ _ inLeft inRight =>
    intro value mem
    rcases List.mem_append.1 mem with mem | mem
    · exact inLeft value mem
    · exact inRight value mem
  | not _ inside | unary _ _ inside => exact inside
  | inList _ _ _ inItem inItems =>
    intro value mem
    rcases List.mem_append.1 mem with mem | mem
    · exact inItem value mem
    · rw [Expression.allLeafValues_eq_flatMap] at mem
      obtain ⟨e, isItem, mem⟩ := List.mem_flatMap.1 mem
      exact inItems e isItem value mem
  | function _ _ inArgs =>
    intro value mem
    simp only [Expression.leafValues, Expression.allLeafValues_eq_flatMap] at mem
    obtain ⟨e, isArg, mem⟩ := List.mem_flatMap.1 mem
    exact inArgs e isArg value mem

theorem Filter.values_pieces (filter : Filter) :
    values filter.pieces = filter.conditions.flatMap Expression.leafValues := by
  unfold Filter.pieces
  split
  · rename_i none
    rw [List.isEmpty_iff.1 none]
    rfl
  · rw [values_words, values_separated, List.flatMap_map]
    simp only [Expression.values_pieces]

theorem values_trailing (texts : List String) : values (trailing texts) = [] := by
  induction texts with
  | nil => rfl
  | cons text rest ih => exact ih

theorem SelectList.values_pieces {list : SelectList}
    (columns : ∀ item ∈ list.columns, ∃ source, item.2 = .column source) : values list.pieces = [] := by
  unfold SelectList.pieces
  simp only
  rw [List.cons_append, values_words, values_append, values_trailing, List.append_nil]
  split
  · rfl
  · rw [values_separated, List.flatMap_eq_nil_iff]
    simp only [List.forall_mem_map]
    rintro ⟨label, e⟩ mem
    obtain ⟨source, rfl⟩ := columns _ mem
    simp only [values_append, Expression.values_pieces]
    rfl

theorem orderByPieces_values {keys : List (Expression × Direction)}
    (columns : ∀ key ∈ keys, ∃ source, key.1 = .column source) : values (orderByPieces keys) = [] := by
  unfold orderByPieces
  split
  · rfl
  · rw [values_words, values_separated, List.flatMap_eq_nil_iff]
    simp only [List.forall_mem_map]
    rintro ⟨e, direction⟩ mem
    obtain ⟨source, rfl⟩ := columns _ mem
    simp only [values_append, Expression.values_pieces]
    rfl

theorem Limit.values_pieces (limit : Limit) : values limit.pieces = [] := by
  unfold Limit.pieces
  split <;> rfl

/-- Pieces without values bind nothing. -/
theorem Buffer.write_parameters {pieces : List Piece} (none : values pieces = []) :
    (Buffer.empty.write pieces).parameters = .empty := by
  simp [Buffer.write_eq, none, Buffer.empty, Parameters.empty]

end Sql

/-- Only columns are listed. -/
theorem Assembly.selectList_columns (env : Environment) (selected after : List String) :
    ∀ item ∈ (Assembly.selectList env selected after).columns,
      ∃ source, item.2 = .column source := by
  intro item mem
  obtain ⟨field, -, rfl⟩ := List.mem_map.1 mem
  exact ⟨_, rfl⟩

/-- Rows are ordered by columns. -/
theorem SortKey.clause_columns (keys : List SortKey) :
    ∀ key ∈ keys.map fun key => (Sql.Expression.column key.column, key.direction),
      ∃ source, key.1 = .column source := by
  intro item mem
  obtain ⟨key, -, rfl⟩ := List.mem_map.1 mem
  exact ⟨_, rfl⟩

/-- The parameters of an assembly are those of its filter. -/
theorem Assembly.assemble_parameters (env : Environment) (baseSql : String)
    (commands : List Command) (clauses : Clauses) (output : Output) :
    (assemble env baseSql commands clauses output).parameters =
      ⟨clauses.conditions.flatMap Sql.Expression.leafValues⟩ := by
  change (Sql.Buffer.empty.write
    (Sql.Filter.pieces ⟨env.filterClause, clauses.conditions⟩)).parameters = _
  rw [Sql.Buffer.write_eq, Sql.Filter.values_pieces]
  rfl

/-! ## The plan and its conditions -/

def Operation.filter? : Operation → Option Predicate
  | .filter predicate => some predicate
  | _ => none

/-- The predicates of the filters of a plan, in its order. -/
def Plan.filters (plan : Plan) : List Predicate :=
  plan.filterMap Operation.filter?

namespace Query

/-- The condition of a filter, none where it does not restrict the rows. -/
def filterCondition (query : Query Row) (predicate : Predicate) :
    Except CompileError (Option Sql.Expression) :=
  Draft.condition query.environment (Draft.simplify query.environment predicate)

/-- The conditions of the filters of the plan, in its order. -/
def filterConditions (query : Query Row) : Except CompileError (List Sql.Expression) := do
  let conditions ← query.plan.filters.mapM query.filterCondition
  return conditions.reduceOption

/-- One operation adds the condition of its filter, if it is one, at the end. -/
theorem advance_conditions {query : Query Row} {before after : Progress Row}
    {operation : Operation} (advanced : query.advance before operation = .ok after) :
    ∃ conditions, operation.filter?.toList.mapM query.filterCondition = .ok conditions ∧
      after.conditions = before.conditions ++ conditions.reduceOption := by
  cases advance_eq_ok.1 advanced with
  | @filter predicate condition isCondition =>
    refine ⟨[condition], ?_, by cases condition <;> rfl⟩
    simp only [Operation.filter?, Option.toList_some, List.mapM_cons, List.mapM_nil]
    rw [show query.filterCondition predicate = .ok condition from isCondition]
    rfl
  | sortBy | thenSortBy | skip | take | project => exact ⟨[], rfl, (List.append_nil _).symm⟩

theorem foldlM_conditions {query : Query Row} {plan : Plan} {before after : Progress Row} :
    plan.foldlM query.advance before = .ok after →
      ∃ conditions, plan.filters.mapM query.filterCondition = .ok conditions ∧
        after.conditions = before.conditions ++ conditions.reduceOption := by
  refine Except.foldlM_induction (motive := fun (plan : Plan) (before after : Progress Row) =>
    ∃ conditions, plan.filters.mapM query.filterCondition = .ok conditions ∧
      after.conditions = before.conditions ++ conditions.reduceOption) ?_ ?_
  · exact fun _ => ⟨[], rfl, (List.append_nil _).symm⟩
  · rintro operation rest before next after first ⟨more, areMore, conditions⟩
    obtain ⟨one, isOne, nextConditions⟩ := advance_conditions first
    refine ⟨one ++ more, ?_, ?_⟩
    · have filters : Plan.filters (operation :: rest) =
          operation.filter?.toList ++ Plan.filters rest := by
        cases operation <;> rfl
      rw [filters, List.mapM_append, isOne, areMore]
      rfl
    · rw [conditions, nextConditions, List.reduceOption_append, List.append_assoc]

theorem progress_conditions {query : Query Row} {progress : Progress Row}
    (compiled : query.progress = .ok progress) :
    query.filterConditions = .ok progress.conditions := by
  obtain ⟨conditions, found, same⟩ := foldlM_conditions compiled
  rw [filterConditions, found, same]
  rfl

/-- Conditions of a plan are generated from what the fields of the row resolve to. -/
theorem filterConditions_generatedFrom {query : Query Row} {fromColumn : Sql.Column → Prop}
    {conditions : List Sql.Expression}
    (columns : ∀ field, query.environment.knows field = true →
      fromColumn (query.environment.resolve field))
    (compiled : query.filterConditions = .ok conditions) :
    ∀ e ∈ conditions, e.Generated fromColumn := by
  intro e mem
  obtain ⟨found, areFound, same⟩ := Except.bind_eq_ok.1 compiled
  cases same
  obtain ⟨predicate, -, isCondition⟩ :=
    Except.exists_of_mapM areFound _ (List.reduceOption_mem_iff.1 mem)
  exact Draft.condition_generated columns isCondition

theorem filterConditions_generated {query : Query Row} {conditions : List Sql.Expression}
    (compiled : query.filterConditions = .ok conditions) :
    ∀ e ∈ conditions, e.Generated fun _ => True :=
  filterConditions_generatedFrom (fun _ _ => trivial) compiled

end Query

/-! ## Statements -/

namespace Statement

/-- The parameters of a statement are numbered through, in the order of the values of its
conditions, and that is the order in which their placeholders are written. -/
structure NumbersParameters (statement : Statement) (clause : Sql.FilterClause)
    (conditions : List Sql.Expression) : Prop where
  values : statement.parameters.entries.map Prod.snd =
    conditions.flatMap Sql.Expression.leafValues
  names : statement.parameters.entries.map Prod.fst =
    (List.range statement.parameters.entries.length).map Sql.parameterName
  distinct : (statement.parameters.entries.map Prod.fst).Nodup
  single : ∀ entry ∈ statement.parameters.entries, entry.2.isArray = false
  filterSql : statement.filterSql =
    Sql.joined (Sql.written 0 (Sql.Filter.pieces ⟨clause, conditions⟩))
  placeholders : Sql.placeholders (Sql.written 0 (Sql.Filter.pieces ⟨clause, conditions⟩)) =
    statement.parameters.entries

/-- The other clauses, each written into an empty buffer, leave its table empty. -/
structure BindsNothingElse (statement : Statement) (query : Query Row) (clauses : Clauses) :
    Prop where
  selectList : ∃ buffer, buffer = Sql.Buffer.empty.write (Assembly.selectList query.environment
      clauses.selected (Command.inRegion .afterSelectionColumns query.commands)).pieces ∧
    buffer.parameters = .empty ∧
    statement.selectSql = if query.allColumnsMapped then buffer.text else ""
  orderBy : ∃ buffer, buffer = Sql.Buffer.empty.write (orderByPieces clauses.order) ∧
    buffer.parameters = .empty ∧ statement.orderBySql = buffer.text
  limit : ∃ buffer, buffer = Sql.Buffer.empty.write clauses.limit.pieces ∧
    buffer.parameters = .empty ∧ statement.limitSql = buffer.text

end Statement

namespace Query

/-- A statement is the assembly of its clauses. -/
theorem statement_assembly {query : Query Row} {clauses : Clauses} {output : Output}
    {statement : Statement} (compiled : query.statement clauses output = .ok statement) :
    statement.toAssembly =
      Assembly.assemble query.environment query.baseSql query.commands clauses output ∧
    statement.callerParameters = query.parameters := by
  cases statement_eq compiled
  exact ⟨rfl, rfl⟩

/-- The clauses hold the conditions of the filters of the plan. -/
theorem clauses_conditions {query : Query Row} {clauses : Clauses} {transform : ItemTransform Row}
    (compiled : query.clauses = .ok (clauses, transform)) :
    query.filterConditions = .ok clauses.conditions := by
  obtain ⟨progress, order, isProgress, -, rfl, -⟩ := clauses_eq_ok.1 compiled
  exact progress_conditions isProgress

/-- The parameters of a statement are those of its filter. -/
theorem statement_parameters {query : Query Row} {clauses : Clauses} {output : Output}
    {statement : Statement} (compiled : query.statement clauses output = .ok statement) :
    statement.parameters = ⟨clauses.conditions.flatMap Sql.Expression.leafValues⟩ := by
  rw [(statement_assembly compiled).1, Assembly.assemble_parameters]

theorem statement_numbersParameters {query : Query Row} {clauses : Clauses} {output : Output}
    {statement : Statement} (generated : ∀ e ∈ clauses.conditions, e.Generated fun _ => True)
    (compiled : query.statement clauses output = .ok statement) :
    statement.NumbersParameters query.environment.filterClause clauses.conditions := by
  have parameters := statement_parameters compiled
  have entries : statement.parameters.entries =
      Sql.Parameters.entriesFrom 0 (clauses.conditions.flatMap Sql.Expression.leafValues) := by
    rw [parameters]
    rfl
  have names : statement.parameters.entries.map Prod.fst =
      (List.range statement.parameters.entries.length).map Sql.parameterName := by
    rw [Sql.Parameters.entries_length, Sql.Parameters.entries_names]
  constructor
  case values => rw [entries, Sql.entriesFrom_values]
  case names => exact names
  case distinct =>
    rw [names]
    exact List.Nodup.map Sql.parameterName_injective List.nodup_range
  case single =>
    rintro ⟨name, value⟩ mem
    have isValue : value ∈ statement.parameters.entries.map Prod.snd :=
      List.mem_map_of_mem mem
    rw [entries, Sql.entriesFrom_values] at isValue
    obtain ⟨e, isCondition, mem⟩ := List.mem_flatMap.1 isValue
    exact (generated e isCondition).leafValues_single value mem
  case filterSql =>
    rw [(statement_assembly compiled).1, ← Sql.text_eq]
    rfl
  case placeholders => rw [Sql.placeholders_written, Sql.Filter.values_pieces, entries]

theorem statement_bindsNothingElse {query : Query Row} {clauses : Clauses} {output : Output}
    {statement : Statement} (compiled : query.statement clauses output = .ok statement) :
    statement.BindsNothingElse query clauses := by
  have assembled := (statement_assembly compiled).1
  constructor
  case selectList =>
    have none := Sql.SelectList.values_pieces (Assembly.selectList_columns query.environment
      clauses.selected (Command.inRegion .afterSelectionColumns query.commands))
    refine ⟨_, rfl, Sql.Buffer.write_parameters none, ?_⟩
    rw [assembled]
    rfl
  case orderBy =>
    have none := Sql.orderByPieces_values (SortKey.clause_columns clauses.order)
    refine ⟨_, rfl, Sql.Buffer.write_parameters none, ?_⟩
    rw [assembled]
    rfl
  case limit =>
    refine ⟨_, rfl, Sql.Buffer.write_parameters (Sql.Limit.values_pieces _), ?_⟩
    rw [assembled]
    rfl

/-- **Parameters are numbered through a whole statement.**  Their values are those of the
conditions of all filters, in the order of the plan and each from left to right. -/
theorem compile_numbersParameters {query : Query Row} {statement : Statement}
    {transform : ItemTransform Row} (compiled : query.compile = .ok (statement, transform)) :
    ∃ conditions clauses,
      query.filterConditions = .ok conditions ∧
      query.clauses = .ok (clauses, transform) ∧
      statement.NumbersParameters query.environment.filterClause conditions ∧
      statement.BindsNothingElse query clauses := by
  obtain ⟨clauses, areClauses, isStatement⟩ := compile_eq_ok.1 compiled
  have conditions := clauses_conditions areClauses
  have generated := filterConditions_generated conditions
  exact ⟨clauses.conditions, clauses, conditions, areClauses,
    statement_numbersParameters generated isStatement, statement_bindsNothingElse isStatement⟩

/-- `Age > 17 && [1, 2].Contains(Id)`, a sort, a page, and then `Age + 1 < 65`. -/
def adultsBelowRetirement : Query Nat :=
  let age := Predicate.field "Age"
  let amongTwo : Predicate :=
    .call "Contains" (some (.literal (.array [.int 1, .int 2]))) [.field "Id"] false
  (Query.ofSql "SELECT * FROM people")
    |>.filter (.andAlso (.greaterThan age (.literal (.int 17))) amongTwo)
    |>.sortBy (.field "Name") .ascending
    |>.take 10
    |>.filter (.lessThan (.add age (.literal (.int 1))) (.literal (.int 65)))

theorem compile_adultsBelowRetirement :
    ∃ statement transform, adultsBelowRetirement.compile = .ok (statement, transform) ∧
      statement.parameters.entries.map Prod.fst =
        ["@P1000", "@P1001", "@P1002", "@P1003", "@P1004"] ∧
      ∃ conditions clauses,
        adultsBelowRetirement.filterConditions = .ok conditions ∧
        adultsBelowRetirement.clauses = .ok (clauses, transform) ∧
        statement.NumbersParameters .having conditions ∧
        statement.BindsNothingElse adultsBelowRetirement clauses := by
  have names : (adultsBelowRetirement.compile.toOption.map fun result =>
      result.1.parameters.entries.map Prod.fst) =
        some ["@P1000", "@P1001", "@P1002", "@P1003", "@P1004"] := by decide +kernel
  obtain ⟨⟨statement, transform⟩, compiled, areNames⟩ := Except.toOption_map_eq_some.1 names
  exact ⟨statement, transform, compiled, areNames, compile_numbersParameters compiled⟩

end Query

end PlanCompiler
