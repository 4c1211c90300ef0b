/-
# Proofs.RefinedPlans -- what one more step changes in a statement

An operation at the end of a plan is compiled after all others, from what they have been
compiled to (`Query.progress_refine`), and it changes one part of that (`Query.advance_sameBut`).
The clauses are written from one part each, so the statements before and after differ in the
clause of the operation, and in their texts as far as these hold it (`Query.step_ownClause`).

Filters only add to what is there.  A condition is written behind those before it, so its values
are numbered behind theirs, and the old clause and the old parameters begin the new ones.
-/
import PlanCompiler.Proofs.RowMutators
import PlanCompiler.Proofs.TextSources

namespace PlanCompiler

set_option autoImplicit false

variable {Row : Type}

/-! ## Parts of a statement -/

/-- What the steps of a plan refine. -/
inductive Part
  | filter
  | order
  | page
  | columns
deriving DecidableEq, Repr

def Operation.part : Operation → Part
  | .filter _ => .filter
  | .sortBy _ _ => .order
  | .thenSortBy _ _ => .order
  | .skip _ => .page
  | .take _ => .page
  | .project _ _ => .columns

/-- What a step refines, if it adds to the plan. -/
def BuildStep.part? : BuildStep Row → Option Part
  | .refine operation => some operation.part
  | .registerMutator _ => some .columns
  | _ => none

namespace Query

variable {query : Query Row}

/-- What has been compiled differs in this part at most, and conditions are only added. -/
structure Progress.SameBut (part : Part) (before after : Progress Row) : Prop where
  conditions : part ≠ .filter → after.conditions = before.conditions
  sorts : part ≠ .order → after.sorts = before.sorts
  limit : part ≠ .page → after.limit = before.limit
  projection : part ≠ .columns → after.projection = before.projection
  extended : before.conditions <+: after.conditions
  collected : before.projection.transform <+: after.projection.transform

/-- Compiling one more operation changes its own part. -/
theorem advance_sameBut {before after : Progress Row} {operation : Operation}
    (advanced : query.advance before operation = .ok after) :
    before.SameBut operation.part after := by
  obtain ⟨conditions, -, extended⟩ := advance_conditions advanced
  obtain ⟨mutates, -, collected⟩ := advance_transform advanced
  have isExtended : before.conditions <+: after.conditions := ⟨_, extended.symm⟩
  have isCollected : before.projection.transform <+: after.projection.transform :=
    ⟨_, collected.symm⟩
  cases advance_eq_ok.1 advanced with
  | filter =>
    exact ⟨fun other => absurd rfl other, fun _ => rfl, fun _ => rfl, fun _ => rfl, isExtended,
      isCollected⟩
  | sortBy | thenSortBy =>
    exact ⟨fun _ => rfl, fun other => absurd rfl other, fun _ => rfl, fun _ => rfl, isExtended,
      isCollected⟩
  | skip | take =>
    exact ⟨fun _ => rfl, fun _ => rfl, fun other => absurd rfl other, fun _ => rfl, isExtended,
      isCollected⟩
  | project =>
    exact ⟨fun _ => rfl, fun _ => rfl, fun _ => rfl, fun other => absurd rfl other, isExtended,
      isCollected⟩

/-- The last operation is compiled from what the others have been compiled to. -/
theorem progress_refine (query : Query Row) (operation : Operation) :
    (query.refine operation).progress =
      query.progress >>= fun progress => query.advance progress operation := by
  show (query.plan ++ [operation]).foldlM query.advance .start = _
  rw [List.foldlM_append]
  apply congrArg
  funext progress
  simp

end Query

/-- The clauses differ in this part at most, and conditions are only added. -/
structure Clauses.SameBut (part : Part) (before after : Clauses) : Prop where
  conditions : part ≠ .filter → after.conditions = before.conditions
  order : part ≠ .order → after.order = before.order
  limit : part ≠ .page → after.limit = before.limit
  selected : part ≠ .columns → after.selected = before.selected
  extended : before.conditions <+: after.conditions

/-- What is done to the rows is added to by projections only. -/
structure ItemTransform.SameBut (part : Part) (before after : ItemTransform Row) : Prop where
  same : part ≠ .columns → after = before
  extended : before <+: after

namespace Query

variable {query : Query Row}

theorem clauses_sameBut {operation : Operation} {before after : Clauses}
    {transform transform' : ItemTransform Row}
    (compiled : query.clauses = .ok (before, transform))
    (refined : (query.refine operation).clauses = .ok (after, transform')) :
    before.SameBut operation.part after ∧ transform.SameBut operation.part transform' := by
  obtain ⟨progress, order, isProgress, isOrder, rfl, rfl⟩ := clauses_eq_ok.1 compiled
  obtain ⟨progress', order', isProgress', isOrder', rfl, rfl⟩ := clauses_eq_ok.1 refined
  rw [progress_refine, isProgress] at isProgress'
  have step := advance_sameBut isProgress'
  constructor
  · refine ⟨step.conditions, fun other => ?_, step.limit, fun other => ?_, step.extended⟩
    · -- the keys are those of the same sort operations
      have ordered : SortKey.ordering query.environment progress'.sorts = .ok order' := isOrder'
      rw [step.sorts other, isOrder] at ordered
      exact (Except.ok.inj ordered).symm
    · show progress'.projection.selected = progress.projection.selected
      rw [step.projection other]
  · refine ⟨fun other => ?_, step.collected⟩
    rw [step.projection other]

end Query

/-! ## Texts -/

namespace Sql

/-- More pieces continue the text. -/
theorem text_prefix {a b : List Piece} (begins : a <+: b) :
    (text a).toList <+: (text b).toList := by
  obtain ⟨rest, rfl⟩ := begins
  rw [text_toList, text_toList, chars_append]
  exact List.prefix_append _ _

/-- More parts continue a sequence. -/
theorem separated_prefix (between : Piece) (parts more : List (List Piece)) :
    separated between parts <+: separated between (parts ++ more) := by
  induction parts with
  | nil => exact List.nil_prefix
  | cons part rest ih =>
    cases rest with
    | nil =>
      cases more with
      | nil => exact List.prefix_rfl
      | cons next later => exact List.prefix_append _ _
    | cons next later =>
      rw [List.cons_append, List.cons_append, separated_cons, separated_cons,
        List.prefix_append_right_inj, List.cons_prefix_cons]
      exact ⟨rfl, ih⟩

/-- More conditions continue the clause. -/
theorem Filter.pieces_prefix (clause : FilterClause) (conditions more : List Expression) :
    Filter.pieces ⟨clause, conditions⟩ <+: Filter.pieces ⟨clause, conditions ++ more⟩ := by
  cases conditions with
  | nil => exact List.nil_prefix
  | cons first rest =>
    simp only [Filter.pieces, List.cons_append, List.isEmpty_cons, Bool.false_eq_true, if_false,
      List.cons_prefix_cons, true_and]
    rw [← List.cons_append, List.map_append]
    exact separated_prefix _ _ _

/-- More values continue the table. -/
theorem Parameters.entries_prefix (values more : List Literal) :
    (Parameters.mk values).entries <+: (Parameters.mk (values ++ more)).entries := by
  unfold Parameters.entries
  rw [entriesFrom_append]
  exact List.prefix_append _ _

end Sql

/-! ## Statements -/

namespace Statement

/-- The statements differ in this part at most, besides their texts and the plans they show. -/
structure SameBut (part : Part) (before after : Statement) : Prop where
  parameters : part ≠ .filter → after.parameters = before.parameters
  filterSql : part ≠ .filter → after.filterSql = before.filterSql
  orderBySql : part ≠ .order → after.orderBySql = before.orderBySql
  limitSql : part ≠ .page → after.limitSql = before.limitSql
  selectSql : part ≠ .columns → after.selectSql = before.selectSql
  selectedColumns : part ≠ .columns → after.selectedColumns = before.selectedColumns
  headerSql : after.headerSql = before.headerSql
  commands : after.commands = before.commands
  callerParameters : after.callerParameters = before.callerParameters

/-- The old filter begins the new one, and so do its parameters, by their names and values. -/
structure Extended (before after : Statement) : Prop where
  parameters : before.parameters.entries <+: after.parameters.entries
  filterSql : before.filterSql.toList <+: after.filterSql.toList

/-- The text is put together from the clauses of the statement and from nothing else of the
plan. -/
def IsAssembled (statement : Statement) (query : Query Row) : Prop :=
  statement.statementSql = Assembly.body query.environment query.commands
    statement.selectedColumns .rows (statement.inner query .rows) ++ ";"

end Statement

namespace Query

variable {query : Query Row} {before after : Statement}

theorem statement_sameBut {part : Part} {operation : Operation} {clauses clauses' : Clauses}
    (same : clauses.SameBut part clauses')
    (compiled : query.statement clauses .rows = .ok before)
    (refined : (query.refine operation).statement clauses' .rows = .ok after) :
    before.SameBut part after := by
  cases statement_eq compiled
  cases statement_eq refined
  constructor
  case parameters =>
    intro other
    simp only [Assembly.assemble_parameters, same.conditions other]
  case filterSql =>
    intro other
    show Sql.text (Assembly.filterClause query.environment clauses') = _
    rw [Assembly.filterClause, same.conditions other]
    rfl
  case orderBySql =>
    intro other
    show Sql.text (orderByPieces clauses'.order) = _
    rw [same.order other]
    rfl
  case limitSql =>
    intro other
    show Sql.text clauses'.limit.pieces = _
    rw [same.limit other]
    rfl
  case selectSql =>
    intro other
    simp only [Assembly.assemble_selectSql, Assembly.listClause]
    rw [same.selected other]
    rfl
  case selectedColumns => exact same.selected
  case headerSql => rfl
  case commands => rfl
  case callerParameters => rfl

theorem statement_extended {part : Part} {operation : Operation} {clauses clauses' : Clauses}
    (same : clauses.SameBut part clauses')
    (compiled : query.statement clauses .rows = .ok before)
    (refined : (query.refine operation).statement clauses' .rows = .ok after) :
    before.Extended after := by
  obtain ⟨more, areConditions⟩ := same.extended
  constructor
  case parameters =>
    rw [statement_parameters compiled, statement_parameters refined, ← areConditions,
      List.flatMap_append]
    exact Sql.Parameters.entries_prefix _ _
  case filterSql =>
    rw [(statement_assembly compiled).1, (statement_assembly refined).1]
    show (Sql.text (Assembly.filterClause query.environment clauses)).toList <+:
      (Sql.text (Assembly.filterClause query.environment clauses')).toList
    rw [Assembly.filterClause, Assembly.filterClause, ← areConditions]
    exact Sql.text_prefix (Sql.Filter.pieces_prefix _ _ _)

theorem statement_isAssembled {clauses : Clauses} {statement : Statement}
    (compiled : query.statement clauses .rows = .ok statement) : statement.IsAssembled query := by
  cases statement_eq compiled
  rfl

/-! ## Functions that are registered meanwhile -/

/-- More functions change nothing for what names those that are there. -/
theorem project_moreMutators {env : Environment} {mutators : List (Row → Row)}
    (more : List (Row → Row)) {shape : Shape} {mutator : Option Nat} {before after : Projection Row}
    (projected : before.project env mutators shape mutator = (after, .ok ())) :
    before.project env (mutators ++ more) shape mutator = (after, .ok ()) := by
  cases mutator with
  | none => exact projected
  | some id =>
    cases isThere : mutators[id]? with
    | none =>
      rw [Projection.project_missing isThere] at projected
      cases projected
    | some mutate =>
      have inside : id < mutators.length := (List.getElem?_eq_some_iff.1 isThere).1
      have still : (mutators ++ more)[id]? = some mutate := by
        rw [List.getElem?_append_left inside, isThere]
      unfold Projection.project Projection.collect at projected ⊢
      simp only [isThere, still] at projected ⊢
      exact projected

/-- The query with more functions registered, which its plan does not name. -/
def withMutators (more : List (Row → Row)) (query : Query Row) : Query Row :=
  { query with mutators := query.mutators ++ more }

theorem advance_withMutators (more : List (Row → Row)) {before after : Progress Row}
    {operation : Operation} (advanced : query.advance before operation = .ok after) :
    (query.withMutators more).advance before operation = .ok after := by
  cases advance_eq_ok.1 advanced with
  | project projected => exact advance_eq_ok.2 (.project (project_moreMutators more projected))
  | filter | sortBy | thenSortBy | skip | take => exact advanced

theorem compile_withMutators (more : List (Row → Row)) {statement : Statement}
    {transform : ItemTransform Row} (compiled : query.compile = .ok (statement, transform)) :
    (query.withMutators more).compile = .ok (statement, transform) := by
  obtain ⟨clauses, areClauses, isStatement⟩ := compile_eq_ok.1 compiled
  obtain ⟨progress, order, isProgress, isOrder, areClauses⟩ := clauses_eq_ok.1 areClauses
  have stillProgress : (query.withMutators more).progress = .ok progress := by
    refine Except.foldlM_induction (motive := fun (plan : Plan) (before after : Progress Row) =>
      plan.foldlM (query.withMutators more).advance before = .ok after) ?_ ?_ isProgress
    · exact fun _ => rfl
    · intro operation rest before next after first later
      rw [List.foldlM_cons, advance_withMutators more first]
      exact later
  have stillClauses : (query.withMutators more).clauses = .ok (clauses, transform) :=
    clauses_eq_ok.2 ⟨progress, order, stillProgress, isOrder, areClauses⟩
  exact compile_eq_ok.2 ⟨clauses, stillClauses, isStatement⟩

/-! ## Steps -/

/-- One more operation changes its own clause. -/
theorem refine_ownClause {operation : Operation} {transform transform' : ItemTransform Row}
    (compiled : query.compile = .ok (before, transform))
    (refined : (query.refine operation).compile = .ok (after, transform')) :
    before.SameBut operation.part after ∧ before.Extended after ∧
      transform.SameBut operation.part transform' ∧
      before.IsAssembled query ∧ after.IsAssembled query := by
  obtain ⟨clauses, areClauses, isStatement⟩ := compile_eq_ok.1 compiled
  obtain ⟨clauses', areClauses', isStatement'⟩ := compile_eq_ok.1 refined
  obtain ⟨sameClauses, sameTransform⟩ := clauses_sameBut areClauses areClauses'
  have assembled : after.IsAssembled (query.refine operation) := statement_isAssembled isStatement'
  exact ⟨statement_sameBut sameClauses isStatement isStatement',
    statement_extended sameClauses isStatement isStatement', sameTransform,
    statement_isAssembled isStatement, assembled⟩

/-- **Each step of a plan changes its own clause only, and filters only extend.**  The statement
before a step and the one after it differ in the part that the step refines at most; their texts
are put together from their clauses in the same way.  What is done to the rows is changed by
projections only.  The old filter and its parameters begin the new ones, so no parameter is
renamed. -/
theorem step_ownClause {step : BuildStep Row} {part : Part} (refines : step.part? = some part)
    {transform transform' : ItemTransform Row}
    (compiled : query.compile = .ok (before, transform))
    (refined : (step.apply query).compile = .ok (after, transform')) :
    before.SameBut part after ∧ before.Extended after ∧ transform.SameBut part transform' ∧
      before.IsAssembled query ∧ after.IsAssembled query := by
  cases step with
  | refine operation =>
    cases refines
    exact refine_ownClause compiled refined
  | registerMutator mutate =>
    cases refines
    have marked : ((query.withMutators [mutate]).refine
        (.project .row (some query.mutators.length))).compile = .ok (after, transform') := refined
    exact refine_ownClause (compile_withMutators [mutate] compiled) marked
  | withPlan _ | withFields _ | mapField _ _ | ensureAllColumnsMapped | insertCommand _
  | bindParameter _ _ => cases refines

/-- Ten grown-ups by their names. -/
def tenAdults : Query Nat :=
  (Query.ofSql "SELECT * FROM people")
    |>.filter (.greaterThan (.field "Age") (.literal (.int 17)))
    |>.sortBy (.field "Name") .ascending
    |>.take 10

/-- Those among them below the age of retirement. -/
def belowRetirement : BuildStep Nat :=
  .refine (.filter (.lessThan (.field "Age") (.literal (.int 65))))

theorem step_belowRetirement :
    belowRetirement.part? = some .filter ∧
      ∃ before after transform transform', tenAdults.compile = .ok (before, transform) ∧
        (belowRetirement.apply tenAdults).compile = .ok (after, transform') ∧
        before.filterSql = "HAVING (\x60Age\x60 > @P1000)" ∧
        after.filterSql = "HAVING (\x60Age\x60 > @P1000) AND (\x60Age\x60 < @P1001)" ∧
        before.SameBut .filter after ∧ before.Extended after := by
  have texts : (tenAdults.compile.toOption.map fun result => result.1.filterSql) =
      some "HAVING (\x60Age\x60 > @P1000)" := by decide +kernel
  have texts' : ((belowRetirement.apply tenAdults).compile.toOption.map fun result =>
      result.1.filterSql) = some "HAVING (\x60Age\x60 > @P1000) AND (\x60Age\x60 < @P1001)" := by
    decide +kernel
  have refines : belowRetirement.part? = some .filter := rfl
  obtain ⟨⟨before, transform⟩, compiled, isFilter⟩ := Except.toOption_map_eq_some.1 texts
  obtain ⟨⟨after, transform'⟩, refined, isFilter'⟩ := Except.toOption_map_eq_some.1 texts'
  obtain ⟨same, extended, -⟩ := step_ownClause refines compiled refined
  exact ⟨refines, before, after, transform, transform', compiled, refined, isFilter, isFilter',
    same, extended⟩

end Query

end PlanCompiler
