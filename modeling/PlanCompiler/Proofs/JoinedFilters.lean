/-
# Proofs.JoinedFilters -- two filters and their conjunction

A conjunction is simplified side by side (`simplify_andAlso`), provided that neither side comes to
a truth value, which would decide it or drop out of it.  Its condition is the conjunction of the
two conditions, and a filter with it is refused for the first error of the two.

So a plan that ends with two filters has the same last condition cut in two, and the other clauses
are the same (`clauses_joined`).  The values stand in the same order either way, so the parameters
are the same, and with them whether a parameter of the caller has the name of one
(`compileAs_joined`).
-/
import PlanCompiler.Proofs.Counting
import PlanCompiler.Proofs.FoldedTerms
import PlanCompiler.Proofs.ParameterNames
import PlanCompiler.Proofs.RefinedPlans

namespace PlanCompiler

set_option autoImplicit false

/-! ## Simplifying -/

namespace Term

variable {Leaf : Type}

/-- The term is no truth value. -/
def NotBool (t : Term Leaf) : Prop :=
  ∀ truth, t ≠ .literal (.bool truth)

theorem NotBool.isBool {t : Term Leaf} (notBool : t.NotBool) (truth : Bool) :
    t.isBool truth = false :=
  Bool.eq_false_iff.2 fun isBool => notBool truth (isBool_iff.1 isBool)

/-- Nothing is decided between two terms that are no truth values. -/
theorem undecided_andAlso {left right : Term Leaf} (inLeft : left.NotBool)
    (inRight : right.NotBool) : Undecided (.binary .andAlso left right) := by
  have short : shortCircuit? .andAlso left right = none := by
    simp [shortCircuit?, inLeft.isBool, inRight.isBool]
  simp only [Undecided, binaryValue?, short]
  cases left with
  | literal a =>
    cases right with
    | literal b =>
      cases a with
      | bool truth => exact absurd rfl (inLeft truth)
      | _ => rfl
    | _ => rfl
  | _ => rfl

end Term

namespace Draft

variable {env : Environment}

/-- The draft of a filter that restricts the rows, as far as can be told from its form: no truth
value, and no test of membership in an empty collection. -/
structure Restricts (draft : Draft) : Prop where
  notBool : draft.NotBool
  notEmpty : draft.isEmptyMembership = false

theorem notBool_of_normalize {draft : Draft} (notBool : (normalize draft).NotBool) :
    draft.NotBool := by
  rintro truth rfl
  exact notBool truth rfl

theorem normalize_andAlso {left right : Draft} (inLeft : (normalize left).NotBool)
    (inRight : (normalize right).NotBool) :
    normalize (.binary .andAlso left right) =
      .binary .andAlso (normalize left) (normalize right) := by
  change normalizeStep (.binary .andAlso (normalize left) (normalize right)) = _
  simp only [normalizeStep, inLeft.isBool, inRight.isBool, Bool.false_eq_true, if_false]

/-- Conjunctions are simplified side by side. -/
theorem simplify_andAlso {p q : Predicate} (inP : (simplify env p).NotBool)
    (inQ : (simplify env q).NotBool) :
    simplify env (p.andAlso q) = .binary .andAlso (simplify env p) (simplify env q) := by
  have folded : Term.fold (reduce env (ofPredicate (p.andAlso q))) =
      .binary .andAlso (Term.fold (reduce env (ofPredicate p)))
        (Term.fold (reduce env (ofPredicate q))) := by
    exact Term.foldStep_of_undecided
      (Term.undecided_andAlso (notBool_of_normalize inP) (notBool_of_normalize inQ))
  rw [simplify, folded]
  exact normalize_andAlso inP inQ

theorem condition_of_restricts {draft : Draft} (restricts : draft.Restricts) :
    condition env draft = some <$> draft.expression env := by
  unfold condition
  rw [restricts.notBool.isBool, restricts.notEmpty]
  rfl

/-- The condition of a conjunction is the conjunction of the conditions. -/
theorem condition_andAlso (left right : Draft) :
    condition env (.binary .andAlso left right) = do
      return some (.and (← left.expression env) (← right.expression env)) := by
  have restricts : Restricts (.binary .andAlso left right) := ⟨fun _ => nofun, rfl⟩
  rw [condition_of_restricts restricts]
  simp only [expression]
  cases left.expression env with
  | error e => rfl
  | ok a => cases right.expression env <;> rfl

end Draft

/-! ## Clauses -/

/-- The clauses with more conditions at the end. -/
def Clauses.withConditions (clauses : Clauses) (more : List Sql.Expression) : Clauses :=
  { clauses with conditions := clauses.conditions ++ more }

namespace Query

variable {Row : Type} {query : Query Row} {p q : Predicate}

/-- A filter adds its condition at the end. -/
theorem progress_filter (query : Query Row) (p : Predicate) :
    (query.filter p).progress = do
      let progress ← query.progress
      let condition ← query.filterCondition p
      return { progress with conditions := progress.conditions ++ condition.toList } :=
  query.progress_refine (.filter p)

/-- Both predicates restrict the rows of the query. -/
structure BothRestrict (query : Query Row) (p q : Predicate) : Prop where
  left : (Draft.simplify query.environment p).Restricts
  right : (Draft.simplify query.environment q).Restricts

theorem BothRestrict.simplify_andAlso (restrict : query.BothRestrict p q) :
    Draft.simplify query.environment (p.andAlso q) =
      .binary .andAlso (Draft.simplify query.environment p)
        (Draft.simplify query.environment q) :=
  Draft.simplify_andAlso restrict.left.notBool restrict.right.notBool

theorem progress_joined (restrict : query.BothRestrict p q) :
    (∃ e, ((query.filter p).filter q).progress = .error e ∧
        (query.filter (p.andAlso q)).progress = .error e) ∨
      ∃ progress left right, query.progress = .ok progress ∧
        query.filterCondition p = .ok (some left) ∧ query.filterCondition q = .ok (some right) ∧
        ((query.filter p).filter q).progress =
          .ok { progress with conditions := progress.conditions ++ [left, right] } ∧
        (query.filter (p.andAlso q)).progress =
          .ok { progress with conditions := progress.conditions ++ [.and left right] } := by
  have inP : query.filterCondition p =
      some <$> (Draft.simplify query.environment p).expression query.environment :=
    Draft.condition_of_restricts restrict.left
  have inQ : query.filterCondition q =
      some <$> (Draft.simplify query.environment q).expression query.environment :=
    Draft.condition_of_restricts restrict.right
  have joined : query.filterCondition (p.andAlso q) = do
      return some (.and (← (Draft.simplify query.environment p).expression query.environment)
        (← (Draft.simplify query.environment q).expression query.environment)) := by
    rw [filterCondition, restrict.simplify_andAlso, Draft.condition_andAlso]
  have sameRow : (query.filter p).filterCondition q = query.filterCondition q := rfl
  rw [progress_filter, progress_filter, progress_filter, sameRow, joined, inP, inQ]
  cases query.progress with
  | error e => exact .inl ⟨e, rfl, rfl⟩
  | ok progress =>
    cases (Draft.simplify query.environment p).expression query.environment with
    | error e => exact .inl ⟨e, rfl, rfl⟩
    | ok left =>
      cases (Draft.simplify query.environment q).expression query.environment with
      | error e => exact .inl ⟨e, rfl, rfl⟩
      | ok right =>
        have twice : progress.conditions ++ [left] ++ [right] =
            progress.conditions ++ [left, right] := by rw [List.append_assoc]; rfl
        refine .inr ⟨progress, left, right, rfl, rfl, rfl, ?_, rfl⟩
        rw [← twice]
        rfl

theorem clauses_of_progress {progress : Progress Row} (compiled : query.progress = .ok progress) :
    query.clauses =
      (fun order => (⟨progress.conditions, order, progress.limit, progress.projection.selected⟩,
        progress.projection.transform)) <$>
          SortKey.ordering query.environment progress.sorts := by
  unfold clauses
  rw [compiled]
  rfl

theorem clauses_of_progress_error {e : CompileError} (failed : query.progress = .error e) :
    query.clauses = .error e := by
  unfold clauses
  rw [failed]
  rfl

/-- Two filters are refused like their conjunction, or else their conditions stand one after the
other where it has both in one. -/
theorem clauses_joined (restrict : query.BothRestrict p q) :
    (∃ e, ((query.filter p).filter q).clauses = .error e ∧
        (query.filter (p.andAlso q)).clauses = .error e) ∨
      ∃ clauses transform left right, query.clauses = .ok (clauses, transform) ∧
        query.filterCondition p = .ok (some left) ∧ query.filterCondition q = .ok (some right) ∧
        ((query.filter p).filter q).clauses =
          .ok (clauses.withConditions [left, right], transform) ∧
        (query.filter (p.andAlso q)).clauses =
          .ok (clauses.withConditions [.and left right], transform) := by
  rcases progress_joined restrict with
    ⟨e, apart, joined⟩ | ⟨progress, left, right, compiled, isLeft, isRight, apart, joined⟩
  · exact .inl ⟨e, clauses_of_progress_error apart, clauses_of_progress_error joined⟩
  · rw [clauses_of_progress compiled, clauses_of_progress apart, clauses_of_progress joined]
    -- the keys are those of the same sort operations
    cases isOrder : SortKey.ordering query.environment progress.sorts with
    | error e => exact .inl ⟨e, congrArg _ isOrder, congrArg _ isOrder⟩
    | ok order =>
      exact .inr ⟨⟨progress.conditions, order, progress.limit, progress.projection.selected⟩,
        progress.projection.transform, left, right, rfl, isLeft, isRight, congrArg _ isOrder,
        congrArg _ isOrder⟩

/-! ## Statements -/

/-- The condition of a conjunction has the values of both, in this order. -/
theorem leafValues_joined (conditions : List Sql.Expression) (left right : Sql.Expression) :
    (conditions ++ [Sql.Expression.and left right]).flatMap Sql.Expression.leafValues =
      (conditions ++ [left, right]).flatMap Sql.Expression.leafValues := by
  simp [Sql.Expression.leafValues]

theorem forOutput_conditions (clauses : Clauses) (output : Output) :
    (clauses.forOutput output).conditions = clauses.conditions := by
  cases output <;> rfl

/-- Queries that differ in their plans and in conditions with the same values are refused for the
same collision, or for none. -/
theorem statement_sameValues {clauses clauses' : Clauses} (query other : Query Row)
    (output : Output) (parameters : other.parameters = query.parameters)
    (values : clauses'.conditions.flatMap Sql.Expression.leafValues =
      clauses.conditions.flatMap Sql.Expression.leafValues) :
    (∃ e, query.statement clauses output = .error e ∧ other.statement clauses' output = .error e) ∨
      ∃ statement statement', query.statement clauses output = .ok statement ∧
        other.statement clauses' output = .ok statement' := by
  have refused : ∀ e, query.statement clauses output = .error e ↔
      other.statement clauses' output = .error e := by
    intro e
    rw [statement_error_iff, statement_error_iff, parameters, values]
  cases compiled : query.statement clauses output with
  | error e => exact .inl ⟨e, rfl, (refused e).1 compiled⟩
  | ok statement =>
    cases compiled' : other.statement clauses' output with
    | error e =>
      rw [(refused e).2 compiled'] at compiled
      cases compiled
    | ok statement' => exact .inr ⟨statement, statement', rfl, rfl⟩

theorem statement_filterSql {clauses : Clauses} {output : Output} {statement : Statement}
    (compiled : query.statement clauses output = .ok statement) :
    statement.filterSql =
      Sql.text (Sql.Filter.pieces ⟨query.environment.filterClause, clauses.conditions⟩) := by
  rw [(statement_assembly compiled).1]
  rfl

/-- **Two filters compile like their conjunction.**  Neither predicate may come to a truth value or
to a test of membership in an empty collection; then their conjunction is simplified side by side.
A plan that ends with both is refused if and only if the plan that ends with their conjunction is,
and for the same error.  Otherwise its conditions are those of the rest of the plan followed by the
two, where the other plan has their conjunction, and the same values are bound to the same names. -/
theorem compileAs_joined (query : Query Row) (p q : Predicate) (restrict : query.BothRestrict p q)
    (output : Output) :
    Draft.simplify query.environment (p.andAlso q) =
        .binary .andAlso (Draft.simplify query.environment p)
          (Draft.simplify query.environment q) ∧
      ((∃ e, ((query.filter p).filter q).compileAs output = .error e ∧
          (query.filter (p.andAlso q)).compileAs output = .error e) ∨
        ∃ clauses transform left right apart joined,
          query.clauses = .ok (clauses, transform) ∧
          query.filterCondition p = .ok (some left) ∧
          query.filterCondition q = .ok (some right) ∧
          ((query.filter p).filter q).clauses =
            .ok (clauses.withConditions [left, right], transform) ∧
          (query.filter (p.andAlso q)).clauses =
            .ok (clauses.withConditions [.and left right], transform) ∧
          ((query.filter p).filter q).compileAs output = .ok apart ∧
          (query.filter (p.andAlso q)).compileAs output = .ok joined ∧
          apart.filterSql = Sql.text (Sql.Filter.pieces
            ⟨query.environment.filterClause, clauses.conditions ++ [left, right]⟩) ∧
          joined.filterSql = Sql.text (Sql.Filter.pieces
            ⟨query.environment.filterClause, clauses.conditions ++ [.and left right]⟩) ∧
          apart.parameters.entries = joined.parameters.entries) := by
  refine ⟨restrict.simplify_andAlso, ?_⟩
  rcases clauses_joined restrict with ⟨e, apart, joined⟩ |
    ⟨clauses, transform, left, right, compiled, isLeft, isRight, apart, joined⟩
  · exact .inl ⟨e, compileAs_of_error apart output, compileAs_of_error joined output⟩
  · have values : ((clauses.withConditions [.and left right]).forOutput output).conditions.flatMap
          Sql.Expression.leafValues =
        ((clauses.withConditions [left, right]).forOutput output).conditions.flatMap
          Sql.Expression.leafValues := by
      rw [forOutput_conditions, forOutput_conditions]
      exact leafValues_joined clauses.conditions left right
    rw [compileAs_of_clauses apart, compileAs_of_clauses joined]
    rcases statement_sameValues ((query.filter p).filter q) (query.filter (p.andAlso q)) output rfl
      values with refused | ⟨first, second, isFirst, isSecond⟩
    · exact .inl refused
    · refine .inr ⟨clauses, transform, left, right, first, second, compiled, isLeft, isRight, apart,
        joined, isFirst, isSecond, ?_, ?_, ?_⟩
      · rw [statement_filterSql isFirst, forOutput_conditions]
        rfl
      · rw [statement_filterSql isSecond, forOutput_conditions]
        rfl
      · rw [statement_parameters isFirst, statement_parameters isSecond, values]

/-- The grown-ups. -/
def adults : Query Nat :=
  (Query.ofSql "SELECT * FROM people").filter
    (.greaterThan (.field "Age") (.literal (.int 17)))

/-- `Name.StartsWith("A")` and `Age + 1 < 65`, after the filter of `adults`. -/
theorem compileAs_joined_adults :
    let p := (Predicate.field "Name").startsWith (.literal (.string "A"))
    let q := Predicate.lessThan (.add (.field "Age") (.literal (.int 1))) (.literal (.int 65))
    adults.BothRestrict p q ∧
      ∃ apart joined, ((adults.filter p).filter q).compileAs .rows = .ok apart ∧
        (adults.filter (p.andAlso q)).compileAs .rows = .ok joined ∧
        apart.filterSql = "HAVING (\x60Age\x60 > @P1000)"
          ++ " AND (\x60Name\x60 LIKE CONCAT(@P1001, '%'))"
          ++ " AND ((\x60Age\x60 + @P1002) < @P1003)" ∧
        joined.filterSql = "HAVING (\x60Age\x60 > @P1000)"
          ++ " AND ((\x60Name\x60 LIKE CONCAT(@P1001, '%'))"
          ++ " AND ((\x60Age\x60 + @P1002) < @P1003))" ∧
        apart.parameters.entries = joined.parameters.entries := by
  intro p q
  have restrict : adults.BothRestrict p q := ⟨⟨fun _ => nofun, rfl⟩, ⟨fun _ => nofun, rfl⟩⟩
  have apartSql : (((adults.filter p).filter q).compileAs .rows).toOption.map
      (fun statement => statement.filterSql) =
        some ("HAVING (\x60Age\x60 > @P1000)"
          ++ " AND (\x60Name\x60 LIKE CONCAT(@P1001, '%'))"
          ++ " AND ((\x60Age\x60 + @P1002) < @P1003)") := by
    decide +kernel
  have joinedSql : ((adults.filter (p.andAlso q)).compileAs .rows).toOption.map
      (fun statement => statement.filterSql) =
        some ("HAVING (\x60Age\x60 > @P1000)"
          ++ " AND ((\x60Name\x60 LIKE CONCAT(@P1001, '%'))"
          ++ " AND ((\x60Age\x60 + @P1002) < @P1003))") := by
    decide +kernel
  obtain ⟨apart, isApart, apartText⟩ := Except.toOption_map_eq_some.1 apartSql
  obtain ⟨joined, isJoined, joinedText⟩ := Except.toOption_map_eq_some.1 joinedSql
  rcases (compileAs_joined adults p q restrict .rows).2 with ⟨e, refused, -⟩ |
    ⟨_, _, _, _, _, _, -, -, -, -, -, isApart', isJoined', -, -, same⟩
  · rw [refused] at isApart
    cases isApart
  · cases isApart.symm.trans isApart'
    cases isJoined.symm.trans isJoined'
    exact ⟨restrict, apart, joined, isApart, isJoined, apartText, joinedText, same⟩

end Query

end PlanCompiler
