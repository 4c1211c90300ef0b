/-
# Proofs.NarrowedConditions -- simplified predicates still compile, to no more

Each step of the three passes narrows the draft that it is given (`foldStep_narrows`,
`reduceStep_narrows`, `normalizeStep_narrows`), and so do the passes.  Folding binds a value only
in place of a draft with a value in it, and never makes a collection of what compiles.

A predicate that compiles as it is written thus has a condition or needs none, and its condition
has no other columns and no more values (`condition_simplify_narrows`).
-/
import PlanCompiler.Proofs.GeneratedExpression
import PlanCompiler.Proofs.NarrowedDrafts

namespace PlanCompiler

set_option autoImplicit false

/-! ## Values of operations -/

namespace Literal

variable {a b value : Literal}

theorem ofInt?_single {n : Int} (fits : ofInt? n = some value) : value.isArray = false := by
  obtain ⟨-, same⟩ := Option.ite_none_right_eq_some.1 fits
  cases same
  rfl

theorem ofUInt?_single {n : Int} (fits : ofUInt? n = some value) : value.isArray = false := by
  obtain ⟨-, same⟩ := Option.ite_none_right_eq_some.1 fits
  cases same
  rfl

theorem concat?_single {values : List Literal} (result : concat? values = some value) :
    value.isArray = false := by
  obtain ⟨texts, -, same⟩ := Option.bind_eq_some_iff.1 result
  cases same
  rfl

theorem calculateNumbers?_single {op : Calculation}
    (result : calculateNumbers? op a b = some value) : value.isArray = false := by
  obtain ⟨x, -, result⟩ := Option.bind_eq_some_iff.1 result
  obtain ⟨y, -, result⟩ := Option.bind_eq_some_iff.1 result
  split at result
  · obtain ⟨n, -, result⟩ := Option.bind_eq_some_iff.1 result
    unfold ofResult? at result
    split at result
    · exact ofUInt?_single result
    · exact ofInt?_single result
  · obtain ⟨-, same⟩ := Option.ite_none_right_eq_some.1 result
    cases same
    rfl

theorem unary?_single {op : UnaryOp} (result : unary? op a = some value) :
    value.isArray = false := by
  unfold unary? at result
  split at result
  · cases result
    rfl
  · exact ofInt?_single result
  · obtain ⟨-, result⟩ := Option.ite_none_right_eq_some.1 result
    exact ofInt?_single result
  · cases result
    rfl
  · cases result

theorem binary?_single {op : BinaryOp} (result : binary? op a b = some value) :
    value.isArray = false := by
  cases op with
  | comparison op =>
    obtain ⟨truth, -, rfl⟩ := Option.map_eq_some_iff.1 result
    rfl
  | calculation op =>
    simp only [binary?, calculate?] at result
    split at result
    · exact concat?_single result
    · exact calculateNumbers?_single result
  | andAlso | orElse =>
    simp only [binary?] at result
    split at result <;> cases result
    rfl

theorem mapText_single {change : List Char → List Char} (result : mapText change a = some value) :
    value.isArray = false := by
  unfold mapText at result
  split at result <;> cases result
  rfl

theorem testTexts_single {test : List Char → List Char → Bool}
    (result : testTexts test a b = some value) : value.isArray = false := by
  unfold testTexts at result
  split at result <;> cases result
  rfl

/-- A call gives a collection only if it is the value of one. -/
theorem call?_single {method : Method} {target : Option Literal} {args : List Literal}
    (result : call? method target args = some value) :
    value.isArray = false ∨ method = .value ∧ target = some value ∧ args = [] := by
  unfold call? at result
  split at result
  case h_8 given =>
    obtain ⟨-, same⟩ := Option.ite_none_left_eq_some.1 result
    cases same
    exact .inr ⟨rfl, rfl, rfl⟩
  case h_5 | h_6 | h_7 => exact .inl (ofInt?_single result)
  case h_1 | h_9 | h_10 | h_17 =>
    obtain ⟨_, -, rfl⟩ := Option.map_eq_some_iff.1 result
    exact .inl rfl
  case h_2 | h_3 | h_4 => exact .inl (mapText_single result)
  case h_11 => exact .inl (concat?_single result)
  case h_14 | h_15 | h_16 => exact .inl (testTexts_single result)
  case h_12 | h_13 =>
    cases result
    exact .inl rfl
  case h_18 => cases result

end Literal

namespace Draft

open Sql.Expression (Covers covers_operands function_covers)

variable {env : Environment}

/-! ## Folding -/

/-- A literal is narrower than what has a value in it, unless it is a collection. -/
theorem narrows_literal {draft : Draft} {value : Literal} (notLiteral : draft.literal? = none)
    (covered : ∀ whole, expression env draft = .ok whole →
      value.isArray = false ∧ ∃ known, Covers whole (.value known)) :
    Narrows env draft (.literal value) := by
  refine .of_sql notLiteral fun whole compiled => ?_
  obtain ⟨single, known, covers⟩ := covered whole compiled
  exact ⟨.value value, expression_literal_eq_ok.2 ⟨single, rfl⟩, covers.value value⟩

theorem foldStep_unary_narrows (op : UnaryOp) (operand : Draft) :
    Narrows env (.unary op operand) (Term.foldStep (.unary op operand)) := by
  simp only [Term.foldStep]
  split
  · rename_i value decided
    obtain ⟨known, written, result⟩ := Option.bind_eq_some_iff.1 decided
    obtain rfl := Term.eq_literal_iff.1 written
    refine narrows_literal rfl fun whole compiled => ⟨Literal.unary?_single result, known, ?_⟩
    exact covers_literal (expression_unary_covers compiled)
  · exact .refl _

/-- One operand decides a connective if it is the truth that the connective then has. -/
theorem shortCircuit?_eq_some {op : BinaryOp} {left right : Draft} {value : Literal}
    (decided : Term.shortCircuit? op left right = some value) :
    ∃ truth, value = .bool truth ∧ (op = .andAlso ∨ op = .orElse) ∧
      (left = .literal value ∨ right = .literal value) := by
  unfold Term.shortCircuit? at decided
  split at decided
  · simp only [Option.ite_none_right_eq_some, Bool.or_eq_true, Term.isBool_iff,
      Option.some.injEq] at decided
    obtain ⟨known, rfl⟩ := decided
    exact ⟨false, rfl, .inl rfl, known⟩
  · simp only [Option.ite_none_right_eq_some, Bool.or_eq_true, Term.isBool_iff,
      Option.some.injEq] at decided
    obtain ⟨known, rfl⟩ := decided
    exact ⟨true, rfl, .inr rfl, known⟩
  · cases decided

theorem foldStep_binary_narrows (op : BinaryOp) (left right : Draft) :
    Narrows env (.binary op left right) (Term.foldStep (.binary op left right)) := by
  simp only [Term.foldStep]
  split
  · rename_i value decided
    unfold Term.binaryValue? at decided
    rw [Option.orElse_eq_orElse, Option.orElse_eq_or, Option.or_eq_some_iff] at decided
    refine narrows_literal rfl fun whole compiled => ?_
    rcases decided with short | ⟨-, both⟩
    · obtain ⟨truth, rfl, connective, known⟩ := shortCircuit?_eq_some short
      obtain ⟨withinLeft, withinRight⟩ := expression_connective_covers connective compiled
      refine ⟨rfl, .bool truth, ?_⟩
      rcases known with rfl | rfl
      · exact covers_literal withinLeft
      · exact covers_literal withinRight
    · obtain ⟨x, leftWritten, both⟩ := Option.bind_eq_some_iff.1 both
      obtain ⟨y, rightWritten, result⟩ := Option.bind_eq_some_iff.1 both
      obtain rfl := Term.eq_literal_iff.1 leftWritten
      obtain rfl := Term.eq_literal_iff.1 rightWritten
      refine ⟨Literal.binary?_single result, ?_⟩
      rcases expression_binary_covers compiled with withinLeft | withinRight
      · exact ⟨x, covers_literal withinLeft⟩
      · exact ⟨y, covers_literal withinRight⟩
  · exact .refl _

theorem foldStep_conditional_narrows (test whenTrue whenFalse : Draft) :
    Narrows env (.conditional test whenTrue whenFalse)
      (Term.foldStep (.conditional test whenTrue whenFalse)) := by
  simp only [Term.foldStep, Term.branch?]
  split
  · refine .of_sql rfl fun whole compiled => ?_
    obtain ⟨t, a, b, -, isTrue, -, rfl⟩ := expression_conditional_eq_ok.1 compiled
    exact ⟨a, isTrue, function_covers _ a (by simp)⟩
  · split
    · refine .of_sql rfl fun whole compiled => ?_
      obtain ⟨t, a, b, -, -, isFalse, rfl⟩ := expression_conditional_eq_ok.1 compiled
      exact ⟨b, isFalse, function_covers _ b (by simp)⟩
    · exact .refl _

/-- Without operands only the empty concatenation has a value, and it does not compile. -/
theorem operands_ne_nil {name : String} {target : Option Draft} {args : List Draft}
    {isStatic : Bool} {value : Literal} {whole : Sql.Expression}
    (decided : Term.callValue? name target args = some value)
    (compiled : expression env (.call name target args isStatic) = .ok whole) :
    target.toList ++ args ≠ [] := by
  intro none
  obtain ⟨noTarget, rfl⟩ := List.append_eq_nil_iff.1 none
  obtain rfl := Option.toList_eq_nil_iff.1 noTarget
  obtain ⟨method, literal, literals, named, targetWritten, argsWritten, result⟩ :=
    Term.callValue?_eq_some decided
  cases targetWritten
  cases argsWritten
  have called := expression_call_eq_ok.1 compiled
  unfold Sql.Expression.ofCall? at called
  rw [named] at called
  cases method with
  | concat => cases called
  | _ => cases result

/-- A call on literals that compiles has a value in it. -/
theorem call_covers_literal {name : String} {target : Option Draft} {args : List Draft}
    {isStatic : Bool} {value : Literal} {whole : Sql.Expression}
    (decided : Term.callValue? name target args = some value)
    (compiled : expression env (.call name target args isStatic) = .ok whole) :
    ∃ known, Covers whole (.value known) := by
  have written := Term.literal_of_callValue? decided
  rcases expression_call_operands compiled with compile | ⟨items, item, operands, within⟩
  · obtain ⟨a, mem⟩ := List.exists_mem_of_ne_nil _ (operands_ne_nil decided compiled)
    obtain ⟨known, rfl⟩ := written a mem
    exact ⟨known, covers_literal (compile _ mem)⟩
  · rw [operands] at written
    obtain ⟨known, rfl⟩ := written item (by simp)
    exact ⟨known, covers_literal within⟩

/-- The value of a call that compiles is no collection: only the value of a collection is one, and
that does not compile. -/
theorem call_single {name : String} {target : Option Draft} {args : List Draft}
    {isStatic : Bool} {value : Literal} {whole : Sql.Expression}
    (decided : Term.callValue? name target args = some value)
    (compiled : expression env (.call name target args isStatic) = .ok whole) :
    value.isArray = false := by
  obtain ⟨method, literal, literals, named, targetWritten, argsWritten, result⟩ :=
    Term.callValue?_eq_some decided
  rcases Literal.call?_single result with single | ⟨rfl, rfl, rfl⟩
  · exact single
  · cases target with
    | none => cases targetWritten
    | some t =>
      obtain ⟨x, isLiteral, same⟩ := Option.map_eq_some_iff.1 targetWritten
      cases same
      obtain rfl := Term.eq_literal_iff.1 isLiteral
      cases args with
      | nil =>
        rw [expression_value named] at compiled
        exact (expression_literal_eq_ok.1 compiled).1
      | cons a rest =>
        rw [List.mapM_cons] at argsWritten
        obtain ⟨first, -, argsWritten⟩ := Option.bind_eq_some_iff.1 argsWritten
        obtain ⟨others, -, same⟩ := Option.bind_eq_some_iff.1 argsWritten
        cases same

theorem foldStep_call_narrows (name : String) (target : Option Draft) (args : List Draft)
    (isStatic : Bool) :
    Narrows env (.call name target args isStatic)
      (Term.foldStep (.call name target args isStatic)) := by
  simp only [Term.foldStep]
  split
  · rename_i value decided
    exact narrows_literal rfl fun whole compiled =>
      ⟨call_single decided compiled, call_covers_literal decided compiled⟩
  · exact .refl _

theorem foldStep_narrows (draft : Draft) : Narrows env draft (Term.foldStep draft) := by
  cases draft with
  | leaf sql => exact .refl _
  | field name => exact .refl _
  | literal value => exact .refl _
  | unary op operand => exact foldStep_unary_narrows op operand
  | binary op left right => exact foldStep_binary_narrows op left right
  | conditional test whenTrue whenFalse =>
    exact foldStep_conditional_narrows test whenTrue whenFalse
  | call name target args isStatic => exact foldStep_call_narrows name target args isStatic

theorem fold_narrows (draft : Draft) : Narrows env draft (Term.fold draft) :=
  .transform foldStep_narrows draft

/-! ## Reducing calls -/

/-- A call is compiled on its folded operands, which are narrower. -/
theorem reduceStep_narrows (draft : Draft) : Narrows env draft (reduceStep env draft) := by
  cases draft with
  | call name target args isStatic =>
    rcases reduceStep_call env name target args isStatic with
      ⟨field, method, rfl, rfl, same⟩ | ⟨sql, -, compiled, same⟩ | same
    · rw [same]
      refine .of_sql rfl fun whole compiled => ⟨whole, ?_, .refl whole⟩
      rw [← expression_value method]
      exact compiled
    · rw [same]
      have narrows : Narrows env (.call name target args isStatic)
          (.call name (target.map Term.fold) (args.map Term.fold) isStatic) :=
        .call name isStatic (fun t _ => fold_narrows t) (fun a _ => fold_narrows a)
      refine .of_sql rfl fun whole compiledBefore => ?_
      obtain ⟨part, isPart, covers⟩ := narrows.sql whole compiledBefore
      cases compiled.symm.trans isPart
      exact ⟨sql, rfl, covers⟩
    · rw [same]
      exact .refl _
  | _ => exact .refl _

/-! ## Normalizing -/

/-- An operand of a connective is narrower than the connective. -/
theorem connective_narrows {op : BinaryOp} (connective : op = .andAlso ∨ op = .orElse)
    (left right : Draft) :
    Narrows env (.binary op left right) left ∧ Narrows env (.binary op left right) right :=
  ⟨.of_sql rfl fun _ compiled => (expression_connective_covers connective compiled).1,
    .of_sql rfl fun _ compiled => (expression_connective_covers connective compiled).2⟩

/-- Three-way comparisons have no counterpart in SQL. -/
theorem expression_compared? {draft a b : Draft} {sql : Sql.Expression}
    (found : compared? draft = some (a, b)) : expression env draft ≠ .ok sql := by
  intro compiled
  unfold compared? at found
  split at found
  · rename_i name target args isStatic
    have called := expression_call_eq_ok.1 compiled
    unfold Sql.Expression.ofCall? at called
    split at found
    · rename_i named
      rw [named] at called
      cases called
    · rename_i named
      rw [named] at called
      cases called
    · cases found
  · cases found

theorem normalizeStep_comparison_narrows (op : Comparison) (left right : Draft) :
    Narrows env (.binary (.comparison op) left right)
      (normalizeStep (.binary (.comparison op) left right)) := by
  simp only [normalizeStep]
  split
  · rename_i a b found
    obtain ⟨zero, found⟩ := Option.ite_none_right_eq_some.1 found
    refine .of_sql rfl fun whole compiled => ?_
    -- neither side is null, so the left one would have to compile
    have rightNotNull : right.isNull = false := by
      rcases isZero_value zero with rfl | rfl <;> rfl
    have leftNotNull : left.isNull = false := by
      cases left with
      | call name target args isStatic => rfl
      | _ => cases found
    have both : (do
        return Sql.Expression.binary (.comparison op) (← expression env left)
          (← expression env right)) = .ok whole := by
      rw [expression_comparison, rightNotNull, leftNotNull] at compiled
      split at compiled <;> exact compiled
    obtain ⟨⟨e, isLeft, -⟩, -⟩ := both_cover (fun _ _ => covers_operands rfl rfl) both
    exact absurd isLeft (expression_compared? found)
  · exact .refl _

theorem normalizeStep_conditional_narrows (test whenTrue whenFalse : Draft) :
    Narrows env (.conditional test whenTrue whenFalse)
      (normalizeStep (.conditional test whenTrue whenFalse)) := by
  simp only [normalizeStep]
  cases found : guarded? test whenTrue whenFalse with
  | none => exact .refl _
  | some checked =>
    obtain ⟨op, left, right, rfl, isChecked, guards⟩ := guarded?_eq_some found
    have isTest : ∃ test, nullTest? op = some test := by
      rcases guards with ⟨rfl, -⟩ | ⟨rfl, -⟩
      · exact ⟨.isNull, rfl⟩
      · exact ⟨.isNotNull, rfl⟩
    obtain ⟨test, isTest⟩ := isTest
    refine .of_sql rfl fun whole compiled => ?_
    obtain ⟨t, a, b, compiledTest, -, -, rfl⟩ := expression_conditional_eq_ok.1 compiled
    obtain ⟨e, compiledChecked, covers⟩ := expression_checked_covers isTest isChecked compiledTest
    exact ⟨e, compiledChecked, (function_covers _ t (by simp)).trans covers⟩

theorem normalizeStep_narrows (draft : Draft) : Narrows env draft (normalizeStep draft) := by
  cases draft with
  | binary op left right =>
    cases op with
    | andAlso =>
      obtain ⟨inLeft, inRight⟩ := connective_narrows (.inl rfl) left right
      simp only [normalizeStep]
      split
      · exact inRight
      · split
        · exact inLeft
        · exact .refl _
    | orElse =>
      obtain ⟨inLeft, inRight⟩ := connective_narrows (.inr rfl) left right
      simp only [normalizeStep]
      split
      · exact inRight
      · split
        · exact inLeft
        · exact .refl _
    | comparison op => exact normalizeStep_comparison_narrows op left right
    | calculation op => exact .refl _
  | conditional test whenTrue whenFalse =>
    exact normalizeStep_conditional_narrows test whenTrue whenFalse
  | _ => exact .refl _

/-! ## Simplifying -/

theorem simplify_narrows (p : Predicate) : Narrows env (ofPredicate p) (simplify env p) := by
  have reduced : Narrows env (ofPredicate p) (reduce env (ofPredicate p)) :=
    .transform reduceStep_narrows _
  have folded := reduced.trans (fold_narrows _)
  exact folded.trans (.transform normalizeStep_narrows _)

/-- **Simplifying loses no predicate that compiles.**  If a predicate compiles as it is written,
its simplified form has a condition or needs none.  All columns of the condition are among those
of the predicate, and it binds no more values. -/
theorem condition_simplify_narrows (env : Environment) (p : Predicate) (whole : Sql.Expression)
    (compiled : expression env (ofPredicate p) = .ok whole) :
    ∃ result, condition env (simplify env p) = .ok result ∧
      ∀ sql, result = some sql →
        sql.columns ⊆ whole.columns ∧ sql.leafValues.length ≤ whole.leafValues.length := by
  obtain ⟨part, isPart, covers⟩ := (simplify_narrows p).sql whole compiled
  unfold condition
  split
  · exact ⟨none, rfl, nofun⟩
  · rw [isPart]
    refine ⟨some part, rfl, ?_⟩
    rintro sql ⟨⟩
    exact ⟨covers.columns, covers.values⟩

/-- `(Age == null ? null : Age) > 1 + 2 && (Name.StartsWith("a" + "b") || false)` -/
def olderAndNamed : Predicate :=
  .binary .andAlso
    (.binary (.comparison .greater)
      (.conditional (.binary (.comparison .equal) (.field "Age") (.literal .null))
        (.literal .null) (.field "Age"))
      (.binary (.calculation .add) (.literal (.int 1)) (.literal (.int 2))))
    (.binary .orElse
      (.call "StartsWith" (some (.field "Name"))
        [.binary (.calculation .add) (.literal (.string "a")) (.literal (.string "b"))] false)
      (.literal (.bool false)))

/-- As it is written the predicate reads the age twice and binds six values.  Its condition is
`Age > 3` and `Name` beginning with `ab`. -/
theorem condition_simplify_olderAndNamed :
    let env : Environment := ⟨.empty, .empty, true⟩
    let sql : Sql.Expression := .and
      (.binary (.comparison .greater) (.column (.named "Age")) (.value (.int 3)))
      (.binary .like (.column (.named "Name"))
        (.function .concat [.value (.string "ab"), Sql.Expression.wildcard]))
    ∃ whole, expression env (ofPredicate olderAndNamed) = .ok whole ∧
      whole.leafValues.length = 6 ∧
      condition env (simplify env olderAndNamed) = .ok (some sql) ∧
      sql.columns ⊆ whole.columns ∧ sql.leafValues.length ≤ whole.leafValues.length := by
  intro env sql
  obtain ⟨result, isResult, narrow⟩ := condition_simplify_narrows env olderAndNamed _ rfl
  have simplified : simplify env olderAndNamed = .binary .andAlso
      (.binary (.comparison .greater) (.field "Age") (.literal (.int 3)))
      (.leaf (.binary .like (.column (.named "Name"))
        (.function .concat [.value (.string "ab"), Sql.Expression.wildcard]))) := rfl
  have isCondition : condition env (simplify env olderAndNamed) = .ok (some sql) := by
    rw [simplified]
    rfl
  cases isResult.symm.trans isCondition
  exact ⟨_, rfl, rfl, isCondition, narrow sql rfl⟩

end Draft

end PlanCompiler
