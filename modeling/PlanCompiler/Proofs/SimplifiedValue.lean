/-
# Proofs.SimplifiedValue -- folding and normalizing keep the value of a draft

What has a value on a row has the same value after folding.  It has the same value
after normalizing as well, as long as the conditionals that are taken for null guards
give the very value that they check (`evaluate_fold_normalize`).  One that gives another
which is only written alike does not keep its value (`normalize_lateVisit`).
-/
import PlanCompiler.Proofs.NullGuards

namespace PlanCompiler

set_option autoImplicit false

/-! ## Comparisons -/

namespace Literal

variable {a b : Literal} {order : Ordering}

/-- What is ordered is as equal as its order says. -/
theorem equal?_of_compare? (compared : compare? a b = some order) :
    equal? a b = some order.isEq := by
  unfold equal?
  -- nulls and collections are compared with `==`, but have no order
  split
  · cases compared
  · cases compared
  · cases a <;> cases compared
  · cases compared
  · rw [compared]
    rfl

theorem compareWith?_of_compare? (op : Comparison) (compared : compare? a b = some order) :
    compareWith? op a b = some (op.accepts order) := by
  cases op with
  | equal => exact equal?_of_compare? compared
  | notEqual =>
    rw [compareWith?, equal?_of_compare? compared]
    cases order <;> rfl
  | less | lessOrEqual | greater | greaterOrEqual =>
    simp only [compareWith?, compared, Option.map_some]

theorem compare?_ofOrdering_int (order : Ordering) :
    compare? (ofOrdering order) (.int 0) = some order := by
  cases order <;> rfl

theorem compare?_ofOrdering_uint (order : Ordering) :
    compare? (ofOrdering order) (.uint 0) = some order := by
  cases order <;> rfl

theorem isNull_iff {a : Literal} : a.isNull = true ↔ a = .null := by
  cases a <;> simp [isNull]

theorem equal_null (a : Literal) :
    binary? (.comparison .equal) a .null = some (.bool a.isNull) := by
  cases a <;> rfl

theorem notEqual_null (a : Literal) :
    binary? (.comparison .notEqual) a .null = some (.bool !a.isNull) := by
  cases a <;> rfl

/-- A comparison with null says the same of both sides. -/
theorem compareWith?_null_comm (op : Comparison) (a : Literal) :
    compareWith? op .null a = compareWith? op a .null := by
  cases op <;> cases a <;> rfl

/-- The operator has a value on two truths only, and it is this truth. -/
def Connects (op : BinaryOp) (connect : Bool → Bool → Bool) : Prop :=
  ∀ {a b v : Literal}, binary? op a b = some v →
    ∃ x y, a = .bool x ∧ b = .bool y ∧ v = .bool (connect x y)

theorem andAlso_connects : Connects .andAlso and := by
  intro a b v connected
  simp only [binary?] at connected
  split at connected <;> cases connected
  exact ⟨_, _, rfl, rfl, rfl⟩

theorem orElse_connects : Connects .orElse or := by
  intro a b v connected
  simp only [binary?] at connected
  split at connected <;> cases connected
  exact ⟨_, _, rfl, rfl, rfl⟩

end Literal

namespace Draft

open Term (KeepsValue evaluate isBool_iff)

variable {row : String → Option Literal}

/-! ## Folding -/

/-- An operand decides a connective on its own, if its truth does whatever the other one is. -/
theorem decided_value {op : BinaryOp} {connect : Bool → Bool → Bool}
    (connects : Literal.Connects op connect) {truth : Bool}
    (absorbs : ∀ x, connect truth x = truth ∧ connect x truth = truth) {left right : Draft}
    {x y v : Literal} (decided : left.isBool truth = true ∨ right.isBool truth = true)
    (leftValue : evaluate row left = some x) (rightValue : evaluate row right = some y)
    (result : Literal.binary? op x y = some v) : v = .bool truth := by
  obtain ⟨a, b, rfl, rfl, rfl⟩ := connects result
  rw [isBool_iff, isBool_iff] at decided
  rcases decided with rfl | rfl
  · cases leftValue
    rw [(absorbs b).1]
  · cases rightValue
    rw [(absorbs a).2]

theorem shortCircuit?_value {op : BinaryOp} {left right : Draft} {x y value v : Literal}
    (decided : Term.shortCircuit? op left right = some value)
    (leftValue : evaluate row left = some x) (rightValue : evaluate row right = some y)
    (result : Literal.binary? op x y = some v) : v = value := by
  unfold Term.shortCircuit? at decided
  split at decided
  · simp only [Option.ite_none_right_eq_some, Bool.or_eq_true, Option.some.injEq] at decided
    obtain ⟨known, rfl⟩ := decided
    exact decided_value Literal.andAlso_connects (by simp) known leftValue rightValue result
  · simp only [Option.ite_none_right_eq_some, Bool.or_eq_true, Option.some.injEq] at decided
    obtain ⟨known, rfl⟩ := decided
    exact decided_value Literal.orElse_connects (by simp) known leftValue rightValue result
  · cases decided

theorem foldStep_unary_keepsValue (op : UnaryOp) (operand : Draft) :
    KeepsValue row (.unary op operand) (Term.foldStep (.unary op operand)) := by
  intro v evaluated
  simp only [Term.foldStep]
  split
  · rename_i value folded
    obtain ⟨x, operandValue, result⟩ := Term.evaluate_unary_eq_some.1 evaluated
    obtain ⟨literal, written, folded⟩ := Option.bind_eq_some_iff.1 folded
    cases (Term.evaluate_of_literal? written).symm.trans operandValue
    exact folded.symm.trans result
  · exact evaluated

theorem foldStep_binary_keepsValue (op : BinaryOp) (left right : Draft) :
    KeepsValue row (.binary op left right) (Term.foldStep (.binary op left right)) := by
  intro v evaluated
  simp only [Term.foldStep]
  split
  · rename_i value folded
    obtain ⟨x, y, leftValue, rightValue, result⟩ := Term.evaluate_binary_eq_some.1 evaluated
    unfold Term.binaryValue? at folded
    cases decided : Term.shortCircuit? op left right with
    | some value' =>
      rw [decided] at folded
      cases folded
      exact congrArg some (shortCircuit?_value decided leftValue rightValue result).symm
    | none =>
      rw [decided] at folded
      simp only [Option.orElse_eq_orElse, Option.orElse_none, Option.bind_eq_bind,
        Option.bind_eq_some_iff] at folded
      obtain ⟨a, leftWritten, b, rightWritten, folded⟩ := folded
      cases (Term.evaluate_of_literal? leftWritten).symm.trans leftValue
      cases (Term.evaluate_of_literal? rightWritten).symm.trans rightValue
      exact folded.symm.trans result
  · exact evaluated

theorem foldStep_conditional_keepsValue (test whenTrue whenFalse : Draft) :
    KeepsValue row (.conditional test whenTrue whenFalse)
      (Term.foldStep (.conditional test whenTrue whenFalse)) := by
  intro v evaluated
  have chosen := Term.evaluate_conditional_eq_some.1 evaluated
  simp only [Term.foldStep, Term.branch?]
  split
  · rename_i known
    rw [isBool_iff] at known
    subst known
    simpa [evaluate] using chosen
  · split
    · rename_i known
      rw [isBool_iff] at known
      subst known
      simpa [evaluate] using chosen
    · exact evaluated

theorem foldStep_call_keepsValue (name : String) (target : Option Draft) (args : List Draft)
    (isStatic : Bool) :
    KeepsValue row (.call name target args isStatic)
      (Term.foldStep (.call name target args isStatic)) := by
  intro v evaluated
  simp only [Term.foldStep]
  split
  · rename_i value folded
    obtain ⟨method, x, ys, named, targetValue, argValues, result⟩ :=
      Term.evaluate_call_eq_some.1 evaluated
    simp only [Term.callValue?, Option.bind_eq_bind, Option.bind_eq_some_iff] at folded
    obtain ⟨method', named', literal, targetWritten, literals, argsWritten, folded⟩ := folded
    cases named.symm.trans named'
    cases (Term.evaluateTarget_of_targetLiteral? targetWritten).symm.trans targetValue
    cases (Term.evaluateArgs_of_literals argsWritten).symm.trans argValues
    exact (Literal.invoke?_of_call? folded).symm.trans result
  · exact evaluated

theorem foldStep_keepsValue (draft : Draft) : KeepsValue row draft (Term.foldStep draft) := by
  cases draft with
  | leaf sql => exact .refl _
  | field name => exact .refl _
  | literal value => exact .refl _
  | unary op operand => exact foldStep_unary_keepsValue op operand
  | binary op left right => exact foldStep_binary_keepsValue op left right
  | conditional test whenTrue whenFalse =>
    exact foldStep_conditional_keepsValue test whenTrue whenFalse
  | call name target args isStatic => exact foldStep_call_keepsValue name target args isStatic

theorem fold_keepsValue (draft : Draft) : KeepsValue row draft (Term.fold draft) :=
  .transform (fun draft _ => foldStep_keepsValue draft)
    (Term.visits_of_forall (fun _ => trivial) draft)

/-! ## Normalizing -/

/-- An operand that changes nothing may be left out of a connective. -/
theorem neutral_keepsValue {op : BinaryOp} {connect : Bool → Bool → Bool}
    (connects : Literal.Connects op connect) {truth : Bool}
    (neutral : ∀ x, connect truth x = x ∧ connect x truth = x) (left right : Draft) :
    KeepsValue row (.binary op left right)
      (if left.isBool truth then right
        else if right.isBool truth then left else .binary op left right) := by
  intro v evaluated
  obtain ⟨x, y, leftValue, rightValue, result⟩ := Term.evaluate_binary_eq_some.1 evaluated
  obtain ⟨a, b, rfl, rfl, rfl⟩ := connects result
  split
  · rename_i known
    rw [isBool_iff] at known
    subst known
    cases leftValue
    rw [(neutral b).1]
    exact rightValue
  · split
    · rename_i known
      rw [isBool_iff] at known
      subst known
      cases rightValue
      rw [(neutral a).2]
      exact leftValue
    · exact evaluated

/-- The value of a three-way comparison is the order of the two values. -/
theorem compared?_value {draft a b : Draft} {v : Literal} (found : compared? draft = some (a, b))
    (evaluated : evaluate row draft = some v) :
    ∃ x y order, evaluate row a = some x ∧ evaluate row b = some y ∧
      Literal.compare? x y = some order ∧ v = Literal.ofOrdering order := by
  unfold compared? at found
  split at found
  · obtain ⟨method, target, args, named, targetValue, argValues, result⟩ :=
      Term.evaluate_call_eq_some.1 evaluated
    rw [named] at found
    split at found
    · -- `Compare(a, b)`
      rename_i isCompare
      cases isCompare
      cases found
      cases targetValue
      obtain ⟨x, _, leftValue, rest, rfl⟩ := Term.evaluateArgs_cons_eq_some.1 argValues
      obtain ⟨y, _, rightValue, none, rfl⟩ := Term.evaluateArgs_cons_eq_some.1 rest
      cases none
      obtain ⟨order, compared, rfl⟩ := Option.map_eq_some_iff.1 result
      exact ⟨x, y, order, leftValue, rightValue, compared, rfl⟩
    · -- `a.CompareTo(b)`
      rename_i isCompareTo
      cases isCompareTo
      cases found
      obtain ⟨x, leftValue, rfl⟩ := Option.map_eq_some_iff.1 targetValue
      obtain ⟨y, _, rightValue, none, rfl⟩ := Term.evaluateArgs_cons_eq_some.1 argValues
      cases none
      obtain ⟨order, compared, rfl⟩ := Option.map_eq_some_iff.1 result
      exact ⟨x, y, order, leftValue, rightValue, compared, rfl⟩
    · cases found
  · cases found

theorem isZero_value {draft : Draft} (zero : draft.isZero = true) :
    draft = .literal (.int 0) ∨ draft = .literal (.uint 0) := by
  unfold isZero at zero
  split at zero
  · exact .inl (by rw [beq_iff_eq.1 zero])
  · exact .inr (by rw [beq_iff_eq.1 zero])
  · cases zero

theorem normalizeStep_comparison_keepsValue (op : Comparison) (left right : Draft) :
    KeepsValue row (.binary (.comparison op) left right)
      (normalizeStep (.binary (.comparison op) left right)) := by
  intro v evaluated
  simp only [normalizeStep]
  split
  · rename_i a b found
    obtain ⟨zero, found⟩ := Option.ite_none_right_eq_some.1 found
    obtain ⟨x, y, leftValue, rightValue, result⟩ := Term.evaluate_binary_eq_some.1 evaluated
    obtain ⟨p, q, order, aValue, bValue, compared, rfl⟩ := compared?_value found leftValue
    have againstZero : Literal.compare? (Literal.ofOrdering order) y = some order := by
      rcases isZero_value zero with rfl | rfl <;> cases rightValue
      · exact Literal.compare?_ofOrdering_int order
      · exact Literal.compare?_ofOrdering_uint order
    refine Term.evaluate_binary_eq_some.2 ⟨p, q, aValue, bValue, ?_⟩
    rw [← result, Literal.binary?, Literal.compareWith?_of_compare? op compared, Literal.binary?,
      Literal.compareWith?_of_compare? op againstZero]
  · exact evaluated

theorem eq_null_of_isNull {draft : Draft} (null : draft.isNull = true) :
    draft = .literal .null := by
  unfold Term.isNull at null
  split at null
  · rfl
  · cases null

/-- A comparison with null compares what is checked, whichever side it is. -/
theorem checkedForNull?_value {op : Comparison} {left right checked : Draft} {v : Literal}
    (found : checkedForNull? left right = some checked)
    (evaluated : evaluate row (.binary (.comparison op) left right) = some v) :
    ∃ x, evaluate row checked = some x ∧ Literal.binary? (.comparison op) x .null = some v := by
  obtain ⟨x, y, leftValue, rightValue, result⟩ := Term.evaluate_binary_eq_some.1 evaluated
  unfold checkedForNull? at found
  split at found
  · rename_i null
    rw [eq_null_of_isNull null] at rightValue
    cases rightValue
    cases found
    exact ⟨x, leftValue, result⟩
  · split at found <;> cases found
    rename_i null
    rw [eq_null_of_isNull null] at leftValue
    cases leftValue
    rw [Literal.binary?, Literal.compareWith?_null_comm] at result
    exact ⟨y, rightValue, result⟩

/-- `==` with null is true exactly of null. -/
theorem equalNull_value {left right checked : Draft} {truth : Bool}
    (found : checkedForNull? left right = some checked)
    (evaluated : evaluate row (.binary (.comparison .equal) left right) = some (.bool truth)) :
    ∃ x, evaluate row checked = some x ∧ (truth = true ↔ x = .null) := by
  obtain ⟨x, checkedValue, tested⟩ := checkedForNull?_value found evaluated
  rw [Literal.equal_null, Option.some.injEq, Literal.bool.injEq] at tested
  exact ⟨x, checkedValue, by rw [← tested, Literal.isNull_iff]⟩

/-- `!=` with null is false exactly of null. -/
theorem notEqualNull_value {left right checked : Draft} {truth : Bool}
    (found : checkedForNull? left right = some checked)
    (evaluated : evaluate row (.binary (.comparison .notEqual) left right) = some (.bool truth)) :
    ∃ x, evaluate row checked = some x ∧ (truth = false ↔ x = .null) := by
  obtain ⟨x, checkedValue, tested⟩ := checkedForNull?_value found evaluated
  rw [Literal.notEqual_null, Option.some.injEq, Literal.bool.injEq] at tested
  exact ⟨x, checkedValue, by rw [← tested, Bool.not_eq_false', Literal.isNull_iff]⟩

/-- A null guard is null where the checked value is, and elsewhere what it gives. -/
theorem guarded?_value {test whenTrue whenFalse checked : Draft} {v : Literal}
    (found : guarded? test whenTrue whenFalse = some checked)
    (evaluated : evaluate row (.conditional test whenTrue whenFalse) = some v) :
    ∃ x given, evaluate row checked = some x ∧
      (whenTrue = .literal .null ∧ given = whenFalse ∨
        whenFalse = .literal .null ∧ given = whenTrue) ∧
      (x = .null ∧ v = .null ∨ x ≠ .null ∧ evaluate row given = some v) := by
  obtain ⟨op, left, right, rfl, isChecked, guard⟩ := guarded?_eq_some found
  have chosen := Term.evaluate_conditional_eq_some.1 evaluated
  rcases guard with ⟨rfl, null, -⟩ | ⟨rfl, null, -⟩
  · obtain rfl := eq_null_of_isNull null
    rcases chosen with ⟨testValue, nullValue⟩ | ⟨testValue, givenValue⟩
    · obtain ⟨x, checkedValue, isNull⟩ := equalNull_value isChecked testValue
      cases nullValue
      exact ⟨x, whenFalse, checkedValue, .inl ⟨rfl, rfl⟩, .inl ⟨isNull.1 rfl, rfl⟩⟩
    · obtain ⟨x, checkedValue, isNull⟩ := equalNull_value isChecked testValue
      exact ⟨x, whenFalse, checkedValue, .inl ⟨rfl, rfl⟩, .inr ⟨mt isNull.2 nofun, givenValue⟩⟩
  · obtain rfl := eq_null_of_isNull null
    rcases chosen with ⟨testValue, givenValue⟩ | ⟨testValue, nullValue⟩
    · obtain ⟨x, checkedValue, isNull⟩ := notEqualNull_value isChecked testValue
      exact ⟨x, whenTrue, checkedValue, .inr ⟨rfl, rfl⟩, .inr ⟨mt isNull.2 nofun, givenValue⟩⟩
    · obtain ⟨x, checkedValue, isNull⟩ := notEqualNull_value isChecked testValue
      cases nullValue
      exact ⟨x, whenTrue, checkedValue, .inr ⟨rfl, rfl⟩, .inl ⟨isNull.1 rfl, rfl⟩⟩

theorem normalizeStep_conditional_keepsValue {test whenTrue whenFalse : Draft}
    (guards : GuardsItself (.conditional test whenTrue whenFalse)) :
    KeepsValue row (.conditional test whenTrue whenFalse)
      (normalizeStep (.conditional test whenTrue whenFalse)) := by
  intro v evaluated
  simp only [normalizeStep]
  cases found : guarded? test whenTrue whenFalse with
  | none => exact evaluated
  | some value =>
    change evaluate row value = some v
    obtain ⟨x, given, checkedValue, branches, ⟨rfl, rfl⟩ | ⟨notNull, givenValue⟩⟩ :=
      guarded?_value found evaluated
    · exact checkedValue
    · -- what is checked is not null, so it is not the branch that is
      have notWritten : value ≠ .literal .null := by
        rintro rfl
        exact notNull (Option.some.inj checkedValue).symm
      have isGiven : value = given := by
        rcases branches with ⟨rfl, rfl⟩ | ⟨rfl, rfl⟩
        · exact (guards value found).resolve_left notWritten
        · exact (guards value found).resolve_right notWritten
      rw [isGiven]
      exact givenValue

theorem normalizeStep_keepsValue {draft : Draft} (guards : GuardsItself draft) :
    KeepsValue row draft (normalizeStep draft) := by
  cases draft with
  | leaf sql => exact .refl _
  | field name => exact .refl _
  | literal value => exact .refl _
  | unary op operand => exact .refl _
  | binary op left right =>
    cases op with
    | comparison op => exact normalizeStep_comparison_keepsValue op left right
    | calculation op => exact .refl _
    | andAlso => exact neutral_keepsValue Literal.andAlso_connects (by simp) left right
    | orElse => exact neutral_keepsValue Literal.orElse_connects (by simp) left right
  | conditional test whenTrue whenFalse => exact normalizeStep_conditional_keepsValue guards
  | call name target args isStatic => exact .refl _

/-- **Simplifying keeps values.**  What has a value on a row has the same value after constants
are folded, and after normalizing as well if all null guards are exact. -/
theorem evaluate_fold_normalize (row : String → Option Literal) (draft : Draft) (v : Literal)
    (evaluated : evaluate row draft = some v) :
    evaluate row (Term.fold draft) = some v ∧
      (GuardsExactly draft → evaluate row (normalize draft) = some v) :=
  ⟨fold_keepsValue draft v evaluated, fun exact =>
    KeepsValue.transform (fun _ guards => normalizeStep_keepsValue guards) exact v evaluated⟩

/-- `string.Compare(Name, "m") < 0 && (true && (Age == null ? null : Age) > 1 + 2)`. -/
def earlyAndOlder : Draft :=
  .binary .andAlso
    (.binary (.comparison .less)
      (.call "string.Compare" none [.field "Name", .literal (.string "m")] true)
      (.literal (.int 0)))
    (.binary .andAlso (.literal (.bool true))
      (.binary (.comparison .greater)
        (.conditional (.binary (.comparison .equal) (.field "Age") (.literal .null))
          (.literal .null) (.field "Age"))
        (.binary (.calculation .add) (.literal (.int 1)) (.literal (.int 2)))))

theorem earlyAndOlder_isExact : IsExact earlyAndOlder := by
  have name : ∀ a ∈ [.field "Name", .literal (.string "m")], IsExact a :=
    List.forall_mem_cons.2 ⟨.field _, List.forall_mem_singleton.2 (.literal rfl)⟩
  have age : IsExact (.field "Age") := .field _
  exact .binary _ (.binary _ (.call _ _ nofun name) (.literal rfl))
    (.binary _ (.literal rfl) (.binary _
      (.conditional (.binary _ age (.literal rfl)) (.literal rfl) age)
      (.binary _ (.literal rfl) (.literal rfl))))

/-- Folding adds the numbers, and normalizing drops the `true`, the null guard and the three-way
comparison.  The row passes before and after. -/
theorem evaluate_earlyAndOlder :
    let row : String → Option Literal := fun field =>
      if field = "Name" then some (.string "adams")
      else if field = "Age" then some (.int 5) else none
    evaluate row earlyAndOlder = some (.bool true) ∧
      evaluate row (Term.fold earlyAndOlder) = some (.bool true) ∧
      evaluate row (normalize earlyAndOlder) = some (.bool true) := by
  intro row
  have evaluated : evaluate row earlyAndOlder = some (.bool true) := by rfl
  have kept := evaluate_fold_normalize row earlyAndOlder (.bool true) evaluated
  exact ⟨evaluated, kept.1, kept.2 earlyAndOlder_isExact.guardsExactly⟩

/-- One instant as it is shown at two offsets. -/
def noon : ZonedDateTime :=
  ⟨⟨⟨2024, 1, 1, by decide⟩, ⟨12, 0, 0, 0, by decide, by decide, by decide, by decide, by decide⟩⟩,
    0, by decide⟩

def noonFurtherEast : ZonedDateTime :=
  ⟨⟨⟨2024, 1, 1, by decide⟩, ⟨14, 0, 0, 0, by decide, by decide, by decide, by decide, by decide⟩⟩,
    120, by decide⟩

/-- `"at " + (visit == null ? null : visit') == "at 2024-01-01T12:00:00+00:00"`, where the two
visits are the same instant at different offsets. -/
def lateVisit : Predicate :=
  let visit (late : ZonedDateTime) : Predicate :=
    .conditional (.field "Late") (.literal (.dateTimeOffset late)) (.field "Visit")
  .binary (.comparison .equal)
    (.binary (.calculation .add) (.literal (.string "at "))
      (.conditional (.binary (.comparison .equal) (visit noonFurtherEast) (.literal .null))
        (.literal .null) (visit noon)))
    (.literal (.string "at 2024-01-01T12:00:00+00:00"))

/-- The conditional is taken for a null guard, and what it checks for null is shown instead of
what it gives. -/
theorem normalize_lateVisit :
    let row : String → Option Literal := fun field =>
      if field = "Late" then some (.bool true) else none
    evaluate row (ofPredicate lateVisit) = some (.bool true) ∧
      evaluate row (normalize (ofPredicate lateVisit)) = some (.bool false) := by
  exact ⟨rfl, rfl⟩

end Draft

end PlanCompiler
