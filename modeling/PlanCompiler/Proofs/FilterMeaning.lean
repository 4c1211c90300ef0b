/-
# Proofs.FilterMeaning -- compiled filters mean what their predicates mean

A predicate is compiled in four passes: calls on fields are reduced to SQL,
constants are folded, conditionals and truths are normalized, and what is left
becomes an expression.  The first three keep the value of every elementary draft
(`reduce_keeps`, `fold_keeps`, `normalize_keeps`), and the last one succeeds on each
and gives an expression of the same value (`expression_meaning`).

Reducing needs the other two facts: it compiles the operands of a call after
folding them.
-/
import PlanCompiler.Compile.Condition
import PlanCompiler.Proofs.DraftMeaning
import PlanCompiler.Proofs.FoldedTerms
import PlanCompiler.Proofs.LiteralMeaning
import PlanCompiler.Proofs.Sameness

namespace PlanCompiler.Draft

set_option autoImplicit false

open Term (isBool_iff)

variable {env : Environment} {columns : Sql.Column → RowValue}

/-! ## Conjunctions and disjunctions of truths -/

theorem meaning_andAlso_eq_some {left right : Draft} {v : RowValue}
    (value : meaning env columns (.binary .andAlso left right) = some v) :
    ∃ a b, meaning env columns left = some (.bool a) ∧ meaning env columns right = some (.bool b) ∧
      v = .bool (a && b) := by
  obtain ⟨x, leftValue, value⟩ := Option.bind_eq_some_iff.1 value
  obtain ⟨y, rightValue, value⟩ := Option.bind_eq_some_iff.1 value
  obtain ⟨a, b, rfl, rfl, rfl⟩ := RowValue.and?_eq_some value
  exact ⟨a, b, leftValue, rightValue, rfl⟩

theorem meaning_orElse_eq_some {left right : Draft} {v : RowValue}
    (value : meaning env columns (.binary .orElse left right) = some v) :
    ∃ a b, meaning env columns left = some (.bool a) ∧ meaning env columns right = some (.bool b) ∧
      v = .bool (a || b) := by
  obtain ⟨x, leftValue, value⟩ := Option.bind_eq_some_iff.1 value
  obtain ⟨y, rightValue, value⟩ := Option.bind_eq_some_iff.1 value
  obtain ⟨a, b, rfl, rfl, rfl⟩ := RowValue.or?_eq_some value
  exact ⟨a, b, leftValue, rightValue, rfl⟩

/-! ## Folding -/

theorem elementary_literal? {draft : Draft} {value : Literal}
    (elementary : Term.Elementary env.knows draft) (written : draft.literal? = some value) :
    draft = .literal value ∧ value.IsElementary := by
  cases elementary <;> simp only [Term.literal?, reduceCtorEq, Option.some.injEq] at written
  subst written
  exact ⟨rfl, ‹_›⟩

/-- Putting a literal in place of a draft keeps its value, if the literal is written for it. -/
theorem literal_keeps {draft : Draft} {value : Literal} (kind : value.IsElementary)
    (notNull : draft.isNull = false)
    (exact : ∀ v, meaning env columns draft = some v → value.rowValue = v) :
    Keeps env columns draft (.literal value) where
  elementary := .literal kind
  meaning v h := congrArg some (exact v h)
  null h := by simp [notNull] at h

theorem shortCircuit?_keeps {op : BinaryOp} {left right : Draft} {value : Literal}
    (decided : Term.shortCircuit? op left right = some value) :
    Keeps env columns (.binary op left right) (.literal value) := by
  unfold Term.shortCircuit? at decided
  split at decided
  · split at decided
    · rename_i written
      cases decided
      refine literal_keeps trivial rfl fun v h => ?_
      obtain ⟨a, b, leftValue, rightValue, rfl⟩ := meaning_andAlso_eq_some h
      rcases Bool.or_eq_true _ _ ▸ written with h | h <;> rw [isBool_iff] at h <;> subst h
      · cases leftValue
        rfl
      · cases rightValue
        simp [Literal.rowValue]
    · cases decided
  · split at decided
    · rename_i written
      cases decided
      refine literal_keeps trivial rfl fun v h => ?_
      obtain ⟨a, b, leftValue, rightValue, rfl⟩ := meaning_orElse_eq_some h
      rcases Bool.or_eq_true _ _ ▸ written with h | h <;> rw [isBool_iff] at h <;> subst h
      · cases leftValue
        rfl
      · cases rightValue
        simp [Literal.rowValue]
    · cases decided
  · cases decided

theorem binary?_keeps {op : BinaryOp} {left right : Draft} {value : Literal}
    (inLeft : Term.Elementary env.knows left) (inRight : Term.Elementary env.knows right)
    (folded : (do Literal.binary? op (← left.literal?) (← right.literal?)) = some value) :
    Keeps env columns (.binary op left right) (.literal value) := by
  obtain ⟨a, writtenLeft, folded⟩ := Option.bind_eq_some_iff.1 folded
  obtain ⟨b, writtenRight, folded⟩ := Option.bind_eq_some_iff.1 folded
  obtain ⟨rfl, leftKind⟩ := elementary_literal? inLeft writtenLeft
  obtain ⟨rfl, rightKind⟩ := elementary_literal? inRight writtenRight
  refine literal_keeps (Literal.binary?_elementary leftKind rightKind folded) rfl fun v h => ?_
  cases op with
  | comparison op =>
    obtain ⟨truth, compared, rfl⟩ := Option.map_eq_some_iff.1 folded
    have same : ∃ truth, Literal.compareWith? op a b = some truth ∧ v = .bool truth := by
      change Term.comparisonMeaning op (.literal a) (.literal b) (some a.rowValue)
        (some b.rowValue) = some v at h
      unfold Term.comparisonMeaning at h
      split at h
      · rename_i null
        refine Literal.compareWith?_null (.inl ⟨?_, h⟩)
        cases b <;> simp_all [Term.isNull]
      · split at h
        · rename_i null
          refine Literal.compareWith?_null (.inr ⟨?_, h⟩)
          cases a <;> simp_all [Term.isNull]
        · exact Literal.compareWith?_rowValue h
    obtain ⟨_, compared', rfl⟩ := same
    cases compared.symm.trans compared'
    rfl
  | calculation op => exact Literal.calculate?_rowValue folded h
  | andAlso =>
    obtain ⟨x, y, leftValue, rightValue, rfl⟩ := RowValue.and?_eq_some h
    cases a <;> cases leftValue
    cases b <;> cases rightValue
    cases folded
    rfl
  | orElse =>
    obtain ⟨x, y, leftValue, rightValue, rfl⟩ := RowValue.or?_eq_some h
    cases a <;> cases leftValue
    cases b <;> cases rightValue
    cases folded
    rfl

theorem foldStep_binary_keeps {op : BinaryOp} {left right : Draft}
    (elementary : Term.Elementary env.knows (.binary op left right : Draft))
    (inLeft : Term.Elementary env.knows left) (inRight : Term.Elementary env.knows right) :
    Keeps env columns (.binary op left right) (Term.foldStep (.binary op left right)) := by
  simp only [Term.foldStep]
  split
  · rename_i value folded
    unfold Term.binaryValue? at folded
    cases decided : Term.shortCircuit? op left right with
    | some value' =>
      rw [decided] at folded
      cases folded
      exact shortCircuit?_keeps decided
    | none =>
      rw [decided] at folded
      exact binary?_keeps inLeft inRight folded
  · exact .refl elementary

theorem foldStep_unary_keeps {op : UnaryOp} {operand : Draft}
    (inside : Term.Elementary env.knows operand) :
    Keeps env columns (.unary op operand) (Term.foldStep (.unary op operand)) := by
  simp only [Term.foldStep]
  split
  · rename_i value folded
    obtain ⟨a, written, folded⟩ := Option.bind_eq_some_iff.1 folded
    obtain ⟨rfl, kind⟩ := elementary_literal? inside written
    cases op with
    | not =>
      obtain ⟨elementary, exact⟩ := Literal.not?_rowValue folded
      exact literal_keeps elementary rfl fun v h => Option.some.inj (exact.symm.trans h)
    | negate =>
      obtain ⟨elementary, exact⟩ := Literal.negate?_rowValue kind folded
      exact literal_keeps elementary rfl fun v h => Option.some.inj (exact.symm.trans h)
  · exact .refl (.unary op inside)

theorem foldStep_conditional_keeps {test whenTrue whenFalse : Draft}
    (inTest : Term.Elementary env.knows test) (inTrue : Term.Elementary env.knows whenTrue)
    (inFalse : Term.Elementary env.knows whenFalse) :
    Keeps env columns (.conditional test whenTrue whenFalse)
      (Term.foldStep (.conditional test whenTrue whenFalse)) := by
  simp only [Term.foldStep, Term.branch?]
  split
  · rename_i known
    rw [isBool_iff] at known
    subst known
    exact ⟨inTrue, fun v h => h, fun null => by cases null⟩
  · split
    · rename_i known
      rw [isBool_iff] at known
      subst known
      exact ⟨inFalse, fun v h => h, fun null => by cases null⟩
    · exact .refl (.conditional inTest inTrue inFalse)

theorem callValue?_membership {name : String} (method : Method.ofName? name = some .contains)
    (items : List Literal) (item : Draft) :
    Term.callValue? name (some (.literal (.array items))) [item] =
      item.literal?.map fun a => .bool (Literal.holds items a) := by
  simp only [Term.callValue?, method]
  cases item <;> rfl

theorem callValue?_staticMembership {name : String}
    (method : Method.ofName? name = some .contains) (items : List Literal) (item : Draft) :
    Term.callValue? name none [.literal (.array items), item] =
      item.literal?.map fun a => .bool (Literal.holds items a) := by
  simp only [Term.callValue?, method]
  cases item <;> rfl

/-- A membership test of a literal may be replaced by its outcome. -/
theorem holds_keeps {call item : Draft} {items : List Literal} {value : Literal}
    (written : Literal.AreIntegers items) (inItem : Term.Elementary env.knows item)
    (notNull : call.isNull = false)
    (member : meaning env columns call =
      (meaning env columns item).bind (RowValue.member? items))
    (folded : (item.literal?.map fun a => .bool (Literal.holds items a)) = some value) :
    Keeps env columns call (.literal value) := by
  obtain ⟨a, isLiteral, rfl⟩ := Option.map_eq_some_iff.1 folded
  obtain ⟨rfl, -⟩ := elementary_literal? inItem isLiteral
  refine literal_keeps trivial notNull fun v h => ?_
  have tested : RowValue.member? items a.rowValue = some v := member.symm.trans h
  cases value : a.rowValue with
  | integer n =>
    rw [value] at tested
    cases tested
    rw [Literal.holds_eq_any written value]
    rfl
  | _ => simp [value, RowValue.member?] at tested

theorem foldStep_keeps {draft : Draft} (elementary : Term.Elementary env.knows draft) :
    Keeps env columns draft (Term.foldStep draft) := by
  have self : Keeps env columns draft draft := .refl elementary
  cases elementary with
  | leaf value => exact self
  | field known => exact self
  | literal kind => exact self
  | unary op inside => exact foldStep_unary_keeps inside
  | comparison op inLeft inRight =>
    exact foldStep_binary_keeps (.comparison op inLeft inRight) inLeft inRight
  | calculation exact inLeft inRight =>
    exact foldStep_binary_keeps (.calculation exact inLeft inRight) inLeft inRight
  | andAlso inLeft inRight => exact foldStep_binary_keeps (.andAlso inLeft inRight) inLeft inRight
  | orElse inLeft inRight => exact foldStep_binary_keeps (.orElse inLeft inRight) inLeft inRight
  | conditional inTest inTrue inFalse => exact foldStep_conditional_keeps inTest inTrue inFalse
  | membership isStatic method written inItem =>
    simp only [Term.foldStep, callValue?_membership method]
    split
    · rename_i value folded
      exact holds_keeps written inItem rfl (meaning_membership method) folded
    · exact self
  | staticMembership isStatic method written inItem =>
    simp only [Term.foldStep, callValue?_staticMembership method]
    split
    · rename_i value folded
      exact holds_keeps written inItem rfl (meaning_staticMembership method) folded
    · exact self

theorem fold_keeps {draft : Draft} (elementary : Term.Elementary env.knows draft) :
    Keeps env columns draft (Term.fold draft) :=
  transform_keeps (fun _ => rfl) (fun _ => foldStep_keeps) elementary

/-! ## Normalizing -/

theorem normalizeStep_andAlso_keeps {left right : Draft}
    (inLeft : Term.Elementary env.knows left) (inRight : Term.Elementary env.knows right) :
    Keeps env columns (.binary .andAlso left right) (normalizeStep (.binary .andAlso left right)) := by
  simp only [normalizeStep]
  split
  · rename_i known
    rw [isBool_iff] at known
    subst known
    refine ⟨inRight, fun v h => ?_, nofun⟩
    obtain ⟨a, b, leftValue, rightValue, rfl⟩ := meaning_andAlso_eq_some h
    cases leftValue
    exact rightValue
  · split
    · rename_i known
      rw [isBool_iff] at known
      subst known
      refine ⟨inLeft, fun v h => ?_, nofun⟩
      obtain ⟨a, b, leftValue, rightValue, rfl⟩ := meaning_andAlso_eq_some h
      cases rightValue
      rw [Bool.and_true]
      exact leftValue
    · exact .refl (.andAlso inLeft inRight)

theorem normalizeStep_orElse_keeps {left right : Draft}
    (inLeft : Term.Elementary env.knows left) (inRight : Term.Elementary env.knows right) :
    Keeps env columns (.binary .orElse left right) (normalizeStep (.binary .orElse left right)) := by
  simp only [normalizeStep]
  split
  · rename_i known
    rw [isBool_iff] at known
    subst known
    refine ⟨inRight, fun v h => ?_, nofun⟩
    obtain ⟨a, b, leftValue, rightValue, rfl⟩ := meaning_orElse_eq_some h
    cases leftValue
    exact rightValue
  · split
    · rename_i known
      rw [isBool_iff] at known
      subst known
      refine ⟨inLeft, fun v h => ?_, nofun⟩
      obtain ⟨a, b, leftValue, rightValue, rfl⟩ := meaning_orElse_eq_some h
      cases rightValue
      rw [Bool.or_false]
      exact leftValue
    · exact .refl (.orElse inLeft inRight)

/-- Membership tests are no three-way comparisons, and no other call is elementary. -/
theorem compared?_elementary {draft : Draft} (elementary : Term.Elementary env.knows draft) :
    compared? draft = none := by
  cases elementary with
  | membership isStatic method | staticMembership isStatic method =>
    unfold compared?
    simp only [method]
  | _ => rfl

/-- A comparison with null has the value of the null test of what is checked. -/
theorem checkedForNull?_meaning {op : Comparison} {left right checked : Draft}
    (found : checkedForNull? left right = some checked) :
    meaning env columns (.binary (.comparison op) left right) =
      (meaning env columns checked).bind (RowValue.testNull? op) := by
  change Term.comparisonMeaning op left right (meaning env columns left)
    (meaning env columns right) = _
  unfold checkedForNull? at found
  unfold Term.comparisonMeaning
  split at found
  · rename_i null
    cases found
    rw [if_pos null]
  · rename_i notNull
    split at found
    · rename_i null
      cases found
      rw [if_neg notNull, if_pos null]
    · cases found

/-- What a conditional looks like that only guards a value against null. -/
theorem guarded?_eq_some {test whenTrue whenFalse value : Draft}
    (found : guarded? test whenTrue whenFalse = some value) :
    ∃ op left right, test = .binary (.comparison op) left right ∧
      checkedForNull? left right = some value ∧
      (op = .equal ∧ whenTrue.isNull = true ∧ same whenFalse value = true ∨
        op = .notEqual ∧ whenFalse.isNull = true ∧ same whenTrue value = true) := by
  unfold guarded? at found
  split at found
  · rename_i op left right
    split at found
    · cases found
    · rename_i checked isChecked
      cases op <;> simp only [Option.ite_none_right_eq_some, Option.some.injEq, Bool.and_eq_true,
        reduceCtorEq] at found
      · obtain ⟨written, rfl⟩ := found
        exact ⟨_, left, right, rfl, isChecked, .inl ⟨rfl, written⟩⟩
      · obtain ⟨written, rfl⟩ := found
        exact ⟨_, left, right, rfl, isChecked, .inr ⟨rfl, written⟩⟩
  · cases found

theorem checkedForNull?_elementary {left right checked : Draft}
    (inLeft : Term.Elementary env.knows left) (inRight : Term.Elementary env.knows right)
    (found : checkedForNull? left right = some checked) : Term.Elementary env.knows checked := by
  unfold checkedForNull? at found
  split at found
  · cases found
    exact inLeft
  · split at found <;> cases found
    exact inRight

/-- Null where a value is null, and the value elsewhere, is the value. -/
theorem chosen_null_or_value {value : Option RowValue} {v : RowValue} :
    (Term.chosen (value.bind (RowValue.testNull? .equal)) (some .null) value = some v →
      value = some v) ∧
    (Term.chosen (value.bind (RowValue.testNull? .notEqual)) value (some .null) = some v →
      value = some v) := by
  cases value with
  | none => exact ⟨nofun, nofun⟩
  | some x => cases x <;> exact ⟨id, id⟩

/-- A conditional that guards a value against null has that value. -/
theorem guarded?_keeps {test whenTrue whenFalse value : Draft}
    (inTest : Term.Elementary env.knows test) (inTrue : Term.Elementary env.knows whenTrue)
    (inFalse : Term.Elementary env.knows whenFalse)
    (found : guarded? test whenTrue whenFalse = some value) :
    Keeps env columns (.conditional test whenTrue whenFalse) value := by
  obtain ⟨op, left, right, rfl, isChecked, guard⟩ := guarded?_eq_some found
  cases inTest with
  | comparison _ inLeft inRight =>
    refine ⟨checkedForNull?_elementary inLeft inRight isChecked, fun v h => ?_, nofun⟩
    change Term.chosen (meaning env columns _) (meaning env columns whenTrue)
      (meaning env columns whenFalse) = some v at h
    rw [checkedForNull?_meaning isChecked] at h
    rcases guard with ⟨rfl, null, alike⟩ | ⟨rfl, null, alike⟩
    · rw [meaning_of_isNull null, same_meaning inFalse _ alike] at h
      exact chosen_null_or_value.1 h
    · rw [meaning_of_isNull null, same_meaning inTrue _ alike] at h
      exact chosen_null_or_value.2 h

theorem normalizeStep_keeps {draft : Draft} (elementary : Term.Elementary env.knows draft) :
    Keeps env columns draft (normalizeStep draft) := by
  have self : Keeps env columns draft draft := .refl elementary
  cases elementary with
  | leaf value => exact self
  | field known => exact self
  | literal kind => exact self
  | unary op inside => exact self
  | comparison op inLeft inRight =>
    simp only [normalizeStep, compared?_elementary inLeft, ite_self]
    exact self
  | calculation exact inLeft inRight => exact self
  | andAlso inLeft inRight => exact normalizeStep_andAlso_keeps inLeft inRight
  | orElse inLeft inRight => exact normalizeStep_orElse_keeps inLeft inRight
  | conditional inTest inTrue inFalse =>
    simp only [normalizeStep]
    cases found : guarded? _ _ _ with
    | none => exact self
    | some value => exact guarded?_keeps inTest inTrue inFalse found
  | membership isStatic method written inItem => exact self
  | staticMembership isStatic method written inItem => exact self

theorem normalize_keeps {draft : Draft} (elementary : Term.Elementary env.knows draft) :
    Keeps env columns draft (normalize draft) :=
  transform_keeps (fun _ => rfl) (fun _ => normalizeStep_keeps) elementary

/-! ## Expressions -/

theorem column_of_knows {field : String} (known : env.knows field = true) :
    env.column field = .ok (env.resolve field) := by
  have checked : env.check field = .ok () := if_pos known
  rw [Environment.column, checked]
  rfl

theorem mapM_ofItem {items : List Literal} (integers : ∀ item ∈ items, item.integer?.isSome) :
    items.mapM Sql.Expression.ofItem = .ok (items.map .value) := by
  induction items with
  | nil => rfl
  | cons item rest ih =>
    have value : Sql.Expression.ofItem item = .ok (.value item) := by
      have isInteger := integers item List.mem_cons_self
      cases item with
      | array items => cases isInteger
      | _ => rfl
    rw [List.mapM_cons, value, ih fun item mem => integers item (List.mem_cons_of_mem _ mem)]
    rfl

/-- Both forms of a membership test compile to `IN`, once the item is compiled. -/
theorem ofCall?_membership {name : String} (method : Method.ofName? name = some .contains)
    {items : List Literal} (written : Literal.AreIntegers items) (item : Draft)
    (sql : Sql.Expression) (collection : Except CompileError Sql.Expression) (isStatic : Bool) :
    Sql.Expression.ofCall? name (some ⟨.literal (.array items), collection⟩) [⟨item, .ok sql⟩]
        isStatic = .ok (some (.inList sql (items.map .value))) ∧
      Sql.Expression.ofCall? name none [⟨.literal (.array items), collection⟩, ⟨item, .ok sql⟩]
        isStatic = .ok (some (.inList sql (items.map .value))) := by
  have notEmpty : items.isEmpty = false := by simp [written.nonempty]
  unfold Sql.Expression.ofCall?
  simp only [method, membership?, Operand.items?, Option.map_some,
    Sql.Expression.ofMembership, notEmpty, mapM_ofItem written.integers]
  exact ⟨rfl, rfl⟩

theorem inList_meaning {items : List Literal} (written : Literal.AreIntegers items)
    {sql : Sql.Expression} {x v : RowValue} (value : sql.meaning columns = some x)
    (member : RowValue.member? items x = some v) :
    (Sql.Expression.inList sql (items.map .value)).meaning columns = some v := by
  have values : (items.map fun item => some item.rowValue).mapM id =
      some (items.map Literal.rowValue) := by
    rw [List.mapM_map]
    exact List.mapM_pure
  simp only [Sql.Expression.meaning, Sql.Expression.meanings_values, value, values]
  exact RowValue.sqlMember?_eq written.integers member

/-- An expression for a draft: wherever the draft has a value, the expression has the same. -/
def Compiles (env : Environment) (columns : Sql.Column → RowValue) (draft : Draft) : Prop :=
  ∃ sql, draft.expression env = .ok sql ∧
    ∀ v, meaning env columns draft = some v → sql.meaning columns = some v

/-- The null test of a comparison tests as the comparison does, and without one it has no value. -/
theorem nullTest?_meaning (columns : Sql.Column → RowValue) (op : Comparison) :
    (∃ test, nullTest? op = some test ∧ ∀ sql : Sql.Expression,
      (sql.unary test).meaning columns = (sql.meaning columns).bind (RowValue.testNull? op)) ∨
    nullTest? op = none ∧ ∀ x, RowValue.testNull? op x = none := by
  cases op with
  | equal => exact .inl ⟨.isNull, rfl, fun _ => rfl⟩
  | notEqual => exact .inl ⟨.isNotNull, rfl, fun _ => rfl⟩
  | _ => exact .inr ⟨rfl, fun _ => rfl⟩

theorem nullTest_compiles {op : Comparison} {left right checked : Draft} {test : Sql.UnaryOperator}
    (inside : Compiles env columns checked)
    (compiled : expression env (.binary (.comparison op) left right) =
      .unary test <$> expression env checked)
    (testMeaning : ∀ sql : Sql.Expression,
      (sql.unary test).meaning columns = (sql.meaning columns).bind (RowValue.testNull? op))
    (value : meaning env columns (.binary (.comparison op) left right) =
      (meaning env columns checked).bind (RowValue.testNull? op)) :
    Compiles env columns (.binary (.comparison op) left right) := by
  obtain ⟨sql, checkedCompiled, checkedValue⟩ := inside
  refine ⟨.unary test sql, by rw [compiled, checkedCompiled]; rfl, fun v h => ?_⟩
  rw [value] at h
  obtain ⟨x, known, result⟩ := Option.bind_eq_some_iff.1 h
  rw [testMeaning, checkedValue x known]
  exact result

theorem comparison_compiles (op : Comparison) {left right : Draft}
    (inLeft : Compiles env columns left) (inRight : Compiles env columns right) :
    Compiles env columns (.binary (.comparison op) left right) := by
  have value : meaning env columns (.binary (.comparison op) left right) =
      Term.comparisonMeaning op left right (meaning env columns left) (meaning env columns right) :=
    rfl
  unfold Term.comparisonMeaning at value
  have compared : nullCheck? op left right = none →
      (∀ v, meaning env columns (.binary (.comparison op) left right) = some v →
        (do RowValue.compare? op (← meaning env columns left) (← meaning env columns right)) =
          some v) →
      Compiles env columns (.binary (.comparison op) left right) := by
    intro noCheck strict
    obtain ⟨l, leftCompiled, leftValue⟩ := inLeft
    obtain ⟨r, rightCompiled, rightValue⟩ := inRight
    refine ⟨.binary (.comparison op) l r, ?_, fun v h => ?_⟩
    · simp only [expression, noCheck, leftCompiled, rightCompiled]
      rfl
    · obtain ⟨x, knownLeft, h⟩ := Option.bind_eq_some_iff.1 (strict v h)
      obtain ⟨y, knownRight, h⟩ := Option.bind_eq_some_iff.1 h
      simp only [Sql.Expression.meaning, leftValue x knownLeft, rightValue y knownRight]
      exact RowValue.lifted_compare?_eq h
  rcases nullTest?_meaning columns op with ⟨test, hasTest, testMeaning⟩ | ⟨noTest, noValue⟩
  · by_cases rightNull : right.isNull = true
    · refine nullTest_compiles inLeft ?_ testMeaning (value.trans (if_pos rightNull))
      simp only [expression, nullCheck?, hasTest, rightNull, if_true]
    · rw [if_neg rightNull] at value
      by_cases leftNull : left.isNull = true
      · refine nullTest_compiles inRight ?_ testMeaning (value.trans (if_pos leftNull))
        simp only [expression, nullCheck?, hasTest, rightNull, leftNull, if_true]
        rfl
      · rw [if_neg leftNull] at value
        refine compared ?_ fun v h => value.symm.trans h
        simp only [nullCheck?, hasTest, rightNull, leftNull]
        rfl
  · refine compared (by simp only [nullCheck?, noTest]) fun v h => ?_
    -- without a null test, a comparison with a written null has no value
    have neverTested : ∀ x : Option RowValue, x.bind (RowValue.testNull? op) = none := by
      intro x
      cases x <;> simp [noValue]
    rw [neverTested, neverTested] at value
    rw [value] at h
    split at h
    · cases h
    · split at h
      · cases h
      · exact h

/-- An operator between two compiled operands, where SQL has at least the strict value. -/
theorem binary_compiles {op : BinaryOp} {left right : Draft}
    (node : Sql.Expression → Sql.Expression → Sql.Expression)
    (f g : RowValue → RowValue → Option RowValue)
    (compiles : ∀ {l r}, left.expression env = .ok l → right.expression env = .ok r →
      expression env (.binary op left right) = .ok (node l r))
    (strict : meaning env columns (.binary op left right) =
      do f (← meaning env columns left) (← meaning env columns right))
    (lifted : ∀ l r, (node l r).meaning columns =
      do g (← l.meaning columns) (← r.meaning columns))
    (extends_ : ∀ {a b v}, f a b = some v → g a b = some v)
    (inLeft : Compiles env columns left) (inRight : Compiles env columns right) :
    Compiles env columns (.binary op left right) := by
  obtain ⟨l, leftCompiled, leftValue⟩ := inLeft
  obtain ⟨r, rightCompiled, rightValue⟩ := inRight
  refine ⟨node l r, compiles leftCompiled rightCompiled, fun v h => ?_⟩
  rw [strict] at h
  obtain ⟨x, knownLeft, h⟩ := Option.bind_eq_some_iff.1 h
  obtain ⟨y, knownRight, h⟩ := Option.bind_eq_some_iff.1 h
  rw [lifted, leftValue x knownLeft, rightValue y knownRight]
  exact extends_ h

theorem conditional_compiles {test whenTrue whenFalse : Draft}
    (inTest : Compiles env columns test) (inTrue : Compiles env columns whenTrue)
    (inFalse : Compiles env columns whenFalse) :
    Compiles env columns (.conditional test whenTrue whenFalse) := by
  obtain ⟨t, testCompiled, testValue⟩ := inTest
  obtain ⟨a, trueCompiled, trueValue⟩ := inTrue
  obtain ⟨b, falseCompiled, falseValue⟩ := inFalse
  refine ⟨.function .conditional [t, a, b], ?_, fun v h => ?_⟩
  · simp only [expression, testCompiled, trueCompiled, falseCompiled]
    rfl
  · change Term.chosen (meaning env columns test) (meaning env columns whenTrue)
      (meaning env columns whenFalse) = some v at h
    unfold Term.chosen at h
    split at h
    · rename_i known
      simp only [Sql.Expression.meaning, Sql.Expression.meanings,
        Sql.Expression.conditionalMeaning, testValue _ known, trueValue v h]
    · rename_i known
      simp only [Sql.Expression.meaning, Sql.Expression.meanings,
        Sql.Expression.conditionalMeaning, testValue _ known, falseValue v h]
    · cases h

/-- **Every elementary draft compiles**, to an expression of the same value. -/
theorem expression_meaning {draft : Draft} (elementary : Term.Elementary env.knows draft) :
    Compiles env columns draft := by
  induction elementary with
  | leaf sql => exact ⟨sql, rfl, fun v h => h⟩
  | field known =>
    refine ⟨.column (env.resolve _), ?_, fun v h => h⟩
    simp only [expression, column_of_knows known]
    rfl
  | @literal value kind =>
    refine ⟨.value value, ?_, fun v h => h⟩
    cases value <;> first | exact kind.elim | rfl
  | unary op _ ih =>
    obtain ⟨e, compiled, value⟩ := ih
    cases op with
    | not =>
      refine ⟨.not e, by simp only [expression, compiled]; rfl, fun v h => ?_⟩
      obtain ⟨x, known, result⟩ := Option.bind_eq_some_iff.1 h
      simp only [Sql.Expression.meaning, value x known]
      exact RowValue.sqlNot?_eq result
    | negate =>
      refine ⟨.unary .negate e, by simp only [expression, compiled]; rfl, fun v h => ?_⟩
      obtain ⟨x, known, result⟩ := Option.bind_eq_some_iff.1 h
      simp only [Sql.Expression.meaning, value x known]
      exact RowValue.sqlNegate?_eq result
  | comparison op _ _ left right => exact comparison_compiles op left right
  | @calculation op exact _ _ _ _ left right =>
    refine binary_compiles (.binary (.calculation op)) (RowValue.calculate? op)
      (RowValue.lifted (RowValue.calculate? op)) (fun l r => ?_) rfl (fun _ _ => rfl)
      RowValue.lifted_calculate?_eq left right
    simp only [expression, l, r]
    rfl
  | andAlso _ _ left right =>
    refine binary_compiles .and RowValue.and? RowValue.sqlAnd? (fun l r => ?_) rfl
      (fun _ _ => rfl) RowValue.sqlAnd?_eq left right
    simp only [expression, l, r]
    rfl
  | orElse _ _ left right =>
    refine binary_compiles .or RowValue.or? RowValue.sqlOr? (fun l r => ?_) rfl
      (fun _ _ => rfl) RowValue.sqlOr?_eq left right
    simp only [expression, l, r]
    rfl
  | conditional _ _ _ test whenTrue whenFalse => exact conditional_compiles test whenTrue whenFalse
  | @membership name items item isStatic method written _ ih =>
    obtain ⟨e, compiled, value⟩ := ih
    refine ⟨.inList e (items.map .value), ?_, fun v h => ?_⟩
    · simp only [expression, targetOperand, operands, compiled,
        (ofCall?_membership method written item e _ isStatic).1]
    · rw [meaning_membership method] at h
      obtain ⟨x, known, member⟩ := Option.bind_eq_some_iff.1 h
      exact inList_meaning written (value x known) member
  | @staticMembership name items item isStatic method written _ ih =>
    obtain ⟨e, compiled, value⟩ := ih
    refine ⟨.inList e (items.map .value), ?_, fun v h => ?_⟩
    · simp only [expression, targetOperand, operands, compiled,
        (ofCall?_membership method written item e _ isStatic).2]
    · rw [meaning_staticMembership method] at h
      obtain ⟨x, known, member⟩ := Option.bind_eq_some_iff.1 h
      exact inList_meaning written (value x known) member

/-! ## Reducing -/

/-- A call may be replaced by its SQL where that has the value of the call. -/
theorem leaf_keeps {draft : Draft} {sql : Sql.Expression} (notNull : draft.isNull = false)
    (value : ∀ v, meaning env columns draft = some v → sql.meaning columns = some v) :
    Keeps env columns draft (.leaf sql) where
  elementary := .leaf sql
  meaning := value
  null h := by simp [notNull] at h

theorem reduceStep_keeps {draft : Draft} (elementary : Term.Elementary env.knows draft) :
    Keeps env columns draft (reduceStep env draft) := by
  have self : Keeps env columns draft draft := .refl elementary
  cases elementary with
  | @membership name items item isStatic method written inItem =>
    have folded : Keeps env columns item item.fold := fold_keeps inItem
    obtain ⟨e, compiled, value⟩ : Compiles env columns item.fold :=
      expression_meaning folded.elementary
    have reduced : (Term.literal (.array items) : Draft).fold = .literal (.array items) := rfl
    simp only [reduceStep, unwrapped?, method, reducedCall?, operand, Option.map_some,
      List.map_cons, List.map_nil, reduced, compiled,
      (ofCall?_membership method written item.fold e _ isStatic).1]
    split
    · rename_i sql isSql
      split at isSql <;> cases isSql
      refine leaf_keeps rfl fun v h => ?_
      rw [meaning_membership method] at h
      obtain ⟨x, known, member⟩ := Option.bind_eq_some_iff.1 h
      exact inList_meaning written (value x (folded.meaning x known)) member
    · exact self
  | @staticMembership name items item isStatic method written inItem =>
    have folded : Keeps env columns item item.fold := fold_keeps inItem
    obtain ⟨e, compiled, value⟩ : Compiles env columns item.fold :=
      expression_meaning folded.elementary
    have reduced : (Term.literal (.array items) : Draft).fold = .literal (.array items) := rfl
    simp only [reduceStep, unwrapped?, method, reducedCall?, operand, Option.map_none,
      List.map_cons, List.map_nil, reduced, compiled,
      (ofCall?_membership method written item.fold e _ isStatic).2]
    split
    · rename_i sql isSql
      split at isSql <;> cases isSql
      refine leaf_keeps rfl fun v h => ?_
      rw [meaning_staticMembership method] at h
      obtain ⟨x, known, member⟩ := Option.bind_eq_some_iff.1 h
      exact inList_meaning written (value x (folded.meaning x known)) member
    · exact self
  | _ => exact self

theorem reduce_keeps {draft : Draft} (elementary : Term.Elementary env.knows draft) :
    Keeps env columns draft (reduce env draft) :=
  transform_keeps (fun _ => rfl) (fun _ => reduceStep_keeps) elementary

/-! ## Filters -/

/-- A predicate starts as the draft of the same value. -/
theorem ofPredicate_meaning (columns : Sql.Column → RowValue) {p : Predicate}
    (elementary : Term.Elementary env.knows p) :
    Term.Elementary env.knows (ofPredicate p) ∧
      meaning env columns (ofPredicate p) =
        p.meaning fun field => columns (env.resolve field) := by
  unfold meaning Predicate.meaning ofPredicate
  induction elementary with
  | leaf value => exact nomatch value
  | field known => exact ⟨.field known, rfl⟩
  | literal kind => exact ⟨.literal kind, rfl⟩
  | unary op _ ih =>
    refine ⟨.unary op ih.1, ?_⟩
    cases op <;> simp only [Term.mapLeaves, Term.meaning, ih.2]
  | comparison op _ _ left right =>
    refine ⟨.comparison op left.1 right.1, ?_⟩
    simp only [Term.mapLeaves, Term.meaning, Term.comparisonMeaning, left.2, right.2,
      Term.isNull_mapLeaves]
  | calculation exact _ _ left right =>
    refine ⟨.calculation exact left.1 right.1, ?_⟩
    simp only [Term.mapLeaves, Term.meaning, left.2, right.2]
  | andAlso _ _ left right =>
    refine ⟨.andAlso left.1 right.1, ?_⟩
    simp only [Term.mapLeaves, Term.meaning, left.2, right.2]
  | orElse _ _ left right =>
    refine ⟨.orElse left.1 right.1, ?_⟩
    simp only [Term.mapLeaves, Term.meaning, left.2, right.2]
  | conditional _ _ _ test whenTrue whenFalse =>
    refine ⟨.conditional test.1 whenTrue.1 whenFalse.1, ?_⟩
    simp only [Term.mapLeaves, Term.meaning, test.2, whenTrue.2, whenFalse.2]
  | membership isStatic method written _ ih =>
    refine ⟨.membership isStatic method written ih.1, ?_⟩
    simp only [Term.mapLeaves, Term.mapTarget, Term.mapArgs, Term.meaning, ih.2]
  | staticMembership isStatic method written _ ih =>
    refine ⟨.staticMembership isStatic method written ih.1, ?_⟩
    simp only [Term.mapLeaves, Term.mapTarget, Term.mapArgs, Term.meaning, ih.2]

theorem simplify_meaning (columns : Sql.Column → RowValue) {p : Predicate}
    (elementary : Term.Elementary env.knows p) :
    Term.Elementary env.knows (simplify env p) ∧
      ∀ v, (p.meaning fun field => columns (env.resolve field)) = some v →
        meaning env columns (simplify env p) = some v := by
  obtain ⟨start, value⟩ := ofPredicate_meaning columns elementary
  have reduced : Keeps env columns (ofPredicate p) (reduce env (ofPredicate p)) :=
    reduce_keeps start
  have folded : Keeps env columns _ (Term.fold _) := fold_keeps reduced.elementary
  have normalized : Keeps env columns _ (normalize _) := normalize_keeps folded.elementary
  refine ⟨normalized.elementary, fun v h => ?_⟩
  exact normalized.meaning v (folded.meaning v (reduced.meaning v (value.trans h)))

theorem isEmptyMembership_elementary {draft : Draft}
    (elementary : Term.Elementary env.knows draft) : draft.isEmptyMembership = false := by
  cases elementary with
  | @membership name items _ isStatic method written =>
    cases items with
    | nil => exact absurd rfl written.nonempty
    | cons item rest =>
      unfold isEmptyMembership
      simp only [method]
      rfl
  | @staticMembership name items _ isStatic method written =>
    cases items with
    | nil => exact absurd rfl written.nonempty
    | cons item rest =>
      unfold isEmptyMembership
      simp only [method]
      rfl
  | _ => rfl

/-- The truth of a condition on a row; no condition is true of every row. -/
def conditionMeaning (columns : Sql.Column → RowValue) (condition : Option Sql.Expression) :
    Option RowValue :=
  match condition with
  | none => some (.bool true)
  | some sql => sql.meaning columns

/-- **Filters mean what their predicates mean.**  Where a predicate of truths and integers has a
value on a row, its filter compiles, and the condition has that value on the columns that the
fields of the row are read from. -/
theorem condition_simplify_meaning (env : Environment) (p : Predicate)
    (elementary : Term.Elementary env.knows p) (row : String → RowValue)
    (columns : Sql.Column → RowValue) (read : ∀ field, row field = columns (env.resolve field))
    (value : RowValue) (hasValue : p.meaning row = some value) :
    ∃ filter, condition env (simplify env p) = .ok filter ∧
      conditionMeaning columns filter = some value := by
  obtain rfl : row = fun field => columns (env.resolve field) := funext read
  obtain ⟨simplified, keeps⟩ := simplify_meaning columns elementary
  have draftValue := keeps value hasValue
  obtain ⟨sql, compiled, sqlValue⟩ : Compiles env columns (simplify env p) :=
    expression_meaning simplified
  by_cases always : (simplify env p).isBool true = true
  · refine ⟨none, by simp [condition, always], ?_⟩
    rw [isBool_iff.1 always] at draftValue
    exact draftValue
  · refine ⟨some sql, ?_, sqlValue value draftValue⟩
    simp only [condition, always, isEmptyMembership_elementary simplified, compiled]
    rfl

/-- `[1, 2].Contains(Id) && (Age == null ? 0 : Age) < 18`. -/
def youngAmongTwo : Predicate :=
  .binary .andAlso
    (.call "Contains" (some (.literal (.array [.int 1, .uint 2]))) [.field "Id"] false)
    (.binary (.comparison .less)
      (.conditional (.binary (.comparison .equal) (.field "Age") (.literal .null))
        (.literal (.int 0)) (.field "Age"))
      (.literal (.int 18)))

/-- The filter holds of the row with the second number and no age. -/
theorem condition_youngAmongTwo :
    ∃ filter,
      condition ⟨.empty, .empty, true⟩ (simplify ⟨.empty, .empty, true⟩ youngAmongTwo)
        = .ok filter ∧
      conditionMeaning (fun column => if column = .named "Id" then .integer 2 else .null) filter
        = some (.bool true) := by
  refine condition_simplify_meaning ⟨.empty, .empty, true⟩ youngAmongTwo ?_
    (fun field => if field = "Id" then .integer 2 else .null) _ ?_ (.bool true) ?_
  · have contains : Method.ofName? "Contains" = some .contains := by decide +kernel
    have integers : Literal.AreIntegers [.int 1, .uint 2] := ⟨nofun, by simp [Literal.integer?]⟩
    have age : Term.Elementary (Environment.knows ⟨.empty, .empty, true⟩)
        (.field "Age" : Predicate) := .field rfl
    exact .andAlso (.membership false contains integers (.field rfl))
      (.comparison _ (.conditional (.comparison _ age (.literal trivial)) (.literal trivial) age)
        (.literal trivial))
  · intro field
    simp [Environment.resolve, Dictionary.lookup, Dictionary.empty]
  · simp only [youngAmongTwo, Predicate.meaning, Term.meaning, Term.isContains, Term.isNull,
      Term.chosen, Term.comparisonMeaning]
    decide +kernel

end PlanCompiler.Draft
