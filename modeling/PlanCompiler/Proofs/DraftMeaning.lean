/-
# Proofs.DraftMeaning -- what a pass may do to a draft

A pass may change how a draft is written, but where the draft has a value it keeps
it (`Draft.Keeps`).  An operator keeps its value when its operands keep theirs, so a
pass that goes through `Term.transform` is settled by its step on a single node
(`Draft.transform_keeps`).

A pass may turn an operand into a written null, which turns a comparison of values
into a null test.  It may do so only where the operand is null, and then the
comparison had no value.  A null that was written has to stay written, since a null
test has a value that the comparison has not; that is the third part of `Keeps`.
-/
import PlanCompiler.Compile.Expression
import PlanCompiler.Proofs.ExpressionMeaning
import PlanCompiler.Proofs.PredicateMeaning

namespace PlanCompiler.Draft

set_option autoImplicit false

variable (env : Environment) (columns : Sql.Column → RowValue)

/-- The value of a draft whose fields are read from the columns. -/
def meaning (draft : Draft) : Option RowValue :=
  Term.meaning (Sql.Expression.meaning columns) (fun field => columns (env.resolve field)) draft

/-- What a pass may do to an elementary draft. -/
structure Keeps (before after : Draft) : Prop where
  elementary : Term.Elementary env.knows after
  meaning : ∀ v, meaning env columns before = some v → meaning env columns after = some v
  null : before.isNull = true → after.isNull = true

variable {env columns}

theorem meaning_of_isNull {draft : Draft} (null : draft.isNull = true) :
    meaning env columns draft = some .null := by
  unfold Term.isNull at null
  split at null
  · rfl
  · cases null

theorem meaning_membership {name : String} {items : List Literal} {item : Draft} {isStatic : Bool}
    (method : Method.ofName? name = some .contains) :
    meaning env columns (.call name (some (.literal (.array items))) [item] isStatic) =
      (meaning env columns item).bind (RowValue.member? items) := by
  have isContains : Term.isContains name = true := by simp [Term.isContains, method]
  simp [meaning, Term.meaning, isContains]

theorem meaning_staticMembership {name : String} {items : List Literal} {item : Draft}
    {isStatic : Bool} (method : Method.ofName? name = some .contains) :
    meaning env columns (.call name none [.literal (.array items), item] isStatic) =
      (meaning env columns item).bind (RowValue.member? items) := by
  have isContains : Term.isContains name = true := by simp [Term.isContains, method]
  simp [meaning, Term.meaning, isContains]

theorem Keeps.refl {draft : Draft} (elementary : Term.Elementary env.knows draft) :
    Keeps env columns draft draft :=
  ⟨elementary, fun _ h => h, fun h => h⟩

theorem Keeps.trans {a b c : Draft} (first : Keeps env columns a b) (second : Keeps env columns b c) :
    Keeps env columns a c :=
  ⟨second.elementary, fun v h => second.meaning v (first.meaning v h),
    fun h => second.null (first.null h)⟩

/-! ### Operands that keep their values -/

section Operands

variable {left left' right right' operand operand' test test' : Draft}

theorem Keeps.unary (op : UnaryOp) (inside : Keeps env columns operand operand') :
    Keeps env columns (.unary op operand) (.unary op operand') where
  elementary := .unary op inside.elementary
  meaning v h := by
    cases op with
    | not =>
      obtain ⟨x, value, result⟩ := Option.bind_eq_some_iff.1 h
      exact Option.bind_eq_some_iff.2 ⟨x, inside.meaning x value, result⟩
    | negate =>
      obtain ⟨x, value, result⟩ := Option.bind_eq_some_iff.1 h
      exact Option.bind_eq_some_iff.2 ⟨x, inside.meaning x value, result⟩
  null := nofun

/-- Any operator that needs the values of both operands. -/
theorem bind_keeps (f : RowValue → RowValue → Option RowValue)
    (inLeft : Keeps env columns left left') (inRight : Keeps env columns right right') {v : RowValue}
    (h : (do f (← Draft.meaning env columns left) (← Draft.meaning env columns right)) = some v) :
    (do f (← Draft.meaning env columns left') (← Draft.meaning env columns right')) = some v := by
  obtain ⟨x, leftValue, h⟩ := Option.bind_eq_some_iff.1 h
  obtain ⟨y, rightValue, result⟩ := Option.bind_eq_some_iff.1 h
  rw [inLeft.meaning x leftValue, inRight.meaning y rightValue]
  exact result

theorem Keeps.comparison (op : Comparison) (inLeft : Keeps env columns left left')
    (inRight : Keeps env columns right right') :
    Keeps env columns (.binary (.comparison op) left right)
      (.binary (.comparison op) left' right') where
  elementary := .comparison op inLeft.elementary inRight.elementary
  meaning v h := by
    change Term.comparisonMeaning op left right (Draft.meaning env columns left)
      (Draft.meaning env columns right) = some v at h
    change Term.comparisonMeaning op left' right' (Draft.meaning env columns left')
      (Draft.meaning env columns right') = some v
    unfold Term.comparisonMeaning at h ⊢
    split at h
    · rename_i null
      obtain ⟨x, value, tested⟩ := Option.bind_eq_some_iff.1 h
      rw [if_pos (inRight.null null), inLeft.meaning x value]
      exact tested
    · split at h
      · rename_i null
        obtain ⟨y, value, tested⟩ := Option.bind_eq_some_iff.1 h
        have leftNull := inLeft.null null
        -- where the right side has become a written null as well, it was null
        by_cases rightNull : right'.isNull = true
        · have same := (inRight.meaning y value).symm.trans (meaning_of_isNull rightNull)
          rw [if_pos rightNull, meaning_of_isNull leftNull, ← same]
          exact tested
        · rw [if_neg rightNull, if_pos leftNull, inRight.meaning y value]
          exact tested
      · obtain ⟨x, leftValue, h⟩ := Option.bind_eq_some_iff.1 h
        obtain ⟨y, rightValue, compared⟩ := Option.bind_eq_some_iff.1 h
        have notNull := RowValue.compare?_notNull compared
        have writtenLeft : ¬ left'.isNull = true := fun null => by
          have := (inLeft.meaning x leftValue).symm.trans (meaning_of_isNull null)
          simp [Option.some.inj this, RowValue.isNull] at notNull
        have writtenRight : ¬ right'.isNull = true := fun null => by
          have := (inRight.meaning y rightValue).symm.trans (meaning_of_isNull null)
          simp [Option.some.inj this, RowValue.isNull] at notNull
        rw [if_neg writtenRight, if_neg writtenLeft, inLeft.meaning x leftValue,
          inRight.meaning y rightValue]
        exact compared
  null := nofun

theorem Keeps.calculation {op : Calculation} (exact : op ≠ .divide ∧ op ≠ .modulo)
    (inLeft : Keeps env columns left left') (inRight : Keeps env columns right right') :
    Keeps env columns (.binary (.calculation op) left right)
      (.binary (.calculation op) left' right') where
  elementary := .calculation exact inLeft.elementary inRight.elementary
  meaning _ h := bind_keeps (RowValue.calculate? op) inLeft inRight h
  null := nofun

theorem Keeps.andAlso (inLeft : Keeps env columns left left')
    (inRight : Keeps env columns right right') :
    Keeps env columns (.binary .andAlso left right) (.binary .andAlso left' right') where
  elementary := .andAlso inLeft.elementary inRight.elementary
  meaning _ h := bind_keeps RowValue.and? inLeft inRight h
  null := nofun

theorem Keeps.orElse (inLeft : Keeps env columns left left')
    (inRight : Keeps env columns right right') :
    Keeps env columns (.binary .orElse left right) (.binary .orElse left' right') where
  elementary := .orElse inLeft.elementary inRight.elementary
  meaning _ h := bind_keeps RowValue.or? inLeft inRight h
  null := nofun

/-- Only the chosen branch has to keep its value. -/
theorem Keeps.conditional (inTest : Keeps env columns test test')
    (inTrue : Keeps env columns left left') (inFalse : Keeps env columns right right') :
    Keeps env columns (.conditional test left right) (.conditional test' left' right') where
  elementary := .conditional inTest.elementary inTrue.elementary inFalse.elementary
  meaning v h := by
    change Term.chosen (Draft.meaning env columns test) (Draft.meaning env columns left)
      (Draft.meaning env columns right) = some v at h
    change Term.chosen (Draft.meaning env columns test') (Draft.meaning env columns left')
      (Draft.meaning env columns right') = some v
    unfold Term.chosen at h
    split at h
    · rename_i value
      rw [inTest.meaning _ value]
      exact inTrue.meaning v h
    · rename_i value
      rw [inTest.meaning _ value]
      exact inFalse.meaning v h
    · cases h
  null := nofun

/-- The tested item may change, the literals that it is looked for in may not. -/
theorem Keeps.membership {name : String} {items : List Literal} (isStatic : Bool)
    (method : Method.ofName? name = some .contains) (written : Literal.AreIntegers items)
    (inside : Keeps env columns operand operand') :
    Keeps env columns (.call name (some (.literal (.array items))) [operand] isStatic)
      (.call name (some (.literal (.array items))) [operand'] isStatic) where
  elementary := .membership isStatic method written inside.elementary
  meaning v h := by
    rw [meaning_membership method] at h ⊢
    obtain ⟨x, value, result⟩ := Option.bind_eq_some_iff.1 h
    exact Option.bind_eq_some_iff.2 ⟨x, inside.meaning x value, result⟩
  null := nofun

theorem Keeps.staticMembership {name : String} {items : List Literal} (isStatic : Bool)
    (method : Method.ofName? name = some .contains) (written : Literal.AreIntegers items)
    (inside : Keeps env columns operand operand') :
    Keeps env columns (.call name none [.literal (.array items), operand] isStatic)
      (.call name none [.literal (.array items), operand'] isStatic) where
  elementary := .staticMembership isStatic method written inside.elementary
  meaning v h := by
    rw [meaning_staticMembership method] at h ⊢
    obtain ⟨x, value, result⟩ := Option.bind_eq_some_iff.1 h
    exact Option.bind_eq_some_iff.2 ⟨x, inside.meaning x value, result⟩
  null := nofun

end Operands

/-! ### Whole drafts -/

/-- A pass keeps the value of a draft if its step does on every node, and leaves literals. -/
theorem transform_keeps {step : Draft → Draft}
    (literals : ∀ value, step (.literal value) = .literal value)
    (steps : ∀ draft, Term.Elementary env.knows draft → Keeps env columns draft (step draft))
    {draft : Draft} (elementary : Term.Elementary env.knows draft) :
    Keeps env columns draft (draft.transform step) := by
  induction elementary with
  | leaf value => exact steps _ (.leaf value)
  | field known => exact steps _ (.field known)
  | literal kind => exact steps _ (.literal kind)
  | unary op _ ih =>
    have node := ih.unary op
    exact node.trans (steps _ node.elementary)
  | comparison op _ _ left right =>
    have node := left.comparison op right
    exact node.trans (steps _ node.elementary)
  | calculation exact _ _ left right =>
    have node := left.calculation exact right
    exact node.trans (steps _ node.elementary)
  | andAlso _ _ left right =>
    have node := left.andAlso right
    exact node.trans (steps _ node.elementary)
  | orElse _ _ left right =>
    have node := left.orElse right
    exact node.trans (steps _ node.elementary)
  | conditional _ _ _ test whenTrue whenFalse =>
    have node := test.conditional whenTrue whenFalse
    exact node.trans (steps _ node.elementary)
  | membership isStatic method written _ ih =>
    have node := ih.membership isStatic method written
    simp only [Term.transform, Term.transformTarget, Term.transformArgs, literals]
    exact node.trans (steps _ node.elementary)
  | staticMembership isStatic method written _ ih =>
    have node := ih.staticMembership isStatic method written
    simp only [Term.transform, Term.transformTarget, Term.transformArgs, literals]
    exact node.trans (steps _ node.elementary)

end PlanCompiler.Draft
