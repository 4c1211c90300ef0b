/-
# Proofs.LiteralMeaning -- operators between literals and between their values

Where an operator has a value on what two literals are written for, and constant
folding gives a literal, that literal is written for the value.  Comparisons always
fold there; calculations do when the result fits.
-/
import PlanCompiler.Proofs.ExactIntegers
import PlanCompiler.Proofs.PredicateMeaning

namespace PlanCompiler

set_option autoImplicit false

theorem Comparison.accepts_compare_int (op : Comparison) (a b : Int) :
    op.accepts (compare a b) = op.relates a b := by
  rcases Int.lt_trichotomy a b with lt | rfl | gt
  · have order : compare a b = .lt := by simp [compare, compareOfLessAndEq, lt]
    cases op <;> simp [order, accepts, relates] <;> omega
  · cases op <;> simp [accepts, relates]
  · have order : compare a b = .gt := by
      have notLess : ¬ a < b := by omega
      have notEqual : ¬ a = b := by omega
      simp [compare, compareOfLessAndEq, notLess, notEqual]
    cases op <;> simp [order, accepts, relates] <;> omega

theorem Comparison.accepts_compare_bool (op : Comparison) (a b : Bool) :
    op.accepts (compare a b) = op.relates a b := by
  cases op <;> cases a <;> cases b <;> rfl

namespace Literal

theorem ofInt?_rowValue {n : Int} {value : Literal} (h : ofInt? n = some value) :
    value.rowValue = .integer n ∧ value.IsElementary := by
  obtain ⟨i, rfl, rfl⟩ := ofInt?_eq_some.1 h
  exact ⟨rfl, trivial⟩

theorem ofUInt?_rowValue {n : Int} {value : Literal} (h : ofUInt? n = some value) :
    value.rowValue = .integer n ∧ value.IsElementary := by
  obtain ⟨u, rfl, rfl⟩ := ofUInt?_eq_some.1 h
  exact ⟨rfl, trivial⟩

theorem ofResult?_rowValue {a b value : Literal} {n : Int} (h : ofResult? a b n = some value) :
    value.rowValue = .integer n ∧ value.IsElementary := by
  unfold ofResult? at h
  split at h
  · exact ofUInt?_rowValue h
  · exact ofInt?_rowValue h

/-- Two literals that can be compared on rows have an order, and it decides the comparison. -/
theorem compare?_rowValue {op : Comparison} {a b : Literal} {v : RowValue}
    (compared : RowValue.compare? op a.rowValue b.rowValue = some v) :
    ∃ order, compare? a b = some order ∧ equal? a b = some order.isEq ∧
      v = .bool (op.accepts order) := by
  cases a <;> cases b <;> simp only [rowValue, RowValue.compare?, reduceCtorEq,
    Option.some.injEq] at compared <;> subst compared <;>
    simp only [← Comparison.accepts_compare_int, ← Comparison.accepts_compare_bool] <;>
    exact ⟨_, rfl, rfl, rfl⟩

theorem compareWith?_rowValue {op : Comparison} {a b : Literal} {v : RowValue}
    (compared : RowValue.compare? op a.rowValue b.rowValue = some v) :
    ∃ truth, compareWith? op a b = some truth ∧ v = .bool truth := by
  obtain ⟨order, ordered, equal, rfl⟩ := compare?_rowValue compared
  refine ⟨_, ?_, rfl⟩
  cases op <;> simp [compareWith?, ordered, equal, Comparison.accepts]

/-- A literal compared with null is tested for null. -/
theorem compareWith?_null {op : Comparison} {a b : Literal} {v : RowValue}
    (tested : b = .null ∧ RowValue.testNull? op a.rowValue = some v ∨
      a = .null ∧ RowValue.testNull? op b.rowValue = some v) :
    ∃ truth, compareWith? op a b = some truth ∧ v = .bool truth := by
  rcases tested with ⟨rfl, tested⟩ | ⟨rfl, tested⟩
  · cases op <;> cases a <;>
      simp_all [compareWith?, equal?, RowValue.testNull?, rowValue, RowValue.isNull]
  · cases op <;> cases b <;>
      simp_all [compareWith?, equal?, RowValue.testNull?, rowValue, RowValue.isNull]

theorem integer?_of_rowValue {literal : Literal} {n : Int} (h : literal.rowValue = .integer n) :
    literal.integer? = some n := by
  cases literal <;> simp_all [rowValue, integer?]

theorem calculate?_rowValue {op : Calculation} {a b value : Literal} {v : RowValue}
    (folded : calculate? op a b = some value)
    (calculated : RowValue.calculate? op a.rowValue b.rowValue = some v) : value.rowValue = v := by
  obtain ⟨m, n, left, right, result⟩ : ∃ m n, a.rowValue = .integer m ∧ b.rowValue = .integer n ∧
      (op.onIntegers? m n).map .integer = some v := by
    revert calculated
    cases a.rowValue <;> cases b.rowValue <;> simp [RowValue.calculate?]
  rw [calculate?_integers op (integer?_of_rowValue left) (integer?_of_rowValue right)] at folded
  cases op <;> simp only [Calculation.onIntegers?, Option.map_some, Option.map_none,
    Option.some.injEq, reduceCtorEq] at result <;> subst result <;>
    exact (ofResult?_rowValue (by simpa [integerResult?] using folded)).1

theorem calculate?_elementary {op : Calculation} {a b value : Literal} (left : a.IsElementary)
    (right : b.IsElementary) (folded : calculate? op a b = some value) : value.IsElementary := by
  have integers : ∀ {m n : Int}, a.rowValue = .integer m → b.rowValue = .integer n →
      value.IsElementary := by
    intro m n isLeft isRight
    rw [calculate?_integers op (integer?_of_rowValue isLeft) (integer?_of_rowValue isRight)] at folded
    obtain ⟨k, -, fits⟩ := Option.bind_eq_some_iff.1 folded
    exact (ofResult?_rowValue fits).2
  cases a <;> simp only [IsElementary] at left <;> cases b <;> simp only [IsElementary] at right <;>
    first
    | exact integers rfl rfl
    | simp [calculate?, calculateNumbers?, isString, number?] at folded

theorem binary?_elementary {op : BinaryOp} {a b value : Literal} (left : a.IsElementary)
    (right : b.IsElementary) (folded : binary? op a b = some value) : value.IsElementary := by
  cases op with
  | comparison op =>
    obtain ⟨truth, -, rfl⟩ := Option.map_eq_some_iff.1 folded
    trivial
  | calculation op => exact calculate?_elementary left right folded
  | andAlso =>
    cases a <;> cases b <;> simp only [binary?, reduceCtorEq, Option.some.injEq] at folded
    exact folded ▸ trivial
  | orElse =>
    cases a <;> cases b <;> simp only [binary?, reduceCtorEq, Option.some.injEq] at folded
    exact folded ▸ trivial

theorem not?_rowValue {a value : Literal} (folded : unary? .not a = some value) :
    value.IsElementary ∧ RowValue.not? a.rowValue = some value.rowValue := by
  cases a <;> simp only [unary?, reduceCtorEq, Option.some.injEq] at folded
  subst folded
  exact ⟨trivial, rfl⟩

theorem negate?_rowValue {a value : Literal} (kind : a.IsElementary)
    (folded : unary? .negate a = some value) :
    value.IsElementary ∧ RowValue.negate? a.rowValue = some value.rowValue := by
  cases a with
  | int n =>
    obtain ⟨exact, elementary⟩ := ofInt?_rowValue folded
    exact ⟨elementary, by rw [exact]; rfl⟩
  | uint n =>
    simp only [unary?] at folded
    split at folded
    · obtain ⟨exact, elementary⟩ := ofInt?_rowValue folded
      exact ⟨elementary, by rw [exact]; rfl⟩
    · cases folded
  | float x => exact kind.elim
  | _ => simp [unary?] at folded

/-- Membership among integers is decided by their values. -/
theorem holds_eq_any {items : List Literal} {a : Literal} {n : Int}
    (written : AreIntegers items) (value : a.rowValue = .integer n) :
    holds items a = items.any fun item => item.integer? == some n := by
  rw [holds, Bool.eq_iff_iff, List.any_eq_true, List.any_eq_true]
  refine exists_congr fun item => and_congr_right fun mem => ?_
  obtain ⟨m, isInteger⟩ := Option.isSome_iff_exists.1 (written.integers item mem)
  have itemValue : item.rowValue = .integer m := by
    cases item <;> simp_all [integer?, rowValue]
  have compared : RowValue.compare? .equal item.rowValue a.rowValue =
      some (.bool (decide (m = n))) := by
    simp [itemValue, value, RowValue.compare?, Comparison.relates]
  obtain ⟨order, -, equal, truth⟩ := compare?_rowValue compared
  have decides : order.isEq = decide (m = n) := (RowValue.bool.inj truth).symm
  rw [equal, isInteger, decides]
  simp

end Literal

end PlanCompiler
