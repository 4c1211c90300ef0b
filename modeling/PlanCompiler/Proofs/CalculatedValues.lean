/-
# Proofs.CalculatedValues -- what a calculation is in the database and what it is folded to

The database calculates with fractions: its `/` is exact, and its `%` is what remains of the
dividend after the divisor has been taken away from it as often as it goes.  Folding stays
within the integers.  Both agree on `+`, `-`, `*` and `%`, and on a division that leaves no
remainder; any other division is folded to the quotient without its fraction
(`Arithmetic.fold_calculated`).
-/
import Mathlib.Data.Rat.Lemmas
import Mathlib.Tactic.NormNum
import PlanCompiler.Compile.Expression
import PlanCompiler.Proofs.FoldedIntegers

namespace PlanCompiler

set_option autoImplicit false

open Literal (integerResult?)

/-! ## Fractions -/

/-- A number without its fraction. -/
def truncate (x : ℚ) : Int :=
  x.num.tdiv x.den

theorem mul_tdiv_mul {c : Int} (notZero : c ≠ 0) (a b : Int) :
    (c * a).tdiv (c * b) = a.tdiv b := by
  rcases lt_or_gt_of_ne notZero with negative | positive
  · have opposite := Int.mul_tdiv_mul_of_pos a b (neg_pos.2 negative)
    rwa [neg_mul, neg_mul, Int.neg_tdiv, Int.tdiv_neg, neg_neg] at opposite
  · exact Int.mul_tdiv_mul_of_pos a b positive

/-- The quotient of two integers without its fraction. -/
theorem truncate_div (m n : Int) : truncate (m / n) = m.tdiv n := by
  by_cases zero : n = 0
  · simp [zero, truncate]
  · -- the fraction in lowest terms
    obtain ⟨c, isNum, isDen⟩ := Rat.exists_eq_mul_div_num_and_eq_mul_div_den m zero
    have notZero : c ≠ 0 := by
      rintro rfl
      rw [zero_mul] at isDen
      exact zero isDen
    calc truncate (m / n)
        = (c * (m / n : ℚ).num).tdiv (c * (m / n : ℚ).den) := (mul_tdiv_mul notZero _ _).symm
      _ = m.tdiv n := by rw [← isNum, ← isDen]

namespace Calculation

/-- A calculation with fractions, given what division is. -/
def onRationals? (divide : ℚ → ℚ → ℚ) (op : Calculation) (x y : ℚ) : Option ℚ :=
  match op with
  | .add => some (x + y)
  | .subtract => some (x - y)
  | .multiply => some (x * y)
  | .divide => if y = 0 then none else some (divide x y)
  | .modulo => if y = 0 then none else some (x - y * truncate (x / y))

/-- Calculations with fractions and with integers agree on integers, as long as division does. -/
theorem onRationals?_integers (divide : ℚ → ℚ → ℚ) (op : Calculation) {m n r : Int}
    (divides : op = .divide → n ≠ 0 → divide m n = m.tdiv n)
    (exact : integerResult? op m n = some r) : op.onRationals? divide m n = some (r : ℚ) := by
  cases op with
  | add => cases exact; simp [onRationals?]
  | subtract => cases exact; simp [onRationals?]
  | multiply => cases exact; simp [onRationals?]
  | divide =>
    rw [integerResult?, Option.ite_none_left_eq_some] at exact
    obtain ⟨notZero, quotient⟩ := exact
    cases quotient
    simp [onRationals?, notZero, divides rfl notZero]
  | modulo =>
    rw [integerResult?, Option.ite_none_left_eq_some] at exact
    obtain ⟨notZero, remainder⟩ := exact
    cases remainder
    simp [onRationals?, notZero, truncate_div, Int.tmod_def]

end Calculation

/-- The value of an expression of calculations, given what division is. -/
def Sql.Expression.calculated? (divide : ℚ → ℚ → ℚ) : Sql.Expression → Option ℚ
  | .value literal => literal.integer?.map fun n => (n : ℚ)
  | .binary (.calculation op) left right => do
    op.onRationals? divide (← left.calculated? divide) (← right.calculated? divide)
  | _ => none

/-! ## Trees of calculations -/

/-- Integers, and calculations with them. -/
inductive Arithmetic
  | number (value : Int64)
  | calculate (op : Calculation) (left right : Arithmetic)

namespace Arithmetic

def draft : Arithmetic → Draft
  | number value => .literal (.int value)
  | calculate op left right => .binary (.calculation op) left.draft right.draft

def sql : Arithmetic → Sql.Expression
  | number value => .value (.int value)
  | calculate op left right => .binary (.calculation op) left.sql right.sql

/-- The tree and all trees in it. -/
def parts : Arithmetic → List Arithmetic
  | number value => [number value]
  | calculate op left right => calculate op left right :: (left.parts ++ right.parts)

def FoldsTo (t : Arithmetic) (n : Int64) : Prop :=
  Term.fold t.draft = .literal (.int n)

theorem FoldsTo.unique {t : Arithmetic} {m n : Int64} (first : t.FoldsTo m)
    (second : t.FoldsTo n) : m = n := by
  cases first.symm.trans second
  rfl

theorem expression_draft (env : Environment) (t : Arithmetic) :
    t.draft.expression env = .ok t.sql := by
  induction t with
  | number value => rfl
  | calculate op left right inLeft inRight =>
    rw [draft, Draft.expression, inLeft, inRight]
    rfl

/-! ## Folding -/

/-- A calculation is folded if both operands are and it has a value on their literals. -/
theorem fold_calculate {op : Calculation} {left right : Arithmetic} {value : Literal} :
    Term.fold (calculate op left right).draft = .literal value ↔
      ∃ a b, Term.fold left.draft = .literal a ∧ Term.fold right.draft = .literal b ∧
        Literal.calculate? op a b = some value := by
  rw [draft, Term.fold_binary, Term.foldStep_binary_eq_literal, Term.binaryValue?_calculation]

/-- What a tree is folded to is a signed integer. -/
theorem foldsTo_of_literal {t : Arithmetic} {value : Literal}
    (folds : Term.fold t.draft = .literal value) : ∃ n, value = .int n ∧ t.FoldsTo n := by
  induction t generalizing value with
  | number n =>
    cases folds
    exact ⟨n, rfl, rfl⟩
  | calculate op left right inLeft inRight =>
    obtain ⟨a, b, leftFolds, rightFolds, calculated⟩ := fold_calculate.1 folds
    obtain ⟨m, rfl, -⟩ := inLeft leftFolds
    obtain ⟨n, rfl, -⟩ := inRight rightFolds
    obtain ⟨_, -, r, rfl, -⟩ := (Literal.calculate?_eq_some op rfl rfl).1 calculated
    exact ⟨r, rfl, folds⟩

/-- A calculation is folded to the exact result of what its operands are folded to. -/
theorem foldsTo_calculate {op : Calculation} {left right : Arithmetic} {r : Int64} :
    (calculate op left right).FoldsTo r ↔ ∃ m n : Int64, left.FoldsTo m ∧ right.FoldsTo n ∧
      integerResult? op m.toInt n.toInt = some r.toInt := by
  rw [FoldsTo, fold_calculate]
  constructor
  · rintro ⟨a, b, leftFolds, rightFolds, calculated⟩
    obtain ⟨m, rfl, leftFolds⟩ := foldsTo_of_literal leftFolds
    obtain ⟨n, rfl, rightFolds⟩ := foldsTo_of_literal rightFolds
    obtain ⟨_, exact, i, same, rfl⟩ := (Literal.calculate?_eq_some op rfl rfl).1 calculated
    cases same
    exact ⟨m, n, leftFolds, rightFolds, exact⟩
  · rintro ⟨m, n, leftFolds, rightFolds, exact⟩
    exact ⟨.int m, .int n, leftFolds, rightFolds,
      (Literal.calculate?_eq_some op rfl rfl).2 ⟨_, exact, r, rfl, rfl⟩⟩

theorem mem_parts_self (t : Arithmetic) : t ∈ t.parts := by
  cases t <;> simp [parts]

theorem forall_mem_parts_calculate {op : Calculation} {left right : Arithmetic}
    {told : Arithmetic → Prop} :
    (∀ part ∈ (calculate op left right).parts, told part) ↔ told (calculate op left right) ∧
      (∀ part ∈ left.parts, told part) ∧ ∀ part ∈ right.parts, told part := by
  rw [parts, List.forall_mem_cons, List.forall_mem_append]

/-! ## Division -/

/-- A division, if the tree is one, gives the quotient without its fraction. -/
def DividesBy (divide : ℚ → ℚ → ℚ) (t : Arithmetic) : Prop :=
  ∀ left right m n, t = calculate .divide left right → left.FoldsTo m → right.FoldsTo n →
    n.toInt ≠ 0 → divide m.toInt n.toInt = m.toInt.tdiv n.toInt

/-- A division, if the tree is one, leaves no remainder. -/
def DividesEvenly (t : Arithmetic) : Prop :=
  ∀ left right m n, t = calculate .divide left right → left.FoldsTo m → right.FoldsTo n →
    n.toInt ∣ m.toInt

/-- What a tree is folded to is its value, for any division that its divisions cannot tell from
the one of integers. -/
theorem calculated?_sql {divide : ℚ → ℚ → ℚ} {t : Arithmetic}
    (divides : ∀ part ∈ t.parts, part.DividesBy divide) {r : Int64} (folds : t.FoldsTo r) :
    t.sql.calculated? divide = some (r.toInt : ℚ) := by
  induction t generalizing r with
  | number value =>
    cases folds
    rfl
  | calculate op left right inLeft inRight =>
    obtain ⟨here, dividesLeft, dividesRight⟩ := forall_mem_parts_calculate.1 divides
    obtain ⟨m, n, leftFolds, rightFolds, exact⟩ := foldsTo_calculate.1 folds
    rw [sql, Sql.Expression.calculated?, inLeft dividesLeft leftFolds,
      inRight dividesRight rightFolds]
    refine Calculation.onRationals?_integers divide op ?_ exact
    rintro rfl notZero
    exact here left right m n rfl leftFolds rightFolds notZero

theorem dividesBy_truncate (t : Arithmetic) : t.DividesBy fun x y => truncate (x / y) := by
  intro _ _ m n _ _ _ _
  exact congrArg Int.cast (truncate_div m.toInt n.toInt)

theorem tdiv_eq_iff_dvd {m n : Int} (notZero : n ≠ 0) : (m / n : ℚ) = m.tdiv n ↔ n ∣ m := by
  have notZero' : (n : ℚ) ≠ 0 := Int.cast_ne_zero.2 notZero
  rw [div_eq_iff notZero']
  constructor
  · intro product
    refine ⟨m.tdiv n, ?_⟩
    rw [mul_comm]
    exact_mod_cast product
  · intro divides
    exact_mod_cast (Int.tdiv_mul_cancel divides).symm

theorem DividesEvenly.dividesBy {t : Arithmetic} (evenly : t.DividesEvenly) :
    t.DividesBy (· / ·) := by
  intro left right m n isDivision leftFolds rightFolds notZero
  exact (tdiv_eq_iff_dvd notZero).2 (evenly left right m n isDivision leftFolds rightFolds)

/-- What a tree is folded to is its value in the database. -/
def FoldsExactly (t : Arithmetic) : Prop :=
  ∀ n, t.FoldsTo n → t.sql.calculated? (· / ·) = some (n.toInt : ℚ)

/-- A division of what is folded exactly is folded exactly only if it leaves no remainder. -/
theorem dividesEvenly_of_foldsExactly {t : Arithmetic} {r : Int64} (folds : t.FoldsTo r)
    (exactly : ∀ part ∈ t.parts, part.FoldsExactly) : t.DividesEvenly := by
  rintro left right m n rfl leftFolds rightFolds
  obtain ⟨here, exactlyLeft, exactlyRight⟩ := forall_mem_parts_calculate.1 exactly
  have quotient := here r folds
  rw [sql, Sql.Expression.calculated?, exactlyLeft left left.mem_parts_self m leftFolds,
    exactlyRight right right.mem_parts_self n rightFolds] at quotient
  change (if (n.toInt : ℚ) = 0 then none else some ((m.toInt : ℚ) / n.toInt)) = _ at quotient
  obtain ⟨notZero, quotient⟩ := Option.ite_none_left_eq_some.1 quotient
  rw [Option.some.injEq, div_eq_iff notZero, mul_comm] at quotient
  exact ⟨r.toInt, by exact_mod_cast quotient⟩

/-- In a tree that is folded, everything is folded exactly if all divisions leave no remainder, and
only then. -/
theorem foldsExactly_iff {t : Arithmetic} {r : Int64} (folds : t.FoldsTo r) :
    (∀ part ∈ t.parts, part.FoldsExactly) ↔ ∀ part ∈ t.parts, part.DividesEvenly := by
  constructor
  · intro exactly
    induction t generalizing r with
    | number value =>
      simp only [parts, List.mem_singleton, forall_eq]
      exact nofun
    | calculate op left right inLeft inRight =>
      obtain ⟨m, n, leftFolds, rightFolds, -⟩ := foldsTo_calculate.1 folds
      obtain ⟨-, exactlyLeft, exactlyRight⟩ := forall_mem_parts_calculate.1 exactly
      exact forall_mem_parts_calculate.2 ⟨dividesEvenly_of_foldsExactly folds exactly,
        inLeft leftFolds exactlyLeft, inRight rightFolds exactlyRight⟩
  · intro evenly
    have exactly {t : Arithmetic} (evenly : ∀ part ∈ t.parts, part.DividesEvenly) :
        t.FoldsExactly :=
      fun _ folds => calculated?_sql (fun part mem => (evenly part mem).dividesBy) folds
    induction t generalizing r with
    | number value =>
      simp only [parts, List.mem_singleton, forall_eq]
      exact exactly evenly
    | calculate op left right inLeft inRight =>
      obtain ⟨m, n, leftFolds, rightFolds, -⟩ := foldsTo_calculate.1 folds
      obtain ⟨-, evenlyLeft, evenlyRight⟩ := forall_mem_parts_calculate.1 evenly
      exact forall_mem_parts_calculate.2 ⟨exactly evenly, inLeft leftFolds evenlyLeft,
        inRight rightFolds evenlyRight⟩

/-- **Calculations are folded to their value in the database, but for the fractions of quotients.**
A tree of calculations with signed integers that is folded to a literal is folded to the value of
its SQL with `/` rounded towards zero.  If no division in it leaves a remainder this is the exact
value of its SQL.  That all in it is folded exactly is the case only then. -/
theorem fold_calculated (env : Environment) (t : Arithmetic) {value : Literal}
    (folds : Term.fold t.draft = .literal value) :
    ∃ r : Int64, value = .int r ∧ t.draft.expression env = .ok t.sql ∧
      t.sql.calculated? (fun x y => truncate (x / y)) = some (r.toInt : ℚ) ∧
      ((∀ part ∈ t.parts, part.DividesEvenly) →
        t.sql.calculated? (· / ·) = some (r.toInt : ℚ)) ∧
      ((∀ part ∈ t.parts, part.FoldsExactly) ↔ ∀ part ∈ t.parts, part.DividesEvenly) := by
  obtain ⟨r, rfl, foldsTo⟩ := foldsTo_of_literal folds
  have truncated := calculated?_sql (fun part _ => part.dividesBy_truncate) foldsTo
  have exactly := foldsExactly_iff foldsTo
  refine ⟨r, rfl, expression_draft env t, truncated, fun evenly => ?_, exactly⟩
  exact exactly.2 evenly t t.mem_parts_self r foldsTo

/-- `(7 - 1) / 2 % -2` is `1`, and so it is in the database. -/
theorem fold_calculated_remainder :
    let half := calculate .divide (calculate .subtract (number 7) (number 1)) (number 2)
    let t := calculate .modulo half (number (-2))
    Term.fold t.draft = .literal (.int 1) ∧ (∀ part ∈ t.parts, part.DividesEvenly) ∧
      t.sql.calculated? (· / ·) = some 1 := by
  intro half t
  have six : (calculate .subtract (number 7) (number 1)).FoldsTo 6 :=
    foldsTo_calculate.2 ⟨7, 1, rfl, rfl, rfl⟩
  have three : half.FoldsTo 3 := foldsTo_calculate.2 ⟨6, 2, six, rfl, rfl⟩
  have folds : t.FoldsTo 1 := foldsTo_calculate.2 ⟨3, -2, three, rfl, rfl⟩
  have evenly : ∀ part ∈ t.parts, part.DividesEvenly := by
    simp only [t, half, parts, List.cons_append, List.nil_append, List.forall_mem_cons]
    refine ⟨nofun, ?_, nofun, nofun, nofun, nofun, nofun, nofun⟩
    rintro _ _ m n ⟨⟩ leftFolds rightFolds
    obtain rfl := six.unique leftFolds
    cases rightFolds
    decide
  obtain ⟨r, same, -, -, exact, -⟩ := fold_calculated ⟨.empty, .empty, true⟩ t folds
  refine ⟨folds, evenly, ?_⟩
  rw [exact evenly]
  cases same
  exact congrArg some Int.cast_one

/-- `7 / 2` is folded to `3`, and is three and a half in the database. -/
theorem fold_calculated_quotient :
    let t := calculate .divide (number 7) (number 2)
    Term.fold t.draft = .literal (.int 3) ∧ t.sql.calculated? (· / ·) = some (7 / 2) ∧
      ¬ ∀ (t : Arithmetic) (n : Int64), Term.fold t.draft = .literal (.int n) →
        t.sql.calculated? (· / ·) = some (n.toInt : ℚ) := by
  intro t
  have folds : t.FoldsTo 3 := foldsTo_calculate.2 ⟨7, 2, rfl, rfl, rfl⟩
  have exact : t.sql.calculated? (· / ·) = some (7 / 2) := by
    simp [t, sql, Sql.Expression.calculated?, Calculation.onRationals?, Literal.integer?]
  refine ⟨folds, exact, fun always => ?_⟩
  have three := always t 3 folds
  rw [exact, show Int64.toInt 3 = 3 from rfl] at three
  norm_num at three

end Arithmetic

end PlanCompiler
