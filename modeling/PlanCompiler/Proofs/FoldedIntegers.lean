/-
# Proofs.FoldedIntegers -- integers are folded exactly or not at all

A calculation on two integer literals folds to a literal exactly if it has a result in the
integers, and the kind of literal that the operands give holds that result; otherwise it stays
as it is (`Term.fold_integers`).  The 128 bits in between take nothing away: they have the
result wherever a literal does.
-/
import PlanCompiler.Proofs.ExactIntegers
import PlanCompiler.Proofs.FoldedTerms

namespace PlanCompiler

set_option autoImplicit false

namespace Literal

variable {a b value : Literal} {m n : Int}

theorem calculate?_eq_some (op : Calculation) (left : a.integer? = some m)
    (right : b.integer? = some n) :
    calculate? op a b = some value ↔
      ∃ r, integerResult? op m n = some r ∧ IsResult a b r value := by
  rw [calculate?_integers op left right, Option.bind_eq_some_iff]
  exact exists_congr fun r => and_congr_right fun _ => ofResult?_eq_some

/-- The negation of an integer is a signed one, and never the smallest. -/
theorem negate?_eq_some (isInteger : a.integer? = some m) :
    unary? .negate a = some value ↔
      ∃ i : Int64, value = .int i ∧ i.toInt = -m ∧ i ≠ Int64.minValue := by
  have isMin (i : Int64) : i = Int64.minValue ↔ i.toInt = -9223372036854775808 :=
    Int64.toInt_inj.symm
  simp only [Ne, isMin]
  cases a with
  | int x =>
    cases isInteger
    have high := Int64.toInt_lt x
    rw [unary?, ofInt?_eq_some]
    constructor
    · rintro ⟨i, rfl, negated⟩
      exact ⟨i, rfl, negated, by omega⟩
    · rintro ⟨i, rfl, negated, -⟩
      exact ⟨i, rfl, negated⟩
  | uint x =>
    cases isInteger
    rw [unary?, Nat.pow_eq, Option.ite_none_right_eq_some, ofInt?_eq_some]
    constructor
    · rintro ⟨small, i, rfl, negated⟩
      exact ⟨i, rfl, negated, by omega⟩
    · rintro ⟨i, rfl, negated, notMin⟩
      have low := Int64.le_toInt i
      exact ⟨by omega, i, rfl, negated⟩
  | _ => cases isInteger

end Literal

namespace Term

variable {Leaf : Type}

open Literal (integerResult? IsResult)

theorem fold_calculation_eq_literal (op : Calculation) {a b value : Literal} :
    fold (.binary (.calculation op) (.literal a) (.literal b) : Term Leaf) = .literal value ↔
      Literal.calculate? op a b = some value :=
  foldStep_binary_eq_literal

theorem fold_calculation_eq_self (op : Calculation) {a b : Literal}
    (undecided : Literal.calculate? op a b = none) :
    fold (.binary (.calculation op) (.literal a) (.literal b) : Term Leaf) =
      .binary (.calculation op) (.literal a) (.literal b) :=
  foldStep_of_undecided (t := .binary (.calculation op) (.literal a) (.literal b)) undecided

/-- **Integers are folded exactly or not at all.**  A calculation on integer literals becomes the
literal of its exact result, in the unsigned kind if both operands are unsigned and else in the
signed kind, if there is such a literal, and stays as it is otherwise.  In 128 bits it has every
result that they hold, and no other, and so every result that there is a literal for.  Negation
folds to the exact negation, of all integers that are smaller than `2 ^ 63` on either side. -/
theorem fold_integers (op : Calculation) {a b : Literal} {m n : Int} (left : a.integer? = some m)
    (right : b.integer? = some n) :
    (∀ value, fold (.binary (.calculation op) (.literal a) (.literal b) : Term Leaf) =
        .literal value ↔ ∃ r, integerResult? op m n = some r ∧ IsResult a b r value) ∧
      ((¬ ∃ r value, integerResult? op m n = some r ∧ IsResult a b r value) →
        fold (.binary (.calculation op) (.literal a) (.literal b) : Term Leaf) =
          .binary (.calculation op) (.literal a) (.literal b)) ∧
      (∀ wide, Wide.calculate? op (.ofInt m) (.ofInt n) = some wide ↔
        integerResult? op m n = some wide.toInt) ∧
      (∀ r value, integerResult? op m n = some r → IsResult a b r value →
        ∃ wide, Wide.calculate? op (.ofInt m) (.ofInt n) = some wide ∧ wide.toInt = r) ∧
      ∀ value, fold (.unary .negate (.literal a) : Term Leaf) = .literal value ↔
        ∃ i : Int64, value = .int i ∧ i.toInt = -m ∧ i ≠ Int64.minValue := by
  refine ⟨fun value => ?_, fun noResult => ?_, fun wide => ?_, fun r value exact isResult => ?_,
    fun value => ?_⟩
  · rw [fold_calculation_eq_literal, Literal.calculate?_eq_some op left right]
  · refine fold_calculation_eq_self op (Option.eq_none_iff_forall_ne_some.2 fun value decided => ?_)
    obtain ⟨r, exact, isResult⟩ := (Literal.calculate?_eq_some op left right).1 decided
    exact noResult ⟨r, value, exact, isResult⟩
  · exact Literal.wide_calculate?_eq_some op left right
  · obtain ⟨wide, rfl⟩ := Literal.exists_wide_of_isResult isResult
    exact ⟨wide, (Literal.wide_calculate?_eq_some op left right).2 exact, rfl⟩
  · rw [fold_unary]
    exact foldStep_unary_eq_literal.trans (Literal.negate?_eq_some left)

/-- The largest unsigned integer times itself does not even fit in 128 bits. -/
theorem fold_largest_product :
    fold (.binary (.calculation .multiply) (.literal (.uint 18446744073709551615))
        (.literal (.uint 18446744073709551615)) : Term Unit) =
      .binary (.calculation .multiply) (.literal (.uint 18446744073709551615))
        (.literal (.uint 18446744073709551615)) := by
  refine (fold_integers .multiply (a := .uint 18446744073709551615)
    (b := .uint 18446744073709551615) rfl rfl).2.1 ?_
  rintro ⟨r, value, exact, u, -, isResult⟩
  have product : 18446744073709551615 * 18446744073709551615 = r := Option.some.inj exact
  have high := UInt64.toNat_lt u
  omega

end Term

end PlanCompiler
