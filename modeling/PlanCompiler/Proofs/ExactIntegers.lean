/-
# Proofs.ExactIntegers -- calculations in 128 bits and in the integers

`integerResult?` is a calculation in the integers, where nothing overflows.  In 128 bits the
same calculation has the same result, exactly as long as 128 bits hold it
(`Wide.calculate?_eq_some`).  What is lost by that has no literal anyway: the operands are
integers of 64 bits, and so has to be the result (`Literal.calculate?_integers`).
-/
import PlanCompiler.Literal.Evaluate
import PlanCompiler.Proofs.RowValue

namespace PlanCompiler

set_option autoImplicit false

namespace Literal

/-- The exact result of a calculation. -/
def integerResult? (op : Calculation) (left right : Int) : Option Int :=
  match op with
  | .add => some (left + right)
  | .subtract => some (left - right)
  | .multiply => some (left * right)
  | .divide => if right = 0 then none else some (left.tdiv right)
  | .modulo => if right = 0 then none else some (left.tmod right)

end Literal

namespace Wide

open Literal (integerResult?)

variable {left right result : Wide}

/-! ## One operation -/

theorem checked_eq_some {overflows : Bool} {value : Wide} :
    checked overflows value = some result ↔ overflows = false ∧ value = result := by
  cases overflows <;> simp [checked]

/-- If an operation is exact where it does not overflow, and overflows only where 128 bits cannot
hold the exact result, then it gives the exact result wherever they can. -/
theorem checked_eq_some_iff {overflows : Bool} {value : Wide} {exact : Int}
    (isExact : overflows = false → value.toInt = exact)
    (holds : exact = result.toInt → overflows = false) :
    checked overflows value = some result ↔ exact = result.toInt := by
  rw [checked_eq_some]
  constructor
  · rintro ⟨fits, rfl⟩
    exact (isExact fits).symm
  · intro same
    have fits := holds same
    exact ⟨fits, BitVec.eq_of_toInt_eq ((isExact fits).trans same)⟩

/-- What 128 bits hold lies within `2 ^ 127` on either side. -/
theorem inRange_of_eq {exact : Int} (same : exact = result.toInt) :
    exact < 170141183460469231731687303715884105728 ∧
      -170141183460469231731687303715884105728 ≤ exact :=
  same ▸ ⟨BitVec.toInt_lt, BitVec.le_toInt result⟩

theorem saddOverflow_of_eq (same : left.toInt + right.toInt = result.toInt) :
    left.saddOverflow right = false := by
  simp [BitVec.saddOverflow, inRange_of_eq same]

theorem ssubOverflow_of_eq (same : left.toInt - right.toInt = result.toInt) :
    left.ssubOverflow right = false := by
  simp [BitVec.ssubOverflow, inRange_of_eq same]

theorem smulOverflow_of_eq (same : left.toInt * right.toInt = result.toInt) :
    left.smulOverflow right = false := by
  simp [BitVec.smulOverflow, inRange_of_eq same]

/-- All integers but the smallest can be divided by all but zero. -/
theorem divides_eq (inner : left ≠ BitVec.intMin 128) :
    divides left right = decide (right.toInt ≠ 0) := by
  have notMin : (left != BitVec.intMin 128) = true := bne_iff_ne.2 inner
  have zero : right.toInt = 0 ↔ right = 0 := by
    rw [← BitVec.toInt_inj]
    rfl
  rw [divides, notMin, Bool.true_or, Bool.and_true, Bool.eq_iff_iff, bne_iff_ne,
    decide_eq_true_iff, Ne, Ne, zero]

/-! ## All operations -/

/-- A calculation in 128 bits has the exact result, if that is an integer of 128 bits. -/
theorem calculate?_eq_some {op : Calculation} (inner : left ≠ BitVec.intMin 128) :
    calculate? op left right = some result ↔
      integerResult? op left.toInt right.toInt = some result.toInt := by
  cases op with
  | add =>
    rw [calculate?, integerResult?, Option.some.injEq]
    refine checked_eq_some_iff (fun fits => ?_) saddOverflow_of_eq
    exact BitVec.toInt_add_of_not_saddOverflow (by simp [fits])
  | subtract =>
    rw [calculate?, integerResult?, Option.some.injEq]
    refine checked_eq_some_iff (fun fits => ?_) ssubOverflow_of_eq
    exact BitVec.toInt_sub_of_not_ssubOverflow (by simp [fits])
  | multiply =>
    rw [calculate?, integerResult?, Option.some.injEq]
    refine checked_eq_some_iff (fun fits => ?_) smulOverflow_of_eq
    exact BitVec.toInt_mul_of_not_smulOverflow (by simp [fits])
  | divide =>
    rw [calculate?, integerResult?, divides_eq inner]
    by_cases zero : right.toInt = 0
    · simp [zero, checked]
    · rw [if_neg zero, Option.some.injEq]
      refine checked_eq_some_iff (fun _ => ?_) (fun _ => by simp [zero])
      exact BitVec.toInt_sdiv_of_ne_or_ne left right (.inl inner)
  | modulo =>
    rw [calculate?, integerResult?, divides_eq inner]
    by_cases zero : right.toInt = 0
    · simp [zero, checked]
    · rw [if_neg zero, Option.some.injEq]
      exact checked_eq_some_iff (fun _ => BitVec.toInt_srem left right) (fun _ => by simp [zero])

end Wide

namespace Literal

variable {a b value : Literal} {m n r : Int}

/-! ## Literals -/

/-- An integer as a literal of the kind that these operands give: unsigned if both are, and signed
otherwise. -/
def IsResult : Literal → Literal → Int → Literal → Prop
  | .uint _, .uint _, r, value => ∃ u : UInt64, value = .uint u ∧ (u.toNat : Int) = r
  | _, _, r, value => ∃ i : Int64, value = .int i ∧ i.toInt = r

theorem ofInt?_eq_some :
    ofInt? r = some value ↔ ∃ i : Int64, value = .int i ∧ i.toInt = r := by
  unfold ofInt?
  rw [Nat.pow_eq, Option.ite_none_right_eq_some, Option.some.injEq]
  constructor
  · rintro ⟨fits, rfl⟩
    exact ⟨_, rfl, Int64.toInt_ofInt_of_le (by omega) (by omega)⟩
  · rintro ⟨i, rfl, rfl⟩
    have low := Int64.le_toInt i
    have high := Int64.toInt_lt i
    exact ⟨⟨by omega, by omega⟩, by rw [Int64.ofInt_toInt]⟩

theorem ofUInt?_eq_some :
    ofUInt? r = some value ↔ ∃ u : UInt64, value = .uint u ∧ (u.toNat : Int) = r := by
  unfold ofUInt?
  rw [Nat.pow_eq, Option.ite_none_right_eq_some, Option.some.injEq]
  constructor
  · rintro ⟨⟨low, high⟩, rfl⟩
    refine ⟨_, rfl, ?_⟩
    rw [UInt64.toNat_ofNat_of_lt' (by simp [UInt64.size]; omega), Int.toNat_of_nonneg low]
  · rintro ⟨u, rfl, rfl⟩
    have high := UInt64.toNat_lt u
    exact ⟨⟨by omega, by omega⟩, by simp⟩

theorem ofResult?_eq_some : ofResult? a b r = some value ↔ IsResult a b r value := by
  cases a with
  | uint x =>
    cases b with
    | uint y => exact ofUInt?_eq_some
    | _ => exact ofInt?_eq_some
  | _ => exact ofInt?_eq_some

/-- An integer literal is a number, and no text. -/
theorem number?_of_integer? (isInteger : a.integer? = some n) :
    a.number? = some (.integer n) ∧ a.isString = false := by
  cases a <;> simp_all [integer?, number?, isString]

/-- Both kinds of integers stay within `2 ^ 64` on either side. -/
theorem inRange_of_integer? (isInteger : a.integer? = some n) :
    -18446744073709551616 ≤ n ∧ n < 18446744073709551616 := by
  cases a with
  | int i =>
    cases isInteger
    have low := Int64.le_toInt i
    have high := Int64.toInt_lt i
    omega
  | uint u =>
    cases isInteger
    have high := UInt64.toNat_lt u
    omega
  | _ => cases isInteger

theorem toInt_ofInt_of_inRange
    (inRange : -18446744073709551616 ≤ n ∧ n < 18446744073709551616) :
    (Wide.ofInt n).toInt = n :=
  BitVec.toInt_ofInt_eq_self (by decide) (by omega) (by omega)

/-- The operands of a calculation are far from the ends of 128 bits. -/
theorem ofInt_ne_intMin (isInteger : a.integer? = some n) :
    Wide.ofInt n ≠ BitVec.intMin 128 := by
  intro isMin
  have inRange := inRange_of_integer? isInteger
  have value := toInt_ofInt_of_inRange inRange
  rw [isMin, show (BitVec.intMin 128).toInt = -170141183460469231731687303715884105728 from rfl]
    at value
  omega

/-- All results that there are literals for fit in 128 bits. -/
theorem exists_wide_of_isResult (isResult : IsResult a b r value) :
    ∃ wide : Wide, wide.toInt = r := by
  have written : value.integer? = some r := by
    rw [← ofResult?_eq_some] at isResult
    unfold ofResult? at isResult
    split at isResult
    · obtain ⟨u, rfl, rfl⟩ := ofUInt?_eq_some.1 isResult
      rfl
    · obtain ⟨i, rfl, rfl⟩ := ofInt?_eq_some.1 isResult
      rfl
  exact ⟨_, toInt_ofInt_of_inRange (inRange_of_integer? written)⟩

/-- Integer literals are calculated with in 128 bits as they are in the integers. -/
theorem wide_calculate?_eq_some (op : Calculation) (left : a.integer? = some m)
    (right : b.integer? = some n) {wide : Wide} :
    Wide.calculate? op (.ofInt m) (.ofInt n) = some wide ↔
      integerResult? op m n = some wide.toInt := by
  rw [Wide.calculate?_eq_some (ofInt_ne_intMin left),
    toInt_ofInt_of_inRange (inRange_of_integer? left),
    toInt_ofInt_of_inRange (inRange_of_integer? right)]

/-- Two integer literals are calculated with exactly, or not at all. -/
theorem calculate?_integers (op : Calculation) (left : a.integer? = some m)
    (right : b.integer? = some n) :
    calculate? op a b = (integerResult? op m n).bind (ofResult? a b) := by
  obtain ⟨leftNumber, leftText⟩ := number?_of_integer? left
  obtain ⟨rightNumber, rightText⟩ := number?_of_integer? right
  have unfolded : calculate? op a b =
      (Wide.calculate? op (.ofInt m) (.ofInt n)).bind fun wide => ofResult? a b wide.toInt := by
    simp [calculate?, calculateNumbers?, leftNumber, leftText, rightNumber, rightText]
  apply Option.ext
  intro value
  rw [unfolded, Option.bind_eq_some_iff, Option.bind_eq_some_iff]
  constructor
  · rintro ⟨wide, calculated, result⟩
    exact ⟨wide.toInt, (wide_calculate?_eq_some op left right).1 calculated, result⟩
  · rintro ⟨r, exact, result⟩
    obtain ⟨wide, rfl⟩ := exists_wide_of_isResult (ofResult?_eq_some.1 result)
    exact ⟨wide, (wide_calculate?_eq_some op left right).2 exact, result⟩

end Literal

end PlanCompiler
