/-
# Proofs.LoweredText -- what putting a text into small letters keeps

Letters are lowered one by one, but for the capital sigma, which looks at what stands around
it.  So a part without one is lowered alike wherever it stands, and what occurs in a text
still occurs after both have been lowered (`lower_isInfix`).

No letter becomes a backtick, and a backtick stays one (`count_lower_backtick`).
-/
import PlanCompiler.Text.Casing

namespace PlanCompiler.Text

set_option autoImplicit false

/-! ## Backticks -/

/-- The small form of a letter beyond ASCII is far from the backtick, which is below the small
letters of ASCII. -/
theorem backtick_notMem_mapCode {code : Nat} (large : 0x80 ≤ code) :
    0x60 ∉ mapCode lowerExpansions lowerRuns code := by
  unfold mapCode
  split
  · rename_i codes expanded
    have isExpansion : codes = [0x69, 0x307] := by
      simp only [lowerExpansions, List.lookup_cons, List.lookup_nil] at expanded
      split at expanded <;> simp_all
    rw [isExpansion]
    decide
  · split
    · rename_i run found
      have above : ∀ run ∈ lowerRuns, 0x60 < (run.first : Int) + run.shift := by decide +kernel
      have covers := List.find?_some found
      have shifted := above run (List.mem_of_find?_eq_some found)
      simp only [Run.covers, Bool.and_eq_true, decide_eq_true_eq] at covers
      simp only [List.mem_singleton]
      omega
    · simp only [List.mem_singleton]
      omega

theorem toNat_eq_of_ofNat_eq_backtick {code : Nat} (same : Char.ofNat code = '\x60') :
    code = 0x60 := by
  by_cases valid : code.isValidChar
  · have isCode : Char.ofNat code = Char.ofNatAux code valid := dif_pos valid
    exact congrArg Char.toNat (isCode.symm.trans same)
  · have isDefault : Char.ofNat code = Char.ofNat 0 := dif_neg valid
    cases isDefault.symm.trans same

theorem count_lowerChar_backtick (c : Char) :
    (lowerChar c).count '\x60' = [c].count '\x60' := by
  unfold lowerChar
  split
  · rename_i small
    have ascii : ∀ code < 0x80,
        [(Char.ofNat code).toLower].count '\x60' = [Char.ofNat code].count '\x60' := by
      decide +kernel
    have here := ascii c.toNat small
    rwa [Char.ofNat_toNat] at here
  · rename_i large
    have other : c ≠ '\x60' := by
      rintro rfl
      exact large (by decide)
    rw [List.count_singleton, beq_false_of_ne other, List.count_eq_zero.2]
    · rfl
    intro mem
    obtain ⟨code, isCode, same⟩ := List.mem_map.1 mem
    rw [toNat_eq_of_ofNat_eq_backtick same] at isCode
    exact backtick_notMem_mapCode (Nat.le_of_not_lt large) isCode

theorem count_lowerAfter_backtick (text : List Char) :
    ∀ before, (lowerAfter before text).count '\x60' = text.count '\x60' := by
  induction text with
  | nil => exact fun _ => rfl
  | cons c rest ih =>
    intro before
    rw [lowerAfter, List.count_append, ih, ← List.singleton_append (l := rest), List.count_append]
    congr 1
    split
    · rename_i isSigma
      rw [isSigma]
      split <;> decide
    · exact count_lowerChar_backtick c

/-- A text has the same backticks in small letters. -/
theorem count_lower_backtick (text : List Char) :
    (lower text).count '\x60' = text.count '\x60' :=
  count_lowerAfter_backtick text []

/-! ## Parts of a text -/

theorem exists_lowerAfter_append (a b : List Char) :
    ∀ before, ∃ lowered,
      lowerAfter before (a ++ b) = lowered ++ lowerAfter (a.reverse ++ before) b := by
  induction a with
  | nil => exact fun _ => ⟨[], rfl⟩
  | cons c rest ih =>
    intro before
    obtain ⟨lowered, same⟩ := ih (c :: before)
    rw [List.cons_append, lowerAfter, same, ← List.append_assoc, List.reverse_cons,
      List.append_assoc rest.reverse]
    exact ⟨_, rfl⟩

/-- Without a capital sigma, what stands around a text does not matter. -/
theorem lowerAfter_append_of_notMem {a : List Char} (plain : capitalSigma ∉ a) (b : List Char) :
    ∀ before, lowerAfter before (a ++ b) =
      a.flatMap lowerChar ++ lowerAfter (a.reverse ++ before) b := by
  induction a with
  | nil => exact fun _ => rfl
  | cons c rest ih =>
    intro before
    rw [List.mem_cons, not_or] at plain
    rw [List.cons_append, lowerAfter, ih plain.2, if_neg (Ne.symm plain.1), List.flatMap_cons,
      List.append_assoc, List.reverse_cons, List.append_assoc rest.reverse]
    rfl

theorem lower_of_notMem {text : List Char} (plain : capitalSigma ∉ text) :
    lower text = text.flatMap lowerChar := by
  have whole := lowerAfter_append_of_notMem plain [] []
  rwa [List.append_nil, lowerAfter, List.append_nil] at whole

/-- Only the capitals of ASCII have another small form in it. -/
theorem lowerChar_of_not_isUpper {c : Char} (ascii : c.toNat < 0x80)
    (notUpper : c.isUpper = false) : lowerChar c = [c] := by
  have same : c.toLower = c := dif_neg (of_decide_eq_false notUpper)
  rw [lowerChar, if_pos ascii, same]

/-- What occurs in a text also does in small letters. -/
theorem lower_isInfix {part text : List Char} (plain : capitalSigma ∉ part)
    (occurs : part <:+: text) : lower part <:+: lower text := by
  obtain ⟨before, after, rfl⟩ := occurs
  obtain ⟨lowered, same⟩ := exists_lowerAfter_append before (part ++ after) []
  rw [lowerAfter_append_of_notMem plain] at same
  refine ⟨lowered, lowerAfter (part.reverse ++ (before.reverse ++ [])) after, ?_⟩
  rw [lower_of_notMem plain, List.append_assoc, List.append_assoc, lower, same]

/-- A capital sigma becomes one of the two small ones. -/
theorem capitalSigma_notMem_of_lower {text : List Char} (noSigma : smallSigma ∉ lower text)
    (noFinal : finalSigma ∉ lower text) : capitalSigma ∉ text := by
  intro mem
  obtain ⟨before, after, rfl⟩ := List.append_of_mem mem
  obtain ⟨lowered, same⟩ := exists_lowerAfter_append before (capitalSigma :: after) []
  rw [lower, same, lowerAfter, if_pos rfl] at noSigma noFinal
  split at noSigma <;> simp_all

end PlanCompiler.Text
