/-
# Text.Caseless -- names that differ only in the case of ASCII letters

Parameter and field names are compared ignoring the case of the letters `A` to
`Z` and of no others.  `sameName` is an equivalence because it compares a key.
-/

namespace PlanCompiler.Text

set_option autoImplicit false

/-- The form in which names are compared. -/
def caseKey (name : String) : List Char :=
  name.toList.map Char.toLower

def sameName (a b : String) : Bool :=
  caseKey a == caseKey b

theorem sameName_iff {a b : String} : sameName a b = true ↔ caseKey a = caseKey b := by
  simp [sameName]

@[simp] theorem sameName_refl (a : String) : sameName a a = true := by simp [sameName]

theorem sameName_comm (a b : String) : sameName a b = sameName b a := by
  rw [Bool.eq_iff_iff, sameName_iff, sameName_iff, eq_comm]

theorem sameName_trans {a b c : String} (ab : sameName a b = true) (bc : sameName b c = true) :
    sameName a c = true := by
  rw [sameName_iff] at *
  exact ab.trans bc

end PlanCompiler.Text
