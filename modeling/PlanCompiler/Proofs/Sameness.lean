/-
# Proofs.Sameness -- what is written alike has the same value

The compiler compares drafts by how they are written (`Draft.same`).  On literals
this is coarser than equality, since `0.0` and `-0.0` are the same float, but what
it takes for the same has the same value on every row.
-/
import PlanCompiler.Proofs.DraftMeaning

namespace PlanCompiler

set_option autoImplicit false

namespace Literal

theorem same_rowValue {a b : Literal} (alike : same a b = true) : a.rowValue = b.rowValue := by
  cases a <;> cases b <;> simp_all [same, rowValue]

theorem same_integer? {a b : Literal} (alike : same a b = true) : a.integer? = b.integer? := by
  cases a <;> cases b <;> simp_all [same, integer?]

theorem sameItems_any {n : Int} : ∀ {as bs : List Literal}, sameItems as bs = true →
    (as.any fun item => item.integer? == some n) = bs.any fun item => item.integer? == some n
  | [], [], _ => rfl
  | a :: as, b :: bs, alike => by
    simp only [sameItems, Bool.and_eq_true] at alike
    simp only [List.any_cons, same_integer? alike.1, sameItems_any alike.2]
  | [], _ :: _, alike => by simp [sameItems] at alike
  | _ :: _, [], alike => by simp [sameItems] at alike

theorem sameItems_member? {as bs : List Literal} (alike : sameItems as bs = true) :
    RowValue.member? as = RowValue.member? bs := by
  funext value
  cases value <;> simp [RowValue.member?, sameItems_any alike]

end Literal

namespace Sql.Expression

variable (columns : Column → RowValue)

mutual

theorem same_meaning : ∀ (e e' : Expression), same e e' = true →
    meaning columns e = meaning columns e'
  | .column a, e', alike => by
    cases e' <;> simp_all [same, meaning]
  | .value a, e', alike => by
    cases e' with
    | value b => simp [meaning, Literal.same_rowValue (by simpa [same] using alike)]
    | _ => simp [same] at alike
  | .raw a, e', alike => by
    cases e' <;> simp_all [same, meaning]
  | .and a b, e', alike => by
    cases e' with
    | and c d =>
      simp only [same, Bool.and_eq_true] at alike
      simp only [meaning, same_meaning a c alike.1, same_meaning b d alike.2]
    | _ => simp [same] at alike
  | .or a b, e', alike => by
    cases e' with
    | or c d =>
      simp only [same, Bool.and_eq_true] at alike
      simp only [meaning, same_meaning a c alike.1, same_meaning b d alike.2]
    | _ => simp [same] at alike
  | .not a, e', alike => by
    cases e' with
    | not b =>
      simp only [same] at alike
      simp only [meaning, same_meaning a b alike]
    | _ => simp [same] at alike
  | .unary op a, e', alike => by
    cases e' with
    | unary op' b =>
      simp only [same, Bool.and_eq_true, decide_eq_true_eq] at alike
      obtain ⟨rfl, alike⟩ := alike
      cases op <;> simp only [meaning, same_meaning a b alike]
    | _ => simp [same] at alike
  | .binary op a b, e', alike => by
    cases e' with
    | binary op' c d =>
      simp only [same, Bool.and_eq_true, decide_eq_true_eq] at alike
      obtain ⟨⟨rfl, left⟩, right⟩ := alike
      cases op <;> simp only [meaning, same_meaning a c left, same_meaning b d right]
    | _ => simp [same] at alike
  | .inList a as, e', alike => by
    cases e' with
    | inList b bs =>
      simp only [same, Bool.and_eq_true] at alike
      simp only [meaning, same_meaning a b alike.1, allSame_meanings as bs alike.2]
    | _ => simp [same] at alike
  | .function f as, e', alike => by
    cases e' with
    | function g bs =>
      simp only [same, Bool.and_eq_true, decide_eq_true_eq] at alike
      obtain ⟨rfl, alike⟩ := alike
      cases f <;> simp only [meaning, allSame_meanings as bs alike]
    | _ => simp [same] at alike

theorem allSame_meanings : ∀ (as bs : List Expression), allSame as bs = true →
    meanings columns as = meanings columns bs
  | [], [], _ => rfl
  | a :: as, b :: bs, alike => by
    simp only [allSame, Bool.and_eq_true] at alike
    simp only [meanings, same_meaning a b alike.1, allSame_meanings as bs alike.2]
  | [], _ :: _, alike => by simp [allSame] at alike
  | _ :: _, [], alike => by simp [allSame] at alike

end

end Sql.Expression

namespace Draft

theorem same_isNull {a b : Draft} (alike : same a b = true) : a.isNull = b.isNull := by
  cases a <;> cases b <;> simp only [same, Bool.false_eq_true] at alike <;> try rfl
  rename_i x y
  cases x <;> cases y <;> simp_all [Literal.same, Term.isNull]

/-! ### What is written like a node is a node of the same kind -/

theorem same_binary {op : BinaryOp} {left right b : Draft}
    (alike : same (.binary op left right) b = true) :
    ∃ left' right', b = .binary op left' right' ∧ same left left' = true ∧
      same right right' = true := by
  cases b with
  | binary op' left' right' =>
    simp only [same, Bool.and_eq_true, decide_eq_true_eq] at alike
    obtain ⟨⟨rfl, inLeft⟩, inRight⟩ := alike
    exact ⟨left', right', rfl, inLeft, inRight⟩
  | _ => simp [same] at alike

theorem same_call {name : String} {target : Option Draft} {args : List Draft} {isStatic : Bool}
    {b : Draft} (alike : same (.call name target args isStatic) b = true) :
    ∃ target' args', b = .call name target' args' isStatic ∧ sameTarget target target' = true ∧
      sameArgs args args' = true := by
  cases b with
  | call name' target' args' isStatic' =>
    simp only [same, Bool.and_eq_true, decide_eq_true_eq, beq_iff_eq] at alike
    obtain ⟨⟨⟨rfl, inTarget⟩, inArgs⟩, rfl⟩ := alike
    exact ⟨target', args', rfl, inTarget, inArgs⟩
  | _ => simp [same] at alike

theorem sameTarget_some {a : Draft} {target : Option Draft}
    (alike : sameTarget (some a) target = true) : ∃ b, target = some b ∧ same a b = true := by
  cases target with
  | none => simp [sameTarget] at alike
  | some b => exact ⟨b, rfl, by simpa [sameTarget] using alike⟩

theorem sameTarget_none {target : Option Draft} (alike : sameTarget none target = true) :
    target = none := by
  cases target with
  | none => rfl
  | some b => simp [sameTarget] at alike

theorem sameArgs_cons {a : Draft} {as bs : List Draft} (alike : sameArgs (a :: as) bs = true) :
    ∃ b rest, bs = b :: rest ∧ same a b = true ∧ sameArgs as rest = true := by
  cases bs with
  | nil => simp [sameArgs] at alike
  | cons b rest => exact ⟨b, rest, rfl, by simpa [sameArgs] using alike⟩

theorem sameArgs_nil {bs : List Draft} (alike : sameArgs [] bs = true) : bs = [] := by
  cases bs with
  | nil => rfl
  | cons b rest => simp [sameArgs] at alike

theorem same_array {items : List Literal} {b : Draft}
    (alike : same (.literal (.array items)) b = true) :
    ∃ items', b = .literal (.array items') ∧ Literal.sameItems items items' = true := by
  cases b with
  | literal value =>
    cases value with
    | array items' => exact ⟨items', rfl, by simpa [same, Literal.same] using alike⟩
    | _ => simp [same, Literal.same] at alike
  | _ => simp [same] at alike

/-! ### Values -/

/-- An operator looks at the values of its operands, and at which of them is written null. -/
theorem same_binary_meaning {env : Environment} {columns : Sql.Column → RowValue} {op : BinaryOp}
    {left right b : Draft}
    (ofLeft : ∀ b, same left b = true → meaning env columns left = meaning env columns b)
    (ofRight : ∀ b, same right b = true → meaning env columns right = meaning env columns b)
    (alike : same (.binary op left right) b = true) :
    meaning env columns (.binary op left right) = meaning env columns b := by
  obtain ⟨left', right', rfl, inLeft, inRight⟩ := same_binary alike
  have leftValue := ofLeft _ inLeft
  have rightValue := ofRight _ inRight
  unfold meaning at leftValue rightValue
  cases op <;> simp only [meaning, Term.meaning, Term.comparisonMeaning, leftValue, rightValue,
    same_isNull inLeft, same_isNull inRight]

/-- Drafts that are written alike have the same value. -/
theorem same_meaning {env : Environment} {columns : Sql.Column → RowValue} {a : Draft}
    (elementary : Term.Elementary env.knows a) :
    ∀ b, same a b = true → meaning env columns a = meaning env columns b := by
  induction elementary with
  | leaf value =>
    intro b alike
    cases b with
    | leaf value' => exact Sql.Expression.same_meaning columns _ _ (by simpa [same] using alike)
    | _ => simp [same] at alike
  | field known =>
    intro b alike
    cases b with
    | field name' =>
      simp only [same, decide_eq_true_eq] at alike
      rw [alike]
    | _ => simp [same] at alike
  | literal kind =>
    intro b alike
    cases b with
    | literal value' =>
      simp only [same] at alike
      simp [meaning, Term.meaning, Literal.same_rowValue alike]
    | _ => simp [same] at alike
  | unary op _ ih =>
    intro b alike
    cases b with
    | unary op' operand' =>
      simp only [same, Bool.and_eq_true, decide_eq_true_eq] at alike
      obtain ⟨rfl, alike⟩ := alike
      have value := ih _ alike
      unfold meaning at value
      cases op <;> simp only [meaning, Term.meaning, value]
    | _ => simp [same] at alike
  | comparison _ _ _ ihLeft ihRight | calculation _ _ _ ihLeft ihRight | andAlso _ _ ihLeft ihRight
  | orElse _ _ ihLeft ihRight =>
    exact fun b alike => same_binary_meaning ihLeft ihRight alike
  | conditional _ _ _ test whenTrue whenFalse =>
    intro b alike
    cases b with
    | conditional test' whenTrue' whenFalse' =>
      simp only [same, Bool.and_eq_true] at alike
      obtain ⟨⟨inTest, inTrue⟩, inFalse⟩ := alike
      have testValue := test _ inTest
      have trueValue := whenTrue _ inTrue
      have falseValue := whenFalse _ inFalse
      unfold meaning at testValue trueValue falseValue
      simp only [meaning, Term.meaning, testValue, trueValue, falseValue]
    | _ => simp [same] at alike
  | membership isStatic method _ _ ih =>
    intro b alike
    obtain ⟨target', args', rfl, inTarget, inArgs⟩ := same_call alike
    obtain ⟨collection, rfl, inCollection⟩ := sameTarget_some inTarget
    obtain ⟨items', rfl, inItems⟩ := same_array inCollection
    obtain ⟨item', rest, rfl, inItem, inRest⟩ := sameArgs_cons inArgs
    cases sameArgs_nil inRest
    rw [meaning_membership method, meaning_membership method, ih _ inItem,
      Literal.sameItems_member? inItems]
  | staticMembership isStatic method _ _ ih =>
    intro b alike
    obtain ⟨target', args', rfl, inTarget, inArgs⟩ := same_call alike
    cases sameTarget_none inTarget
    obtain ⟨collection, args', rfl, inCollection, inRest⟩ := sameArgs_cons inArgs
    obtain ⟨items', rfl, inItems⟩ := same_array inCollection
    obtain ⟨item', rest, rfl, inItem, inNothing⟩ := sameArgs_cons inRest
    cases sameArgs_nil inNothing
    rw [meaning_staticMembership method, meaning_staticMembership method, ih _ inItem,
      Literal.sameItems_member? inItems]

end Draft

end PlanCompiler
