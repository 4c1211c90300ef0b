/-
# Proofs.NarrowedDrafts -- drafts that compile to no more than others

`Narrows` says of two drafts that the second compiles wherever the first does, to SQL that the
SQL of the first covers, and that literals stay as they are.

It is a congruence, although operators look at what their operands are.  An operand that becomes
a null turns a comparison into a null test, which is covered by the comparison
(`Narrows.comparison`).  And an operand of a call compiles before and after, and so is no
collection, or is the same collection (`Narrows.call`).
-/
import PlanCompiler.Proofs.CoveredExpressions
import PlanCompiler.Proofs.GeneratedExpression
import PlanCompiler.Proofs.ReducedDrafts
import PlanCompiler.Proofs.SimplifiedValue

namespace PlanCompiler

set_option autoImplicit false

namespace Draft

open Term (Reveals)
open Sql.Expression (Covers covers_operands covers_isCongruence)

variable {env : Environment} {name : String} {target : Option Draft} {args : List Draft}
  {isStatic : Bool}

/-- The draft compiles, to SQL that the expression covers. -/
def CompilesWithin (env : Environment) (whole : Sql.Expression) (draft : Draft) : Prop :=
  ∃ e, expression env draft = .ok e ∧ Covers whole e

/-- Literals stay as they are, and what compiles still does, to SQL that is covered. -/
structure Narrows (env : Environment) (before after : Draft) : Prop where
  literal : Reveals before after
  sql : ∀ whole, expression env before = .ok whole → CompilesWithin env whole after

/-! ## What compiles -/

theorem expression_literal_eq_ok {value : Literal} {sql : Sql.Expression} :
    expression env (.literal value) = .ok sql ↔ value.isArray = false ∧ sql = .value value := by
  cases value <;> simp [expression, Literal.isArray, eq_comm]

/-- What covers the SQL of a literal covers its value. -/
theorem covers_literal {value : Literal} {whole : Sql.Expression}
    (within : CompilesWithin env whole (.literal value)) : Covers whole (.value value) := by
  obtain ⟨e, compiled, covers⟩ := within
  obtain ⟨-, rfl⟩ := expression_literal_eq_ok.1 compiled
  exact covers

theorem within_of_unary {op : Sql.UnaryOperator} {draft : Draft} {whole : Sql.Expression}
    (compiled : Sql.Expression.unary op <$> expression env draft = .ok whole) :
    CompilesWithin env whole draft := by
  obtain ⟨e, isOperand, rfl⟩ := Except.map_eq_ok.1 compiled
  exact ⟨e, isOperand, .unary_whole op e⟩

theorem expression_unary_covers {op : UnaryOp} {operand : Draft} {whole : Sql.Expression}
    (compiled : expression env (.unary op operand) = .ok whole) :
    CompilesWithin env whole operand := by
  cases op with
  | negate => exact within_of_unary compiled
  | not =>
    obtain ⟨e, isOperand, rfl⟩ := Except.map_eq_ok.1 compiled
    exact ⟨e, isOperand, .not_whole e⟩

/-- What two operands are put together to covers both. -/
theorem both_cover {combine : Sql.Expression → Sql.Expression → Sql.Expression}
    (covers : ∀ a b, Covers (combine a b) a ∧ Covers (combine a b) b) {left right : Draft}
    {whole : Sql.Expression}
    (compiled : (do return combine (← expression env left) (← expression env right)) =
      .ok whole) :
    CompilesWithin env whole left ∧ CompilesWithin env whole right := by
  obtain ⟨a, isLeft, compiled⟩ := Except.bind_eq_ok.1 compiled
  obtain ⟨b, isRight, same⟩ := Except.bind_eq_ok.1 compiled
  cases same
  exact ⟨⟨a, isLeft, (covers a b).1⟩, ⟨b, isRight, (covers a b).2⟩⟩

theorem expression_connective_covers {op : BinaryOp} (connective : op = .andAlso ∨ op = .orElse)
    {left right : Draft} {whole : Sql.Expression}
    (compiled : expression env (.binary op left right) = .ok whole) :
    CompilesWithin env whole left ∧ CompilesWithin env whole right := by
  rcases connective with rfl | rfl
  · exact both_cover (fun _ _ => covers_operands rfl rfl) compiled
  · exact both_cover (fun _ _ => covers_operands rfl rfl) compiled

theorem expression_comparison (op : Comparison) (left right : Draft) :
    expression env (.binary (.comparison op) left right) =
      match nullTest? op with
      | none => do
        return .binary (.comparison op) (← expression env left) (← expression env right)
      | some test =>
        if right.isNull then .unary test <$> expression env left
        else if left.isNull then .unary test <$> expression env right
        else do
          return .binary (.comparison op) (← expression env left) (← expression env right) := by
  rw [expression, nullCheck?]
  cases nullTest? op with
  | none => rfl
  | some test => cases right.isNull <;> cases left.isNull <;> rfl

/-- A comparison with null covers what is checked for null. -/
theorem expression_checked_covers {op : Comparison} {test : Sql.UnaryOperator}
    (isTest : nullTest? op = some test) {left right checked : Draft} {whole : Sql.Expression}
    (found : checkedForNull? left right = some checked)
    (compiled : expression env (.binary (.comparison op) left right) = .ok whole) :
    CompilesWithin env whole checked := by
  rw [expression_comparison, isTest] at compiled
  dsimp only at compiled
  unfold checkedForNull? at found
  split at found
  · rename_i rightNull
    cases found
    rw [if_pos rightNull] at compiled
    exact within_of_unary compiled
  · rename_i rightNotNull
    split at found <;> cases found
    rename_i leftNull
    rw [if_neg rightNotNull, if_pos leftNull] at compiled
    exact within_of_unary compiled

/-- A binary operation covers both operands, and a null test the one that it tests. -/
theorem expression_binary_covers {op : BinaryOp} {left right : Draft} {whole : Sql.Expression}
    (compiled : expression env (.binary op left right) = .ok whole) :
    CompilesWithin env whole left ∨ CompilesWithin env whole right := by
  cases op with
  | andAlso => exact .inl (expression_connective_covers (.inl rfl) compiled).1
  | orElse => exact .inl (expression_connective_covers (.inr rfl) compiled).1
  | calculation op => exact .inl (both_cover (fun _ _ => covers_operands rfl rfl) compiled).1
  | comparison op =>
    rw [expression_comparison] at compiled
    split at compiled
    · exact .inl (both_cover (fun _ _ => covers_operands rfl rfl) compiled).1
    · split at compiled
      · exact .inl (within_of_unary compiled)
      · split at compiled
        · exact .inr (within_of_unary compiled)
        · exact .inl (both_cover (fun _ _ => covers_operands rfl rfl) compiled).1

theorem expression_conditional_eq_ok {test whenTrue whenFalse : Draft} {sql : Sql.Expression} :
    expression env (.conditional test whenTrue whenFalse) = .ok sql ↔
      ∃ t a b, expression env test = .ok t ∧ expression env whenTrue = .ok a ∧
        expression env whenFalse = .ok b ∧ sql = .function .conditional [t, a, b] := by
  rw [expression]
  constructor
  · intro compiled
    obtain ⟨t, isTest, compiled⟩ := Except.bind_eq_ok.1 compiled
    obtain ⟨a, isTrue, compiled⟩ := Except.bind_eq_ok.1 compiled
    obtain ⟨b, isFalse, same⟩ := Except.bind_eq_ok.1 compiled
    cases same
    exact ⟨t, a, b, isTest, isTrue, isFalse, rfl⟩
  · rintro ⟨t, a, b, isTest, isTrue, isFalse, rfl⟩
    rw [isTest, isTrue, isFalse]
    rfl

/-- What compiles is no collection. -/
theorem items?_of_expression {draft : Draft} {sql : Sql.Expression}
    (compiled : expression env draft = .ok sql) : (operand env draft).items? = none := by
  cases draft with
  | literal value =>
    cases value with
    | array items => cases compiled
    | _ => rfl
  | _ => rfl

theorem eq_array_of_items? {draft : Draft} {items : List Literal}
    (isCollection : (operand env draft).items? = some items) : draft = .literal (.array items) := by
  unfold Operand.items? at isCollection
  split at isCollection
  · rename_i written
    cases isCollection
    exact written
  · cases isCollection

/-- The operands of a call that compiles do so themselves, but for the collection of a
membership test. -/
theorem expression_call_operands {whole : Sql.Expression}
    (compiled : expression env (.call name target args isStatic) = .ok whole) :
    (∀ a ∈ target.toList ++ args, CompilesWithin env whole a) ∨
      ∃ items item, target.toList ++ args = [.literal (.array items), item] ∧
        CompilesWithin env whole item := by
  have operands := (Sql.Expression.ofCall?_eq_ok (expression_call_eq_ok.1 compiled)).covers
  rw [Option.toList_map, ← List.map_append] at operands
  rcases operands with compile | ⟨collection, items, item, operands, isCollection, covers⟩
  · exact .inl fun a mem => compile (operand env a) (List.mem_map_of_mem mem)
  · obtain ⟨a, rest, areOperands, rfl, isRest⟩ := List.map_eq_cons_iff.1 operands
    obtain ⟨b, others, rfl, rfl, isNil⟩ := List.map_eq_cons_iff.1 isRest
    rw [List.map_eq_nil_iff.1 isNil, eq_array_of_items? isCollection] at areOperands
    exact .inr ⟨items, b, areOperands, covers⟩

namespace Narrows

theorem refl (draft : Draft) : Narrows env draft draft :=
  ⟨fun _ same => same, fun whole compiled => ⟨whole, compiled, .refl whole⟩⟩

/-- Of a draft that is no literal only what it compiles to matters. -/
theorem of_sql {before after : Draft} (notLiteral : before.literal? = none)
    (sql : ∀ whole, expression env before = .ok whole → CompilesWithin env whole after) :
    Narrows env before after where
  literal value same := by
    rw [same] at notLiteral
    cases notLiteral
  sql := sql

theorem trans {a b c : Draft} (first : Narrows env a b) (second : Narrows env b c) :
    Narrows env a c where
  literal value same := second.literal value (first.literal value same)
  sql whole compiled := by
    obtain ⟨middle, compiled, covers⟩ := first.sql whole compiled
    obtain ⟨part, compiled, covers'⟩ := second.sql middle compiled
    exact ⟨part, compiled, covers.trans covers'⟩

theorem isNull {before after : Draft} (narrows : Narrows env before after)
    (null : before.isNull = true) : after.isNull = true := by
  rw [narrows.literal _ (eq_null_of_isNull null)]
  rfl

/-! ## Operands -/

theorem unary (op : UnaryOp) {operand operand' : Draft} (inside : Narrows env operand operand') :
    Narrows env (.unary op operand) (.unary op operand') where
  literal := nofun
  sql whole compiled := by
    cases op with
    | not =>
      obtain ⟨e, isOperand, rfl⟩ := Except.map_eq_ok.1 compiled
      obtain ⟨part, isPart, covers⟩ := inside.sql e isOperand
      exact ⟨.not part, Except.map_eq_ok.2 ⟨part, isPart, rfl⟩, covers_isCongruence.not covers⟩
    | negate =>
      obtain ⟨e, isOperand, rfl⟩ := Except.map_eq_ok.1 compiled
      obtain ⟨part, isPart, covers⟩ := inside.sql e isOperand
      exact ⟨.unary .negate part, Except.map_eq_ok.2 ⟨part, isPart, rfl⟩,
        covers_isCongruence.unary _ covers⟩

/-- Two operands, put together by the same operator. -/
theorem both {combine : Sql.Expression → Sql.Expression → Sql.Expression}
    (congruence : ∀ {a b a' b'}, Covers a a' → Covers b b' →
      Covers (combine a b) (combine a' b'))
    {left left' right right' : Draft} (inLeft : Narrows env left left')
    (inRight : Narrows env right right') {whole : Sql.Expression}
    (compiled : (do return combine (← expression env left) (← expression env right)) =
      .ok whole) :
    ∃ part, (do return combine (← expression env left') (← expression env right')) = .ok part ∧
      Covers whole part := by
  obtain ⟨a, isLeft, compiled⟩ := Except.bind_eq_ok.1 compiled
  obtain ⟨b, isRight, same⟩ := Except.bind_eq_ok.1 compiled
  cases same
  obtain ⟨a', isLeft', coversLeft⟩ := inLeft.sql a isLeft
  obtain ⟨b', isRight', coversRight⟩ := inRight.sql b isRight
  exact ⟨combine a' b', Except.bind_eq_ok.2 ⟨a', isLeft', Except.bind_eq_ok.2 ⟨b', isRight', rfl⟩⟩,
    congruence coversLeft coversRight⟩

/-- The null test of an operand that compiles before. -/
theorem tested (test : Sql.UnaryOperator) {checked checked' : Draft} {whole : Sql.Expression}
    (narrows : Narrows env checked checked') (within : CompilesWithin env whole checked) :
    ∃ part, Sql.Expression.unary test <$> expression env checked' = .ok part ∧
      Covers whole part := by
  obtain ⟨e, isChecked, covers⟩ := within
  obtain ⟨part, isPart, inside⟩ := narrows.sql e isChecked
  exact ⟨.unary test part, Except.map_eq_ok.2 ⟨part, isPart, rfl⟩,
    (covers.trans inside).unary test⟩

/-- An operand that turns into a null makes the comparison a test of the other one.  Where both
are null then, the null that is tested counts as much as the one that was tested before. -/
theorem comparison (op : Comparison) {left left' right right' : Draft}
    (inLeft : Narrows env left left') (inRight : Narrows env right right') :
    Narrows env (.binary (.comparison op) left right) (.binary (.comparison op) left' right') where
  literal := nofun
  sql whole compiled := by
    unfold CompilesWithin
    rw [expression_comparison] at compiled ⊢
    generalize nullTest? op = isTest at compiled ⊢
    cases isTest with
    | none => exact both (covers_isCongruence.binary _) inLeft inRight compiled
    | some test =>
      dsimp only at compiled ⊢
      by_cases rightNull : right.isNull = true
      · -- the left side is tested
        rw [if_pos rightNull] at compiled
        rw [if_pos (inRight.isNull rightNull)]
        exact inLeft.tested test (within_of_unary compiled)
      rw [if_neg rightNull] at compiled
      by_cases leftNull : left.isNull = true
      · -- the right side is tested, unless it has become a null as well
        rw [if_pos leftNull] at compiled
        rw [if_pos (inLeft.isNull leftNull)]
        have tested := inRight.tested test (within_of_unary compiled)
        by_cases rightNull' : right'.isNull = true
        · rw [if_pos rightNull', eq_null_of_isNull (inLeft.isNull leftNull),
            ← eq_null_of_isNull rightNull']
          exact tested
        · rw [if_neg rightNull']
          exact tested
      · -- both sides are compared, unless one has become a null
        rw [if_neg leftNull] at compiled
        obtain ⟨withinLeft, withinRight⟩ :=
          both_cover (fun _ _ => covers_operands rfl rfl) compiled
        split
        · exact inLeft.tested test withinLeft
        · split
          · exact inRight.tested test withinRight
          · exact both (covers_isCongruence.binary _) inLeft inRight compiled

theorem binary (op : BinaryOp) {left left' right right' : Draft}
    (inLeft : Narrows env left left') (inRight : Narrows env right right') :
    Narrows env (.binary op left right) (.binary op left' right') := by
  cases op with
  | comparison op => exact comparison op inLeft inRight
  | calculation op =>
    exact ⟨nofun, fun _ => both (covers_isCongruence.binary _) inLeft inRight⟩
  | andAlso => exact ⟨nofun, fun _ => both covers_isCongruence.and inLeft inRight⟩
  | orElse => exact ⟨nofun, fun _ => both covers_isCongruence.or inLeft inRight⟩

theorem conditional {test test' whenTrue whenTrue' whenFalse whenFalse' : Draft}
    (inTest : Narrows env test test') (inTrue : Narrows env whenTrue whenTrue')
    (inFalse : Narrows env whenFalse whenFalse') :
    Narrows env (.conditional test whenTrue whenFalse)
      (.conditional test' whenTrue' whenFalse') where
  literal := nofun
  sql whole compiled := by
    obtain ⟨t, a, b, isTest, isTrue, isFalse, rfl⟩ := expression_conditional_eq_ok.1 compiled
    obtain ⟨t', isTest', coversTest⟩ := inTest.sql t isTest
    obtain ⟨a', isTrue', coversTrue⟩ := inTrue.sql a isTrue
    obtain ⟨b', isFalse', coversFalse⟩ := inFalse.sql b isFalse
    exact ⟨.function .conditional [t', a', b'],
      expression_conditional_eq_ok.2 ⟨t', a', b', isTest', isTrue', isFalse', rfl⟩,
      covers_isCongruence.function _
        (.cons coversTest (.cons coversTrue (.cons coversFalse .nil)))⟩

/-- An operand that compiles still does, and is no collection; and a collection stays as it is. -/
theorem operand_alike {before after : Draft} (narrows : Narrows env before after)
    (kind : (∃ e, expression env before = .ok e) ∨ ∃ items, before = .literal (.array items)) :
    (operand env before).Alike Covers (operand env after) := by
  rcases kind with ⟨e, compiled⟩ | ⟨items, rfl⟩
  · obtain ⟨part, isPart, covers⟩ := narrows.sql e compiled
    refine ⟨?_, ?_⟩
    · rw [items?_of_expression compiled, items?_of_expression isPart]
    · rw [operand, operand, compiled, isPart]
      exact .ok covers
  · rw [narrows.literal _ rfl]
    exact ⟨rfl, .error rfl⟩

/-- The operands of a call that compiles are values or collections, and stay what they are. -/
theorem call (name : String) (isStatic : Bool) {f : Draft → Draft} {target : Option Draft}
    {args : List Draft} (inTarget : ∀ t, target = some t → Narrows env t (f t))
    (inArgs : ∀ a ∈ args, Narrows env a (f a)) :
    Narrows env (.call name target args isStatic)
      (.call name (target.map f) (args.map f) isStatic) where
  literal := nofun
  sql whole compiled := by
    have narrows : ∀ a ∈ target.toList ++ args, Narrows env a (f a) :=
      List.forall_mem_append.2 ⟨fun t mem => inTarget t (Option.mem_toList.1 mem), inArgs⟩
    have alike : ∀ a ∈ target.toList ++ args,
        (operand env a).Alike Covers ((operand env ∘ f) a) := by
      intro a mem
      refine (narrows a mem).operand_alike ?_
      rcases expression_call_operands compiled with compile | ⟨items, item, operands, e, isItem, -⟩
      · obtain ⟨e, isOperand, -⟩ := compile a mem
        exact .inl ⟨e, isOperand⟩
      · rw [operands] at mem
        rcases List.mem_pair.1 mem with rfl | rfl
        · exact .inr ⟨items, rfl⟩
        · exact .inl ⟨e, isItem⟩
    obtain ⟨alikeTarget, alikeArgs⟩ := Alike.operands_related alike
    obtain ⟨part, isCall, covers⟩ := Sql.Expression.ofCall?_compiles covers_isCongruence
      alikeTarget alikeArgs (expression_call_eq_ok.1 compiled)
    refine ⟨part, ?_, covers⟩
    rw [expression_call_eq_ok, Option.map_map, List.map_map]
    exact isCall

/-- What every step narrows, the pass narrows. -/
theorem transform {step : Draft → Draft} (narrows : ∀ draft, Narrows env draft (step draft))
    (draft : Draft) : Narrows env draft (draft.transform step) := by
  induction draft using Term.induct with
  | leaf sql => exact narrows _
  | field name => exact narrows _
  | literal value => exact narrows _
  | unary op operand inside => exact (inside.unary op).trans (narrows _)
  | binary op left right inLeft inRight => exact (inLeft.binary op inRight).trans (narrows _)
  | conditional test whenTrue whenFalse inTest inTrue inFalse =>
    exact (inTest.conditional inTrue inFalse).trans (narrows _)
  | call name target args isStatic inTarget inArgs =>
    rw [Term.transform, Term.transformTarget_eq_map, Term.transformArgs_eq_map]
    exact (call name isStatic inTarget inArgs).trans (narrows _)

end Narrows

end Draft

end PlanCompiler
