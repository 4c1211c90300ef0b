/-
# Proofs.CoveredExpressions -- expressions that another one has the columns and values of

An expression covers another if it reads all columns of the other and binds at least as many
values.  It covers its parts, and covering is a congruence, so what is built from covered parts
is covered.

What a call compiles to covers what its operands compile to.  All of them compile, but for the
collection of a membership test (`OfCall.covers`).
-/
import PlanCompiler.Proofs.GeneratedExpression
import PlanCompiler.Proofs.RelatedOutcomes
import PlanCompiler.Proofs.WrittenPieces

namespace PlanCompiler

set_option autoImplicit false

namespace Sql.Expression

mutual

/-- The columns of an expression, from left to right. -/
def columns : Expression → List Column
  | .column source => [source]
  | .value _ | .raw _ => []
  | .and left right | .or left right | .binary _ left right => columns left ++ columns right
  | .not operand | .unary _ operand => columns operand
  | .inList item items => columns item ++ allColumns items
  | .function _ args => allColumns args

def allColumns : List Expression → List Column
  | [] => []
  | e :: rest => columns e ++ allColumns rest

end

/-- The second expression has no other columns than the first, and no more values. -/
structure Covers (whole part : Expression) : Prop where
  columns : part.columns ⊆ whole.columns
  values : part.leafValues.length ≤ whole.leafValues.length

namespace Covers

theorem refl (e : Expression) : Covers e e :=
  ⟨List.Subset.refl _, Nat.le_refl _⟩

theorem trans {a b c : Expression} (first : Covers a b) (second : Covers b c) : Covers a c :=
  ⟨List.Subset.trans second.columns first.columns, Nat.le_trans second.values first.values⟩

/-! ## Parts -/

/-- An operator adds neither columns nor values. -/
theorem unary {whole part : Expression} (op : UnaryOperator) (covers : Covers whole part) :
    Covers whole (.unary op part) :=
  ⟨covers.columns, covers.values⟩

theorem unary_whole (op : UnaryOperator) (e : Expression) : Covers (.unary op e) e :=
  ⟨List.Subset.refl _, Nat.le_refl _⟩

theorem not_whole (e : Expression) : Covers (.not e) e :=
  ⟨List.Subset.refl _, Nat.le_refl _⟩

/-- All values count the same. -/
theorem value {whole : Expression} {a : Literal} (b : Literal) (covers : Covers whole (.value a)) :
    Covers whole (.value b) :=
  ⟨covers.columns, covers.values⟩

end Covers

/-- An operation covers its two operands. -/
theorem covers_operands {whole left right : Expression}
    (columns : whole.columns = left.columns ++ right.columns)
    (values : whole.leafValues = left.leafValues ++ right.leafValues) :
    Covers whole left ∧ Covers whole right := by
  have length := congrArg List.length values
  rw [List.length_append] at length
  refine ⟨⟨?_, by omega⟩, ⟨?_, by omega⟩⟩ <;> rw [columns]
  · exact List.subset_append_left _ _
  · exact List.subset_append_right _ _

theorem inList_covers (item : Expression) (items : List Expression) :
    Covers (.inList item items) item := by
  refine ⟨List.subset_append_left _ _, ?_⟩
  simp only [leafValues, List.length_append]
  omega

theorem function_covers (f : Function) {args : List Expression} :
    ∀ e ∈ args, Covers (.function f args) e := by
  induction args with
  | nil => exact nofun
  | cons first rest ih =>
    refine List.forall_mem_cons.2 ⟨⟨List.subset_append_left _ _, ?_⟩, fun e mem =>
      ⟨List.Subset.trans (ih e mem).columns (List.subset_append_right _ _), ?_⟩⟩
    · simp only [leafValues, allLeafValues, List.length_append]
      omega
    · have values := (ih e mem).values
      simp only [leafValues, allLeafValues, List.length_append] at values ⊢
      omega

/-! ## Covering part by part -/

section

variable {a a' b b' : Expression}

theorem append_columns (left : Covers a a') (right : Covers b b') :
    a'.columns ++ b'.columns ⊆ a.columns ++ b.columns :=
  List.append_subset.2 ⟨List.subset_append_of_subset_left _ left.columns,
    List.subset_append_of_subset_right _ right.columns⟩

theorem append_values (left : Covers a a') (right : Covers b b') :
    (a'.leafValues ++ b'.leafValues).length ≤ (a.leafValues ++ b.leafValues).length := by
  rw [List.length_append, List.length_append]
  exact Nat.add_le_add left.values right.values

/-- What is covered element by element is covered altogether. -/
theorem all_covers {wholes parts : List Expression} (covers : List.Forall₂ Covers wholes parts) :
    allColumns parts ⊆ allColumns wholes ∧
      (allLeafValues parts).length ≤ (allLeafValues wholes).length := by
  induction covers with
  | nil => exact ⟨List.Subset.refl _, Nat.le_refl _⟩
  | cons first _ rest =>
    refine ⟨List.append_subset.2 ⟨List.subset_append_of_subset_left _ first.columns,
      List.subset_append_of_subset_right _ rest.1⟩, ?_⟩
    rw [allLeafValues, allLeafValues, List.length_append, List.length_append]
    exact Nat.add_le_add first.values rest.2

end

theorem covers_isCongruence : IsCongruence Covers where
  value _ := .refl _
  wildcard := .refl _
  and left right := ⟨append_columns left right, append_values left right⟩
  or left right := ⟨append_columns left right, append_values left right⟩
  not inside := ⟨inside.columns, inside.values⟩
  unary _ inside := ⟨inside.columns, inside.values⟩
  binary _ left right := ⟨append_columns left right, append_values left right⟩
  inList inItem inItems := by
    obtain ⟨columns, values⟩ := all_covers (.cons inItem inItems)
    exact ⟨columns, values⟩
  function _ inArgs := by
    obtain ⟨columns, values⟩ := all_covers inArgs
    exact ⟨columns, values⟩

/-! ## Calls -/

/-- The operand compiles, and the expression covers its SQL. -/
def CoversOperand (whole : Expression) (operand : Operand) : Prop :=
  ∃ e, operand.sql = .ok e ∧ Covers whole e

/-- The operands of a call that compiles do so themselves, but for the collection of a
membership test. -/
theorem OfCall.covers {operands : List Operand} {sql : Expression} (call : OfCall operands sql) :
    (∀ operand ∈ operands, CoversOperand sql operand) ∨
      ∃ collection items item, operands = [collection, item] ∧
        collection.items? = some items ∧ CoversOperand sql item := by
  cases call with
  | value compiles => exact .inl (List.forall_mem_singleton.2 ⟨_, compiles, .refl _⟩)
  | unaryFunction f compiles =>
    exact .inl (List.forall_mem_singleton.2 ⟨_, compiles, function_covers f _ (by simp)⟩)
  | generator => exact .inl nofun
  | @equality _ _ a b isLeft isRight =>
    obtain ⟨inLeft, inRight⟩ : Covers (.binary (.comparison .equal) a b) a ∧
        Covers (.binary (.comparison .equal) a b) b := covers_operands rfl rfl
    exact .inl (List.forall_mem_cons.2 ⟨⟨a, isLeft, inLeft⟩,
      List.forall_mem_singleton.2 ⟨b, isRight, inRight⟩⟩)
  | concat areParts =>
    refine .inl fun operand mem => ?_
    obtain ⟨e, isPart, compiles⟩ := Except.exists_result_of_mapM areParts operand mem
    exact ⟨e, compiles, function_covers .concat e isPart⟩
  | @like _ _ e p pattern isPattern isText isPart =>
    obtain ⟨inText, inPattern⟩ : Covers (.binary .like e (.function .concat pattern)) e ∧
        Covers (.binary .like e (.function .concat pattern)) (.function .concat pattern) :=
      covers_operands rfl rfl
    have within : p ∈ pattern := by
      simp only [List.mem_cons, List.not_mem_nil, or_false] at isPattern
      rcases isPattern with rfl | rfl | rfl <;> simp
    exact .inl (List.forall_mem_cons.2 ⟨⟨e, isText, inText⟩,
      List.forall_mem_singleton.2 ⟨p, isPart, inPattern.trans (function_covers .concat p within)⟩⟩)
  | @membership collection item items values e isCollection _ _ isItem =>
    exact .inr ⟨collection, items, item, rfl, isCollection, e, isItem, inList_covers e values⟩

end Sql.Expression

end PlanCompiler
