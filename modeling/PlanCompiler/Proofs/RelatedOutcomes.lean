/-
# Proofs.RelatedOutcomes -- two compilations side by side

Two drafts are compiled alike if both compile, to expressions that are related, or both are
refused for reasons of one kind (`SameOutcome`).  Which expressions are related is a
parameter: equal ones, or ones of which the second reads no more than the first.  All that
is asked of the relation is that expressions with related parts are related
(`IsCongruence`).

What a call compiles to depends on its operands only through what they compile to and
through the collections among them (`ofCall?_related`), and so does every other node,
through the nulls among its operands (`Alike.binary` and its siblings).
-/
import Mathlib.Data.List.Forall2
import PlanCompiler.Compile.Expression
import PlanCompiler.Proofs.FoldedTerms

namespace PlanCompiler

set_option autoImplicit false

/-! ## Outcomes -/

/-- Errors of one kind, which may be about different parts. -/
def CompileError.SameKind (a b : CompileError) : Prop :=
  a.ctorIdx = b.ctorIdx

/-- Both succeed, with related results, or both fail, with errors of one kind. -/
inductive SameOutcome {α β : Type} (related : α → β → Prop) :
    Except CompileError α → Except CompileError β → Prop
  | ok {a : α} {b : β} (results : related a b) : SameOutcome related (.ok a) (.ok b)
  | error {e e' : CompileError} (errors : e.SameKind e') :
    SameOutcome related (.error e) (.error e')

namespace SameOutcome

variable {α β γ δ : Type} {related : α → β → Prop} {also : γ → δ → Prop}

theorem bind {x : Except CompileError α} {y : Except CompileError β}
    {f : α → Except CompileError γ} {g : β → Except CompileError δ}
    (first : SameOutcome related x y)
    (rest : ∀ a b, related a b → SameOutcome also (f a) (g b)) :
    SameOutcome also (x >>= f) (y >>= g) := by
  cases first with
  | ok results => exact rest _ _ results
  | error errors => exact .error errors

theorem map {x : Except CompileError α} {y : Except CompileError β} {f : α → γ} {g : β → δ}
    (inside : SameOutcome related x y) (results : ∀ a b, related a b → also (f a) (g b)) :
    SameOutcome also (f <$> x) (g <$> y) := by
  cases inside with
  | ok inside => exact .ok (results _ _ inside)
  | error errors => exact .error errors

theorem mapM {f : γ → Except CompileError α} {g : δ → Except CompileError β} {as : List γ}
    {bs : List δ} (each : List.Forall₂ (fun a b => SameOutcome related (f a) (g b)) as bs) :
    SameOutcome (List.Forall₂ related) (as.mapM f) (bs.mapM g) := by
  induction each with
  | nil => exact .ok .nil
  | cons first _ ih =>
    rw [List.mapM_cons, List.mapM_cons]
    exact first.bind fun _ _ head => ih.bind fun _ _ tail => .ok (.cons head tail)

end SameOutcome

/-! ## Related expressions -/

namespace Sql.Expression

/-- Values are related to themselves, and so are expressions with related parts. -/
structure IsCongruence (related : Expression → Expression → Prop) : Prop where
  value (literal : Literal) : related (.value literal) (.value literal)
  wildcard : related wildcard wildcard
  and {a b a' b' : Expression} (left : related a a') (right : related b b') :
    related (.and a b) (.and a' b')
  or {a b a' b' : Expression} (left : related a a') (right : related b b') :
    related (.or a b) (.or a' b')
  not {a a' : Expression} (inside : related a a') : related (.not a) (.not a')
  unary {a a' : Expression} (op : UnaryOperator) (inside : related a a') :
    related (.unary op a) (.unary op a')
  binary {a b a' b' : Expression} (op : Operator) (left : related a a') (right : related b b') :
    related (.binary op a b) (.binary op a' b')
  inList {a a' : Expression} {items items' : List Expression} (item : related a a')
    (inItems : List.Forall₂ related items items') : related (.inList a items) (.inList a' items')
  function {args args' : List Expression} (f : Function)
    (inArgs : List.Forall₂ related args args') : related (.function f args) (.function f args')

end Sql.Expression

/-- The operands are the same collection, or none is one; and they compile alike. -/
structure Operand.Alike (related : Sql.Expression → Sql.Expression → Prop)
    (before after : Operand) : Prop where
  items : before.items? = after.items?
  sql : SameOutcome related before.sql after.sql

namespace Sql.Expression

variable {related : Expression → Expression → Prop}

theorem ofItem_related (congruence : IsCongruence related) (item : Literal) :
    SameOutcome related (ofItem item) (ofItem item) := by
  cases item with
  | array items => exact .error rfl
  | _ => exact .ok (congruence.value _)

theorem ofMembership_related (congruence : IsCongruence related) (name : String)
    (items : List Literal) {item item' : Operand} (inItem : item.Alike related item') :
    SameOutcome related (ofMembership name items item) (ofMembership name items item') := by
  cases items with
  | nil => exact .error rfl
  | cons first rest =>
    have values : SameOutcome (List.Forall₂ related) ((first :: rest).mapM ofItem)
        ((first :: rest).mapM ofItem) :=
      .mapM (List.forall₂_same.2 fun item _ => ofItem_related congruence item)
    exact values.bind fun _ _ areItems => inItem.sql.bind fun _ _ isItem =>
      .ok (congruence.inList isItem areItems)

theorem like_related (congruence : IsCongruence related) {text text' : Operand}
    {pattern pattern' : List Expression} (inText : text.Alike related text')
    (inPattern : List.Forall₂ related pattern pattern') :
    SameOutcome related (like text pattern) (like text' pattern') :=
  inText.sql.bind fun _ _ isText =>
    .ok (congruence.binary _ isText (congruence.function _ inPattern))

theorem unaryFunction_related (congruence : IsCongruence related) (f : Function)
    {operand operand' : Operand} (inside : operand.Alike related operand') :
    SameOutcome related (unaryFunction f operand) (unaryFunction f operand') :=
  inside.sql.bind fun _ _ isOperand => .ok (congruence.function _ (.cons isOperand .nil))

theorem equality_related (congruence : IsCongruence related) {left left' right right' : Operand}
    (inLeft : left.Alike related left') (inRight : right.Alike related right') :
    SameOutcome related (equality left right) (equality left' right') :=
  inLeft.sql.bind fun _ _ isLeft => inRight.sql.bind fun _ _ isRight =>
    .ok (congruence.binary _ isLeft isRight)

/-- Membership tests are about the same collection, and about items that are alike. -/
theorem membership?_related {target target' : Option Operand} {args args' : List Operand}
    (inTarget : Option.Rel (Operand.Alike related) target target')
    (inArgs : List.Forall₂ (Operand.Alike related) args args') :
    Option.Rel (fun found found' => found.1 = found'.1 ∧ found.2.Alike related found'.2)
      (membership? target args) (membership? target' args') := by
  have found {collection collection' item item' : Operand}
      (inCollection : collection.Alike related collection') (inItem : item.Alike related item') :
      Option.Rel (fun found found' => found.1 = found'.1 ∧ found.2.Alike related found'.2)
        (collection.items?.map fun items => (items, item))
        (collection'.items?.map fun items => (items, item')) := by
    rw [← inCollection.items]
    cases collection.items? with
    | none => exact .none
    | some items => exact .some ⟨rfl, inItem⟩
  cases inTarget with
  | none =>
    rcases inArgs with _ | ⟨first, _ | ⟨second, _ | _⟩⟩
    · exact .none
    · exact .none
    · exact found first second
    · exact .none
  | some inTarget =>
    rcases inArgs with _ | ⟨first, _ | _⟩
    · exact .none
    · exact found inTarget first
    · exact .none

theorem like_wildcards_related (congruence : IsCongruence related) {text text' part part' : Operand}
    {pattern : Expression → List Expression}
    (inPattern : ∀ e e', related e e' → List.Forall₂ related (pattern e) (pattern e'))
    (inText : text.Alike related text') (inPart : part.Alike related part') :
    SameOutcome (Option.Rel related) (do
        let part ← part.sql
        some <$> like text (pattern part))
      (do
        let part ← part'.sql
        some <$> like text' (pattern part)) :=
  inPart.sql.bind fun _ _ isPart =>
    (like_related congruence inText (inPattern _ _ isPart)).map fun _ _ => .some

theorem ofConcat_related (congruence : IsCongruence related)
    {target target' : Option Operand} {args args' : List Operand}
    (inTarget : Option.Rel (Operand.Alike related) target target')
    (inArgs : List.Forall₂ (Operand.Alike related) args args') :
    SameOutcome (Option.Rel related)
      (do return some (.function .concat (← (target.toList ++ args).mapM Operand.sql)))
      (do return some (.function .concat (← (target'.toList ++ args').mapM Operand.sql))) := by
  have operands : List.Forall₂ (Operand.Alike related) (target.toList ++ args)
      (target'.toList ++ args') := by
    cases inTarget with
    | none => exact inArgs
    | some inTarget => exact .cons inTarget inArgs
  have parts := SameOutcome.mapM (operands.imp fun _ _ alike => alike.sql)
  exact parts.bind fun _ _ inParts => .ok (.some (congruence.function _ inParts))

/-- Calls of one method on operands that are alike compile alike. -/
theorem ofCall?_related (congruence : IsCongruence related) (name : String) (isStatic : Bool)
    {target target' : Option Operand} {args args' : List Operand}
    (inTarget : Option.Rel (Operand.Alike related) target target')
    (inArgs : List.Forall₂ (Operand.Alike related) args args') :
    SameOutcome (Option.Rel related) (ofCall? name target args isStatic)
      (ofCall? name target' args' isStatic) := by
  unfold ofCall?
  cases Method.ofName? name with
  | none => exact .ok .none
  | some method =>
    cases method with
    | value =>
      cases inTarget with
      | none => exact .ok .none
      | some inTarget =>
        cases inArgs with
        | nil => exact inTarget.sql.map fun _ _ => .some
        | cons _ _ => exact .ok .none
    | equals =>
      cases inTarget with
      | none =>
        rcases inArgs with _ | ⟨left, _ | ⟨right, _ | _⟩⟩
        · exact .ok .none
        · exact .ok .none
        · exact (equality_related congruence left right).map fun _ _ => .some
        · exact .ok .none
      | some left =>
        rcases inArgs with _ | ⟨right, _ | _⟩
        · exact .ok .none
        · exact (equality_related congruence left right).map fun _ _ => .some
        · exact .ok .none
    | concat =>
      have operands := ofConcat_related congruence inTarget inArgs
      cases inTarget with
      | none =>
        cases inArgs with
        | nil => exact .ok .none
        | cons _ _ => exact operands
      | some _ => exact operands
    | contains =>
      have tests := membership?_related inTarget inArgs
      dsimp only
      revert tests
      generalize membership? target args = found, membership? target' args' = found'
      intro tests
      cases tests with
      | @some found found' same =>
        obtain ⟨items, item⟩ := found
        obtain ⟨items', item'⟩ := found'
        obtain ⟨rfl, inItem⟩ := same
        exact (ofMembership_related congruence name _ inItem).map fun _ _ => .some
      | none =>
        cases inTarget with
        | none => exact .ok .none
        | some text =>
          rcases inArgs with _ | ⟨part, _ | _⟩
          · exact .ok .none
          · exact like_wildcards_related congruence (fun _ _ same =>
              .cons congruence.wildcard (.cons same (.cons congruence.wildcard .nil))) text part
          · exact .ok .none
    | startsWith =>
      cases inTarget with
      | none => exact .ok .none
      | some text =>
        rcases inArgs with _ | ⟨start, _ | _⟩
        · exact .ok .none
        · exact like_wildcards_related congruence
            (fun _ _ same => .cons same (.cons congruence.wildcard .nil)) text start
        · exact .ok .none
    | endsWith =>
      cases inTarget with
      | none => exact .ok .none
      | some text =>
        rcases inArgs with _ | ⟨ending, _ | _⟩
        · exact .ok .none
        · exact like_wildcards_related congruence
            (fun _ _ same => .cons congruence.wildcard (.cons same .nil)) text ending
        · exact .ok .none
    | toUpper | toLower | trim | part _ =>
      cases inTarget with
      | none => exact .ok .none
      | some inTarget =>
        cases inArgs with
        | nil => exact (unaryFunction_related congruence _ inTarget).map fun _ _ => .some
        | cons _ _ => exact .ok .none
    | generator generator =>
      cases inTarget with
      | none =>
        cases inArgs with
        | nil =>
          cases isStatic with
          | false => exact .ok .none
          | true => exact .ok (.some (congruence.function _ .nil))
        | cons _ _ => exact .ok .none
      | some _ => exact .ok .none
    | toText | length | count | compare | compareTo => exact .ok .none

/-- If a call compiles, so does the other one. -/
theorem ofCall?_compiles (congruence : IsCongruence related) {name : String} {isStatic : Bool}
    {target target' : Option Operand} {args args' : List Operand} {sql : Expression}
    (inTarget : Option.Rel (Operand.Alike related) target target')
    (inArgs : List.Forall₂ (Operand.Alike related) args args')
    (compiled : ofCall? name target args isStatic = .ok (some sql)) :
    ∃ sql', ofCall? name target' args' isStatic = .ok (some sql') ∧ related sql sql' := by
  have calls := ofCall?_related congruence name isStatic inTarget inArgs
  rw [compiled] at calls
  generalize ofCall? name target' args' isStatic = outcome at calls ⊢
  cases calls with
  | ok results =>
    cases results with
    | some results => exact ⟨_, rfl, results⟩

end Sql.Expression

/-! ## Related drafts -/

namespace Draft

/-- The drafts are the same literal, or none is one; and they compile alike. -/
structure Alike (env : Environment) (related : Sql.Expression → Sql.Expression → Prop)
    (before after : Draft) : Prop where
  literal : before.literal? = after.literal?
  sql : SameOutcome related (before.expression env) (after.expression env)

variable {env : Environment} {related : Sql.Expression → Sql.Expression → Prop}

open Sql.Expression (IsCongruence)

/-- A call compiles to its counterpart in SQL, and is refused if it has none. -/
theorem expression_call_related {env' : Environment} (name : String) (isStatic : Bool)
    {target target' : Option Draft} {args args' : List Draft}
    (calls : SameOutcome (Option.Rel related)
      (Sql.Expression.ofCall? name (target.map (operand env)) (args.map (operand env)) isStatic)
      (Sql.Expression.ofCall? name (target'.map (operand env')) (args'.map (operand env'))
        isStatic)) :
    SameOutcome related (expression env (.call name target args isStatic))
      (expression env' (.call name target' args' isStatic)) := by
  simp only [expression, targetOperand_eq_map, operands_eq_map]
  revert calls
  generalize Sql.Expression.ofCall? name (target.map (operand env)) _ isStatic = x,
    Sql.Expression.ofCall? name (target'.map (operand env')) _ isStatic = y
  rintro (results | errors)
  · cases results with
    | none => exact .error rfl
    | some results => exact .ok results
  · exact .error errors

namespace Alike

theorem operand {before after : Draft} (alike : Alike env related before after) :
    (operand env before).Alike related (operand env after) where
  items := by
    have same := alike.literal
    unfold Operand.items?
    cases before <;> cases after <;> simp_all [Draft.operand, Term.literal?]
  sql := alike.sql

theorem unary (congruence : IsCongruence related) (op : UnaryOp) {operand operand' : Draft}
    (inside : Alike env related operand operand') :
    Alike env related (.unary op operand) (.unary op operand') where
  literal := rfl
  sql := by
    cases op with
    | not => exact inside.sql.map fun _ _ => congruence.not
    | negate => exact inside.sql.map fun _ _ => congruence.unary .negate

theorem nullCheck?_eq (op : Comparison) {left left' right right' : Draft}
    (inLeft : Alike env related left left') (inRight : Alike env related right right') :
    nullCheck? op left' right' = nullCheck? op left right := by
  unfold nullCheck?
  rw [Term.isNull_congr inLeft.literal, Term.isNull_congr inRight.literal]

theorem comparison (congruence : IsCongruence related) (op : Comparison)
    {left left' right right' : Draft} (inLeft : Alike env related left left')
    (inRight : Alike env related right right') :
    Alike env related (.binary (.comparison op) left right)
      (.binary (.comparison op) left' right') where
  literal := rfl
  sql := by
    simp only [expression, nullCheck?_eq op inLeft inRight]
    split
    · exact inLeft.sql.map fun _ _ => congruence.unary _
    · exact inRight.sql.map fun _ _ => congruence.unary _
    · exact inLeft.sql.bind fun _ _ isLeft => inRight.sql.bind fun _ _ isRight =>
        .ok (congruence.binary _ isLeft isRight)

theorem binary (congruence : IsCongruence related) (op : BinaryOp)
    {left left' right right' : Draft} (inLeft : Alike env related left left')
    (inRight : Alike env related right right') :
    Alike env related (.binary op left right) (.binary op left' right') := by
  cases op with
  | comparison op => exact comparison congruence op inLeft inRight
  | calculation op =>
    exact ⟨rfl, inLeft.sql.bind fun _ _ isLeft => inRight.sql.bind fun _ _ isRight =>
      .ok (congruence.binary _ isLeft isRight)⟩
  | andAlso =>
    exact ⟨rfl, inLeft.sql.bind fun _ _ isLeft => inRight.sql.bind fun _ _ isRight =>
      .ok (congruence.and isLeft isRight)⟩
  | orElse =>
    exact ⟨rfl, inLeft.sql.bind fun _ _ isLeft => inRight.sql.bind fun _ _ isRight =>
      .ok (congruence.or isLeft isRight)⟩

theorem conditional (congruence : IsCongruence related)
    {test test' whenTrue whenTrue' whenFalse whenFalse' : Draft}
    (inTest : Alike env related test test') (inTrue : Alike env related whenTrue whenTrue')
    (inFalse : Alike env related whenFalse whenFalse') :
    Alike env related (.conditional test whenTrue whenFalse)
      (.conditional test' whenTrue' whenFalse') where
  literal := rfl
  sql := inTest.sql.bind fun _ _ isTest => inTrue.sql.bind fun _ _ isTrue =>
    inFalse.sql.bind fun _ _ isFalse =>
      .ok (congruence.function _ (.cons isTest (.cons isTrue (.cons isFalse .nil))))

/-- Operands that are related one by one. -/
theorem operands_related {alike : Operand → Operand → Prop} {f g : Draft → Operand}
    {target : Option Draft} {args : List Draft}
    (each : ∀ a ∈ target.toList ++ args, alike (f a) (g a)) :
    Option.Rel alike (target.map f) (target.map g) ∧
      List.Forall₂ alike (args.map f) (args.map g) := by
  refine ⟨?_, ?_⟩
  · cases target with
    | none => exact .none
    | some t => exact .some (each t List.mem_cons_self)
  · rw [List.forall₂_map_left_iff, List.forall₂_map_right_iff, List.forall₂_same]
    exact fun a mem => each a (List.mem_append_right _ mem)

theorem call (congruence : IsCongruence related) (name : String) (isStatic : Bool)
    {f : Draft → Draft} {target : Option Draft} {args : List Draft}
    (inTarget : ∀ t, target = some t → Alike env related (f t) t)
    (inArgs : ∀ a ∈ args, Alike env related (f a) a) :
    Alike env related (.call name (target.map f) (args.map f) isStatic)
      (.call name target args isStatic) where
  literal := rfl
  sql := by
    have alike : ∀ a ∈ target.toList ++ args,
        ((Draft.operand env ∘ f) a).Alike related (Draft.operand env a) :=
      List.forall_mem_append.2 ⟨fun t mem => (inTarget t (Option.mem_toList.1 mem)).operand,
        fun a mem => (inArgs a mem).operand⟩
    obtain ⟨operandTarget, operandArgs⟩ := operands_related alike
    refine expression_call_related name isStatic ?_
    rw [Option.map_map, List.map_map]
    exact Sql.Expression.ofCall?_related congruence name isStatic operandTarget operandArgs

end Alike

end Draft

end PlanCompiler
