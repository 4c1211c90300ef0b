/-
# Proofs.TermValue -- the value of a term on a row

`Term.evaluate` gives the operators and calls between literals the values of all their
operands.  Of a conditional only the chosen branch needs a value.  A row need not have
every field, and a leaf has no value.  Three-way comparisons are the one kind of call
that has a value here and is left alone by constant folding.

A pass keeps the value of a term (`KeepsValue`) if its step keeps the value of each
node that it comes to (`KeepsValue.transform`); the operands of such a node have been
through the pass already, which is what `Visits` is about.
-/
import PlanCompiler.Compile.Fold

namespace PlanCompiler

set_option autoImplicit false

namespace Literal

/-- The value of a three-way comparison. -/
def ofOrdering : Ordering → Literal
  | .lt => .int (-1)
  | .eq => .int 0
  | .gt => .int 1

/-- The value of a call, three-way comparisons included. -/
def invoke? (method : Method) (target : Option Literal) (args : List Literal) : Option Literal :=
  match method, target, args with
  | .compare, none, [left, right] => (compare? left right).map ofOrdering
  | .compareTo, some left, [right] => (compare? left right).map ofOrdering
  | method, target, args => call? method target args

/-- Folding computes no three-way comparison, and all other calls as they are. -/
theorem invoke?_of_call? {method : Method} {target : Option Literal} {args : List Literal}
    {value : Literal} (called : call? method target args = some value) :
    invoke? method target args = some value := by
  unfold invoke?
  split
  · cases called
  · cases called
  · exact called

end Literal

namespace Term

variable {Leaf : Type}

/-! ## Evaluation -/

mutual

/-- The value of a term on a row, if all that it depends on has one. -/
def evaluate (row : String → Option Literal) : Term Leaf → Option Literal
  | .leaf _ => none
  | .field name => row name
  | .literal value => some value
  | .unary op operand => do Literal.unary? op (← evaluate row operand)
  | .binary op left right => do Literal.binary? op (← evaluate row left) (← evaluate row right)
  | .conditional test whenTrue whenFalse =>
    match evaluate row test with
    | some (.bool true) => evaluate row whenTrue
    | some (.bool false) => evaluate row whenFalse
    | _ => none
  | .call name target args _ => do
    Literal.invoke? (← Method.ofName? name) (← evaluateTarget row target) (← evaluateArgs row args)

/-- The value of a target, which is absent when there is no target. -/
def evaluateTarget (row : String → Option Literal) : Option (Term Leaf) → Option (Option Literal)
  | none => some none
  | some target => (evaluate row target).map some

def evaluateArgs (row : String → Option Literal) : List (Term Leaf) → Option (List Literal)
  | [] => some []
  | arg :: rest => do return (← evaluate row arg) :: (← evaluateArgs row rest)

end

variable {row : String → Option Literal}

theorem evaluate_unary_eq_some {op : UnaryOp} {operand : Term Leaf} {v : Literal} :
    evaluate row (.unary op operand) = some v ↔
      ∃ x, evaluate row operand = some x ∧ Literal.unary? op x = some v := by
  simp [evaluate, Option.bind_eq_some_iff]

theorem evaluate_binary_eq_some {op : BinaryOp} {left right : Term Leaf} {v : Literal} :
    evaluate row (.binary op left right) = some v ↔
      ∃ x y, evaluate row left = some x ∧ evaluate row right = some y ∧
        Literal.binary? op x y = some v := by
  simp [evaluate, Option.bind_eq_some_iff]

theorem evaluate_conditional_eq_some {test whenTrue whenFalse : Term Leaf} {v : Literal} :
    evaluate row (.conditional test whenTrue whenFalse) = some v ↔
      evaluate row test = some (.bool true) ∧ evaluate row whenTrue = some v ∨
        evaluate row test = some (.bool false) ∧ evaluate row whenFalse = some v := by
  rw [evaluate]
  split <;> simp_all

theorem evaluate_call_eq_some {name : String} {target : Option (Term Leaf)}
    {args : List (Term Leaf)} {isStatic : Bool} {v : Literal} :
    evaluate row (.call name target args isStatic) = some v ↔
      ∃ method x ys, Method.ofName? name = some method ∧ evaluateTarget row target = some x ∧
        evaluateArgs row args = some ys ∧ Literal.invoke? method x ys = some v := by
  simp [evaluate, Option.bind_eq_some_iff]

theorem evaluate_of_literal? {t : Term Leaf} {value : Literal} (written : t.literal? = some value) :
    evaluate row t = some value := by
  unfold literal? at written
  split at written
  · cases written
    rfl
  · cases written

theorem evaluateTarget_of_targetLiteral? {target : Option (Term Leaf)} {value : Option Literal}
    (written : targetLiteral? target = some value) : evaluateTarget row target = some value := by
  cases target with
  | none => exact written
  | some t =>
    obtain ⟨literal, isLiteral, rfl⟩ := Option.map_eq_some_iff.1 written
    simp [evaluateTarget, evaluate_of_literal? isLiteral]

theorem evaluateArgs_cons_eq_some {arg : Term Leaf} {rest : List (Term Leaf)}
    {ys : List Literal} :
    evaluateArgs row (arg :: rest) = some ys ↔
      ∃ y others, evaluate row arg = some y ∧ evaluateArgs row rest = some others ∧
        y :: others = ys := by
  simp [evaluateArgs, Option.bind_eq_some_iff]

theorem evaluateArgs_of_literals {args : List (Term Leaf)} :
    ∀ {values : List Literal}, args.mapM literal? = some values →
      evaluateArgs row args = some values := by
  induction args with
  | nil => exact fun written => written
  | cons arg rest ih =>
    intro values written
    simp only [List.mapM_cons, Option.bind_eq_bind, Option.bind_eq_some_iff,
      Option.pure_def, Option.some.injEq] at written
    obtain ⟨value, isLiteral, others, areLiterals, result⟩ := written
    exact evaluateArgs_cons_eq_some.2
      ⟨value, others, evaluate_of_literal? isLiteral, ih areLiterals, result⟩

/-! ## Keeping values -/

/-- Where the first term has a value, the second has the same. -/
def KeepsValue (row : String → Option Literal) (before after : Term Leaf) : Prop :=
  ∀ v, evaluate row before = some v → evaluate row after = some v

namespace KeepsValue

theorem refl (t : Term Leaf) : KeepsValue row t t :=
  fun _ value => value

theorem trans {a b c : Term Leaf} (first : KeepsValue row a b) (second : KeepsValue row b c) :
    KeepsValue row a c :=
  fun v value => second v (first v value)

theorem unary (op : UnaryOp) {operand operand' : Term Leaf}
    (inside : KeepsValue row operand operand') :
    KeepsValue row (.unary op operand) (.unary op operand') := by
  intro v value
  obtain ⟨x, operandValue, result⟩ := evaluate_unary_eq_some.1 value
  exact evaluate_unary_eq_some.2 ⟨x, inside x operandValue, result⟩

theorem binary (op : BinaryOp) {left left' right right' : Term Leaf}
    (inLeft : KeepsValue row left left') (inRight : KeepsValue row right right') :
    KeepsValue row (.binary op left right) (.binary op left' right') := by
  intro v value
  obtain ⟨x, y, leftValue, rightValue, result⟩ := evaluate_binary_eq_some.1 value
  exact evaluate_binary_eq_some.2 ⟨x, y, inLeft x leftValue, inRight y rightValue, result⟩

theorem conditional {test test' whenTrue whenTrue' whenFalse whenFalse' : Term Leaf}
    (inTest : KeepsValue row test test') (inTrue : KeepsValue row whenTrue whenTrue')
    (inFalse : KeepsValue row whenFalse whenFalse') :
    KeepsValue row (.conditional test whenTrue whenFalse)
      (.conditional test' whenTrue' whenFalse') := by
  intro v value
  rcases evaluate_conditional_eq_some.1 value with ⟨testValue, value⟩ | ⟨testValue, value⟩
  · exact evaluate_conditional_eq_some.2 (.inl ⟨inTest _ testValue, inTrue v value⟩)
  · exact evaluate_conditional_eq_some.2 (.inr ⟨inTest _ testValue, inFalse v value⟩)

theorem evaluateTarget {f : Term Leaf → Term Leaf} {target : Option (Term Leaf)}
    (inTarget : ∀ t, target = some t → KeepsValue row t (f t)) {x : Option Literal}
    (value : Term.evaluateTarget row target = some x) :
    Term.evaluateTarget row (target.map f) = some x := by
  cases target with
  | none => exact value
  | some t =>
    obtain ⟨v, targetValue, rfl⟩ := Option.map_eq_some_iff.1 value
    simp [Term.evaluateTarget, inTarget t rfl v targetValue]

theorem evaluateArgs {f : Term Leaf → Term Leaf} {args : List (Term Leaf)}
    (inArgs : ∀ a ∈ args, KeepsValue row a (f a)) :
    ∀ {ys : List Literal}, Term.evaluateArgs row args = some ys →
      Term.evaluateArgs row (args.map f) = some ys := by
  induction args with
  | nil => exact fun value => value
  | cons a rest ih =>
    intro ys value
    obtain ⟨y, others, argValue, restValues, result⟩ := evaluateArgs_cons_eq_some.1 value
    obtain ⟨inArg, inRest⟩ := List.forall_mem_cons.1 inArgs
    exact evaluateArgs_cons_eq_some.2
      ⟨y, others, inArg y argValue, ih inRest restValues, result⟩

theorem call (name : String) (isStatic : Bool) {f : Term Leaf → Term Leaf}
    {target : Option (Term Leaf)} {args : List (Term Leaf)}
    (inTarget : ∀ t, target = some t → KeepsValue row t (f t))
    (inArgs : ∀ a ∈ args, KeepsValue row a (f a)) :
    KeepsValue row (.call name target args isStatic)
      (.call name (target.map f) (args.map f) isStatic) := by
  intro v value
  obtain ⟨method, x, ys, named, targetValue, argValues, result⟩ := evaluate_call_eq_some.1 value
  exact evaluate_call_eq_some.2 ⟨method, x, ys, named, evaluateTarget inTarget targetValue,
    evaluateArgs inArgs argValues, result⟩

end KeepsValue

/-! ## Passes -/

/-- Every node that a pass applies its step to is as told. -/
inductive Visits (step : Term Leaf → Term Leaf) (told : Term Leaf → Prop) : Term Leaf → Prop
  | leaf {value : Leaf} (here : told (.leaf value)) : Visits step told (.leaf value)
  | field {name : String} (here : told (.field name)) : Visits step told (.field name)
  | literal {value : Literal} (here : told (.literal value)) : Visits step told (.literal value)
  | unary {op : UnaryOp} {operand : Term Leaf} (inside : Visits step told operand)
      (here : told (.unary op (operand.transform step))) : Visits step told (.unary op operand)
  | binary {op : BinaryOp} {left right : Term Leaf} (inLeft : Visits step told left)
      (inRight : Visits step told right)
      (here : told (.binary op (left.transform step) (right.transform step))) :
      Visits step told (.binary op left right)
  | conditional {test whenTrue whenFalse : Term Leaf} (inTest : Visits step told test)
      (inTrue : Visits step told whenTrue) (inFalse : Visits step told whenFalse)
      (here : told (.conditional (test.transform step) (whenTrue.transform step)
        (whenFalse.transform step))) :
      Visits step told (.conditional test whenTrue whenFalse)
  | call {name : String} {target : Option (Term Leaf)} {args : List (Term Leaf)} {isStatic : Bool}
      (inTarget : ∀ t, target = some t → Visits step told t)
      (inArgs : ∀ a ∈ args, Visits step told a)
      (here : told (.call name (target.map (transform step)) (args.map (transform step))
        isStatic)) :
      Visits step told (.call name target args isStatic)

theorem visits_of_forall {step : Term Leaf → Term Leaf} {told : Term Leaf → Prop}
    (all : ∀ t, told t) (t : Term Leaf) : Visits step told t := by
  induction t using Term.induct with
  | leaf value => exact .leaf (all _)
  | field name => exact .field (all _)
  | literal value => exact .literal (all _)
  | unary op operand inside => exact .unary inside (all _)
  | binary op left right inLeft inRight => exact .binary inLeft inRight (all _)
  | conditional test whenTrue whenFalse inTest inTrue inFalse =>
    exact .conditional inTest inTrue inFalse (all _)
  | call name target args isStatic inTarget inArgs => exact .call inTarget inArgs (all _)

/-- A pass keeps the value of a term if its step does on all nodes that it comes to. -/
theorem KeepsValue.transform {step : Term Leaf → Term Leaf} {told : Term Leaf → Prop}
    (steps : ∀ t, told t → KeepsValue row t (step t)) {t : Term Leaf}
    (visits : Visits step told t) : KeepsValue row t (t.transform step) := by
  induction visits with
  | leaf here => exact steps _ here
  | field here => exact steps _ here
  | literal here => exact steps _ here
  | unary _ here inside => exact (inside.unary _).trans (steps _ here)
  | binary _ _ here inLeft inRight => exact (inLeft.binary _ inRight).trans (steps _ here)
  | conditional _ _ _ here inTest inTrue inFalse =>
    exact (inTest.conditional inTrue inFalse).trans (steps _ here)
  | call _ _ here inTarget inArgs =>
    rw [Term.transform, transformTarget_eq_map, transformArgs_eq_map]
    exact (KeepsValue.call _ _ inTarget inArgs).trans (steps _ here)

end Term

end PlanCompiler
