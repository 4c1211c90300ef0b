/-
# Predicate.Term -- expressions over the fields of a row

A term is built from fields and literals by operators, conditionals and calls.
A call may have a target (`Name.Contains("a")`, `CreatedAt.Year`) or none
(`DateTime.Now()`).  The leaves of type `Leaf` are whatever else a term may
contain: nothing in a predicate as it is written, SQL in one that has been partly
compiled.

Everything that is done to terms bottom-up goes through `transform`, which applies a
step to each node after its operands have been transformed.
-/
import PlanCompiler.Literal.Text
import PlanCompiler.Operator

namespace PlanCompiler

set_option autoImplicit false

inductive Term (Leaf : Type)
  | leaf (value : Leaf)
  | field (name : String)
  | literal (value : Literal)
  | unary (op : UnaryOp) (operand : Term Leaf)
  | binary (op : BinaryOp) (left right : Term Leaf)
  | conditional (test whenTrue whenFalse : Term Leaf)
  | call (name : String) (target : Option (Term Leaf)) (args : List (Term Leaf)) (isStatic : Bool)

namespace Term

variable {Leaf : Type}

/-- Induction over terms, the operands of a call taken all at once. -/
@[elab_as_elim]
theorem induct {motive : Term Leaf → Prop}
    (leaf : ∀ value, motive (.leaf value))
    (field : ∀ name, motive (.field name))
    (literal : ∀ value, motive (.literal value))
    (unary : ∀ op operand, motive operand → motive (.unary op operand))
    (binary : ∀ op left right, motive left → motive right → motive (.binary op left right))
    (conditional : ∀ test whenTrue whenFalse, motive test → motive whenTrue → motive whenFalse →
      motive (.conditional test whenTrue whenFalse))
    (call : ∀ name target args isStatic, (∀ t, target = some t → motive t) →
      (∀ a, a ∈ args → motive a) → motive (.call name target args isStatic)) :
    ∀ t, motive t := by
  intro t
  refine Term.rec (motive_1 := motive) (motive_2 := fun target => ∀ t, target = some t → motive t)
    (motive_3 := fun args => ∀ a, a ∈ args → motive a) leaf field literal unary binary conditional
    (fun name target args isStatic => call name target args isStatic) ?_ ?_ ?_ ?_ t
  · intro t h
    exact absurd h (by simp)
  · intro t h t' eq
    exact Option.some.inj eq ▸ h
  · intro a h
    exact absurd h (by simp)
  · intro a rest h hs a' mem
    rcases List.mem_cons.1 mem with rfl | mem
    · exact h
    · exact hs a' mem

/-! ## Shapes -/

def literal? : Term Leaf → Option Literal
  | .literal value => some value
  | _ => none

def isNull : Term Leaf → Bool
  | .literal .null => true
  | _ => false

def isBool (expected : Bool) : Term Leaf → Bool
  | .literal (.bool value) => value == expected
  | _ => false

/-! ## Transforming bottom-up -/

mutual

/-- Apply a step to every node, the operands of a node before the node itself. -/
def transform (step : Term Leaf → Term Leaf) : Term Leaf → Term Leaf
  | .leaf value => step (.leaf value)
  | .field name => step (.field name)
  | .literal value => step (.literal value)
  | .unary op operand => step (.unary op (transform step operand))
  | .binary op left right => step (.binary op (transform step left) (transform step right))
  | .conditional test whenTrue whenFalse =>
    step (.conditional (transform step test) (transform step whenTrue) (transform step whenFalse))
  | .call name target args isStatic =>
    step (.call name (transformTarget step target) (transformArgs step args) isStatic)

def transformTarget (step : Term Leaf → Term Leaf) : Option (Term Leaf) → Option (Term Leaf)
  | none => none
  | some target => some (transform step target)

def transformArgs (step : Term Leaf → Term Leaf) : List (Term Leaf) → List (Term Leaf)
  | [] => []
  | arg :: rest => transform step arg :: transformArgs step rest

end

@[simp] theorem transformTarget_eq_map (step : Term Leaf → Term Leaf) (target : Option (Term Leaf)) :
    transformTarget step target = target.map (transform step) := by
  cases target <;> rfl

@[simp] theorem transformArgs_eq_map (step : Term Leaf → Term Leaf) (args : List (Term Leaf)) :
    transformArgs step args = args.map (transform step) := by
  induction args with
  | nil => rfl
  | cons arg rest ih => simp [transformArgs, ih]

/-! ## Leaves -/

mutual

/-- Whether the term reads a field, given which leaves do. -/
def reads (leafReads : Leaf → Bool) : Term Leaf → Bool
  | .leaf value => leafReads value
  | .field _ => true
  | .literal _ => false
  | .unary _ operand => reads leafReads operand
  | .binary _ left right => reads leafReads left || reads leafReads right
  | .conditional test whenTrue whenFalse =>
    reads leafReads test || reads leafReads whenTrue || reads leafReads whenFalse
  | .call _ target args _ => targetReads leafReads target || anyReads leafReads args

def targetReads (leafReads : Leaf → Bool) : Option (Term Leaf) → Bool
  | none => false
  | some target => reads leafReads target

def anyReads (leafReads : Leaf → Bool) : List (Term Leaf) → Bool
  | [] => false
  | arg :: rest => reads leafReads arg || anyReads leafReads rest

end

@[simp] theorem targetReads_eq_any (leafReads : Leaf → Bool) (target : Option (Term Leaf)) :
    targetReads leafReads target = target.any (reads leafReads) := by
  cases target <;> rfl

@[simp] theorem anyReads_eq_any (leafReads : Leaf → Bool) (args : List (Term Leaf)) :
    anyReads leafReads args = args.any (reads leafReads) := by
  induction args with
  | nil => rfl
  | cons arg rest ih => simp [anyReads, ih]

mutual

/-- Replace every leaf. -/
def mapLeaves {Other : Type} (f : Leaf → Other) : Term Leaf → Term Other
  | .leaf value => .leaf (f value)
  | .field name => .field name
  | .literal value => .literal value
  | .unary op operand => .unary op (mapLeaves f operand)
  | .binary op left right => .binary op (mapLeaves f left) (mapLeaves f right)
  | .conditional test whenTrue whenFalse =>
    .conditional (mapLeaves f test) (mapLeaves f whenTrue) (mapLeaves f whenFalse)
  | .call name target args isStatic =>
    .call name (mapTarget f target) (mapArgs f args) isStatic

def mapTarget {Other : Type} (f : Leaf → Other) : Option (Term Leaf) → Option (Term Other)
  | none => none
  | some target => some (mapLeaves f target)

def mapArgs {Other : Type} (f : Leaf → Other) : List (Term Leaf) → List (Term Other)
  | [] => []
  | arg :: rest => mapLeaves f arg :: mapArgs f rest

end

@[simp] theorem mapTarget_eq_map {Other : Type} (f : Leaf → Other) (target : Option (Term Leaf)) :
    mapTarget f target = target.map (mapLeaves f) := by
  cases target <;> rfl

@[simp] theorem mapArgs_eq_map {Other : Type} (f : Leaf → Other) (args : List (Term Leaf)) :
    mapArgs f args = args.map (mapLeaves f) := by
  induction args with
  | nil => rfl
  | cons arg rest ih => simp [mapArgs, ih]

/-! ## Display -/

/-- A call shown from its parts: without arguments a call on a target is a bare member. -/
def displayCall (name : String) (target : Option String) (args : List String) : String :=
  let callee := match target with
    | some target => target ++ "." ++ name
    | none => name
  if args.isEmpty && target.isSome then callee
  else callee ++ "(" ++ ", ".intercalate args ++ ")"

mutual

/-- The term as plans and messages show it. -/
def display (leaf : Leaf → String) : Term Leaf → String
  | .leaf value => leaf value
  | .field name => name
  | .literal value => value.display
  | .unary op operand => op.symbol ++ display leaf operand
  | .binary op left right =>
    "(" ++ display leaf left ++ " " ++ op.symbol ++ " " ++ display leaf right ++ ")"
  | .conditional test whenTrue whenFalse =>
    "(" ++ display leaf test ++ " ? " ++ display leaf whenTrue ++ " : " ++ display leaf whenFalse
      ++ ")"
  | .call name target args _ => displayCall name (displayTarget leaf target) (displayArgs leaf args)

def displayTarget (leaf : Leaf → String) : Option (Term Leaf) → Option String
  | none => none
  | some target => some (display leaf target)

def displayArgs (leaf : Leaf → String) : List (Term Leaf) → List String
  | [] => []
  | arg :: rest => display leaf arg :: displayArgs leaf rest

end

end Term

end PlanCompiler
