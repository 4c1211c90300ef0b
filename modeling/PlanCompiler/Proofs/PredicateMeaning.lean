/-
# Proofs.PredicateMeaning -- the value of a term on a row

`Term.meaning` evaluates a term of truths and integers as it is written, given the
value of each field and of each leaf.  It is partial:

* a comparison with a written null is a null test of the other operand, and only
  `==` and `!=` have one;
* other comparisons are between two truths or two integers, `&&`, `||` and `!`
  between truths, calculations between integers, which are exact;
* membership is of an integer among written literals;
* a conditional needs a truth to choose the branch, and evaluates no other one.

`Term.Elementary` are the terms for which this is meant.  Null may be written
anywhere in them, a calculation may leave the 64 bits of a literal, and branches
that are never chosen may have no value at all.
-/
import PlanCompiler.Compile.Method
import PlanCompiler.Predicate.Basic
import PlanCompiler.Proofs.RowValue

namespace PlanCompiler

set_option autoImplicit false

namespace Literal

/-- Nulls, truths and integers. -/
def IsElementary : Literal → Prop
  | .null | .bool _ | .int _ | .uint _ => True
  | _ => False

/-- What a membership test of integers looks through. -/
structure AreIntegers (items : List Literal) : Prop where
  nonempty : items ≠ []
  integers : ∀ item ∈ items, item.integer?.isSome

end Literal

namespace Term

variable {Leaf : Type}

/-! ## Meaning -/

/-- The value of a comparison from those of its operands, of which either may be a written null. -/
def comparisonMeaning (op : Comparison) (left right : Term Leaf)
    (leftValue rightValue : Option RowValue) : Option RowValue :=
  if right.isNull then leftValue.bind (RowValue.testNull? op)
  else if left.isNull then rightValue.bind (RowValue.testNull? op)
  else do RowValue.compare? op (← leftValue) (← rightValue)

/-- The branch that a truth chooses. -/
def chosen (test whenTrue whenFalse : Option RowValue) : Option RowValue :=
  match test with
  | some (.bool true) => whenTrue
  | some (.bool false) => whenFalse
  | _ => none

/-- Whether a call by this name tests membership. -/
def isContains (name : String) : Bool :=
  Method.ofName? name == some .contains

/-- The value of a term on a row. -/
def meaning (leaf : Leaf → Option RowValue) (row : String → RowValue) :
    Term Leaf → Option RowValue
  | .leaf value => leaf value
  | .field name => some (row name)
  | .literal value => some value.rowValue
  | .unary .not operand => (meaning leaf row operand).bind RowValue.not?
  | .unary .negate operand => (meaning leaf row operand).bind RowValue.negate?
  | .binary (.comparison op) left right =>
    comparisonMeaning op left right (meaning leaf row left) (meaning leaf row right)
  | .binary (.calculation op) left right => do
    RowValue.calculate? op (← meaning leaf row left) (← meaning leaf row right)
  | .binary .andAlso left right => do
    RowValue.and? (← meaning leaf row left) (← meaning leaf row right)
  | .binary .orElse left right => do
    RowValue.or? (← meaning leaf row left) (← meaning leaf row right)
  | .conditional test whenTrue whenFalse =>
    chosen (meaning leaf row test) (meaning leaf row whenTrue) (meaning leaf row whenFalse)
  | .call name (some (.literal (.array items))) [item] _ =>
    if isContains name then (meaning leaf row item).bind (RowValue.member? items) else none
  | .call name none [.literal (.array items), item] _ =>
    if isContains name then (meaning leaf row item).bind (RowValue.member? items) else none
  | .call _ _ _ _ => none

theorem isNull_mapLeaves {Other : Type} (f : Leaf → Other) (t : Term Leaf) :
    (t.mapLeaves f).isNull = t.isNull := by
  cases t with
  | literal value => cases value <;> rfl
  | _ => rfl

/-! ## Elementary terms -/

/-- Terms of nulls, truths and integers, over fields that `knows` accepts. -/
inductive Elementary (knows : String → Bool) : Term Leaf → Prop
  | leaf (value : Leaf) : Elementary knows (.leaf value)
  | field {name : String} (known : knows name = true) : Elementary knows (.field name)
  | literal {value : Literal} (kind : value.IsElementary) : Elementary knows (.literal value)
  | unary (op : UnaryOp) {operand : Term Leaf} (inside : Elementary knows operand) :
      Elementary knows (.unary op operand)
  | comparison (op : Comparison) {left right : Term Leaf} (inLeft : Elementary knows left)
      (inRight : Elementary knows right) : Elementary knows (.binary (.comparison op) left right)
  | calculation {op : Calculation} (exact : op ≠ .divide ∧ op ≠ .modulo) {left right : Term Leaf}
      (inLeft : Elementary knows left) (inRight : Elementary knows right) :
      Elementary knows (.binary (.calculation op) left right)
  | andAlso {left right : Term Leaf} (inLeft : Elementary knows left)
      (inRight : Elementary knows right) : Elementary knows (.binary .andAlso left right)
  | orElse {left right : Term Leaf} (inLeft : Elementary knows left)
      (inRight : Elementary knows right) : Elementary knows (.binary .orElse left right)
  | conditional {test whenTrue whenFalse : Term Leaf} (inTest : Elementary knows test)
      (inTrue : Elementary knows whenTrue) (inFalse : Elementary knows whenFalse) :
      Elementary knows (.conditional test whenTrue whenFalse)
  | membership {name : String} {items : List Literal} {item : Term Leaf} (isStatic : Bool)
      (method : Method.ofName? name = some .contains) (written : Literal.AreIntegers items)
      (inItem : Elementary knows item) :
      Elementary knows (.call name (some (.literal (.array items))) [item] isStatic)
  | staticMembership {name : String} {items : List Literal} {item : Term Leaf} (isStatic : Bool)
      (method : Method.ofName? name = some .contains) (written : Literal.AreIntegers items)
      (inItem : Elementary knows item) :
      Elementary knows (.call name none [.literal (.array items), item] isStatic)

end Term

/-- The value of a predicate on a row. -/
def Predicate.meaning (row : String → RowValue) (p : Predicate) : Option RowValue :=
  Term.meaning (fun leaf => nomatch leaf) row p

end PlanCompiler
