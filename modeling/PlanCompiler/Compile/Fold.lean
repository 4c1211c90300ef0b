/-
# Compile.Fold -- constant folding

An operation whose operands are all literals is replaced by its value, if it has
one; what has none stays as it is.  `false && x` and `true || x` are decided by
either operand, whatever the other one is, and a conditional whose test is known is
replaced by the branch.

Leaves are never looked into, so this works for any kind of leaf.
-/
import PlanCompiler.Literal.DatePart
import PlanCompiler.Literal.Evaluate
import PlanCompiler.Predicate.Term
import PlanCompiler.Text.Blank
import PlanCompiler.Text.Casing
import PlanCompiler.Text.Search
import PlanCompiler.Compile.Method

namespace PlanCompiler

set_option autoImplicit false

/-! ## Calls between literals -/

namespace Literal

def ofLength (n : Nat) : Option Literal :=
  ofInt? n

/-- A text changed as a whole. -/
def mapText (change : List Char → List Char) : Literal → Option Literal
  | .string text => some (.string (.ofList (change text.toList)))
  | _ => none

/-- A test between two texts. -/
def testTexts (test : List Char → List Char → Bool) : Literal → Literal → Option Literal
  | .string text, .string part => some (.bool (test text.toList part.toList))
  | _, _ => none

/-- The value of a call of a known method, `target` being absent for static calls. -/
def call? (method : Method) (target : Option Literal) (args : List Literal) : Option Literal :=
  match method, target, args with
  | .toText, some value, [] => value.text?.map .string
  | .toUpper, some value, [] => value.mapText Text.upper
  | .toLower, some value, [] => value.mapText Text.lower
  | .trim, some value, [] => value.mapText Text.trim
  | .length, some (.string text), [] => ofLength text.length
  | .length, some (.array items), [] => ofLength items.length
  | .count, some (.array items), [] => ofLength items.length
  | .value, some value, [] => if value.isNull then none else some value
  | .equals, some left, [right] => (equal? left right).map .bool
  | .equals, none, [left, right] => (equal? left right).map .bool
  | .concat, target, args => concat? (target.toList ++ args)
  | .contains, some (.array items), [item] => some (.bool (holds items item))
  | .contains, none, [.array items, item] => some (.bool (holds items item))
  | .contains, some text, [part] => testTexts (fun text part => Text.occursIn part text) text part
  | .startsWith, some text, [start] => testTexts (fun text start => start.isPrefixOf text) text start
  | .endsWith, some text, [ending] => testTexts (fun text ending => ending.isSuffixOf text) text ending
  | .part p, some value, [] => p.extract? value
  | _, _, _ => none

end Literal

/-! ## One node -/

namespace Term

variable {Leaf : Type}

/-- The value that one operand decides on its own. -/
def shortCircuit? (op : BinaryOp) (left right : Term Leaf) : Option Literal :=
  match op with
  | .andAlso => if left.isBool false || right.isBool false then some (.bool false) else none
  | .orElse => if left.isBool true || right.isBool true then some (.bool true) else none
  | _ => none

def binaryValue? (op : BinaryOp) (left right : Term Leaf) : Option Literal :=
  shortCircuit? op left right <|> do Literal.binary? op (← left.literal?) (← right.literal?)

def unaryValue? (op : UnaryOp) (operand : Term Leaf) : Option Literal :=
  operand.literal?.bind (Literal.unary? op)

/-- The literal of a target: absent when there is no target, none when it is not a literal. -/
def targetLiteral? : Option (Term Leaf) → Option (Option Literal)
  | none => some none
  | some target => target.literal?.map some

def callValue? (name : String) (target : Option (Term Leaf)) (args : List (Term Leaf)) :
    Option Literal := do
  Literal.call? (← Method.ofName? name) (← targetLiteral? target) (← args.mapM literal?)

/-- The branch that a known test selects. -/
def branch? (test whenTrue whenFalse : Term Leaf) : Option (Term Leaf) :=
  if test.isBool true then some whenTrue
  else if test.isBool false then some whenFalse
  else none

/-- Fold one node, whose operands have been folded. -/
def foldStep : Term Leaf → Term Leaf
  | .unary op operand =>
    match unaryValue? op operand with
    | some value => .literal value
    | none => .unary op operand
  | .binary op left right =>
    match binaryValue? op left right with
    | some value => .literal value
    | none => .binary op left right
  | .conditional test whenTrue whenFalse =>
    (branch? test whenTrue whenFalse).getD (.conditional test whenTrue whenFalse)
  | .call name target args isStatic =>
    match callValue? name target args with
    | some value => .literal value
    | none => .call name target args isStatic
  | t => t

/-- Replace what can be evaluated by its value. -/
def fold (t : Term Leaf) : Term Leaf :=
  t.transform foldStep

end Term

end PlanCompiler
