/-
# Compile.Normalize -- conditionals and truths that say nothing

* `true && x` and `false || x` are `x`, in either order;
* `x == null ? null : x` and `x != null ? x : null` are `x`, with the null on
  either side;
* a three-way comparison against zero, `string.Compare(a, b) < 0` or
  `a.CompareTo(b) < 0`, is the comparison `a < b`.
-/
import PlanCompiler.Compile.Draft
import PlanCompiler.Compile.Method

namespace PlanCompiler.Draft

set_option autoImplicit false

def isZero : Draft → Bool
  | .literal (.int value) => value == 0
  | .literal (.uint value) => value == 0
  | _ => false

/-- What a three-way comparison compares. -/
def compared? : Draft → Option (Draft × Draft)
  | .call name target args _ =>
    match Method.ofName? name, target, args with
    | some .compare, none, [left, right] => some (left, right)
    | some .compareTo, some left, [right] => some (left, right)
    | _, _, _ => none
  | _ => none

/-- What a comparison with null is about. -/
def checkedForNull? (left right : Draft) : Option Draft :=
  if right.isNull then some left else if left.isNull then some right else none

/-- The value that a conditional only guards against null. -/
def guarded? (test whenTrue whenFalse : Draft) : Option Draft :=
  match test with
  | .binary (.comparison op) left right =>
    match checkedForNull? left right with
    | none => none
    | some checked =>
      match op with
      | .equal => if whenTrue.isNull && same whenFalse checked then some checked else none
      | .notEqual => if whenFalse.isNull && same whenTrue checked then some checked else none
      | _ => none
  | _ => none

/-- Normalize one node, whose operands have been normalized. -/
def normalizeStep : Draft → Draft
  | .binary .andAlso left right =>
    if left.isBool true then right
    else if right.isBool true then left
    else .binary .andAlso left right
  | .binary .orElse left right =>
    if left.isBool false then right
    else if right.isBool false then left
    else .binary .orElse left right
  | .binary (.comparison op) left right =>
    match if isZero right then compared? left else none with
    | some (a, b) => .binary (.comparison op) a b
    | none => .binary (.comparison op) left right
  | .conditional test whenTrue whenFalse =>
    (guarded? test whenTrue whenFalse).getD (.conditional test whenTrue whenFalse)
  | draft => draft

def normalize (draft : Draft) : Draft :=
  draft.transform normalizeStep

end PlanCompiler.Draft
