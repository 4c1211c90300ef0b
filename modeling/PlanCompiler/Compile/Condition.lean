/-
# Compile.Condition -- the condition that a filter adds

A predicate is simplified in three passes, in this order: calls on fields are
reduced to SQL, constants are folded, and what is left is normalized.

A filter that is always true adds no condition, and neither does a filter that
tests membership of an empty collection.
-/
import PlanCompiler.Compile.Normalize
import PlanCompiler.Compile.Reduce

namespace PlanCompiler.Draft

set_option autoImplicit false

/-- The simplified draft of a predicate. -/
def simplify (env : Environment) (p : Predicate) : Draft :=
  normalize (Term.fold (reduce env (ofPredicate p)))

def isEmptyCollection : Draft → Bool
  | .literal (.array []) => true
  | _ => false

/-- Whether the draft tests membership of an empty collection. -/
def isEmptyMembership : Draft → Bool
  | .call name target args _ =>
    match Method.ofName? name, target, args with
    | some .contains, some collection, [_] => isEmptyCollection collection
    | some .contains, none, [collection, _] => isEmptyCollection collection
    | _, _, _ => false
  | _ => false

/-- The condition of a simplified filter, none when it does not restrict the rows. -/
def condition (env : Environment) (draft : Draft) :
    Except CompileError (Option Sql.Expression) :=
  if draft.isBool true || draft.isEmptyMembership then .ok none
  else some <$> draft.expression env

end PlanCompiler.Draft
