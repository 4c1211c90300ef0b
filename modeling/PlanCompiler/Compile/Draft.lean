/-
# Compile.Draft -- predicates under compilation

A draft is a term of which some parts may have been compiled already; those are
leaves that hold SQL.
-/
import PlanCompiler.Predicate.Basic
import PlanCompiler.Sql.Expression

namespace PlanCompiler

set_option autoImplicit false

abbrev Draft := Term Sql.Expression

namespace Draft

/-- The draft of which nothing has been compiled. -/
def ofPredicate (p : Predicate) : Draft :=
  Term.mapLeaves (fun leaf => nomatch leaf) p

def display (draft : Draft) : String :=
  Term.display Sql.Expression.text draft

/-- Whether a field or a column is read anywhere. -/
def readsField (draft : Draft) : Bool :=
  Term.reads Sql.Expression.reads draft

mutual

/-- Whether two drafts are written alike. -/
def same : Draft → Draft → Bool
  | .leaf a, .leaf b => a.same b
  | .field a, .field b => a = b
  | .literal a, .literal b => a.same b
  | .unary op a, .unary op' b => op = op' && same a b
  | .binary op a b, .binary op' c d => op = op' && same a c && same b d
  | .conditional a b c, .conditional d e f => same a d && same b e && same c f
  | .call name target args isStatic, .call name' target' args' isStatic' =>
    name = name' && sameTarget target target' && sameArgs args args' && isStatic == isStatic'
  | _, _ => false

def sameTarget : Option Draft → Option Draft → Bool
  | none, none => true
  | some a, some b => same a b
  | _, _ => false

def sameArgs : List Draft → List Draft → Bool
  | [], [] => true
  | a :: as, b :: bs => same a b && sameArgs as bs
  | _, _ => false

end

end Draft

end PlanCompiler
