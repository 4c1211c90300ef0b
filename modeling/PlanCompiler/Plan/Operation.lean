/-
# Plan.Operation -- the operations of a plan

A plan is the list of its operations in the order in which they were specified.
In JSON, and when a plan is shown, each operation encloses the plan it refines:
the outermost operation is the one specified last, and the innermost thing is the
source, that is the rows of the base query.
-/
import PlanCompiler.Direction
import PlanCompiler.Predicate.Json

namespace PlanCompiler

set_option autoImplicit false

/-- What a projection keeps of each row. -/
inductive Shape
  /-- The whole row. -/
  | row
  | field (name : String)
  /-- Several members, of which only those that are simple fields are columns. -/
  | composite (members : List Predicate)

inductive Operation
  | filter (predicate : Predicate)
  | sortBy (key : Predicate) (direction : Direction)
  | thenSortBy (key : Predicate) (direction : Direction)
  | skip (count : UInt64)
  | take (count : UInt64)
  | project (shape : Shape) (mutator : Option Nat)

abbrev Plan := List Operation

/-! ## Display -/

namespace Shape

/-- The members of these names. -/
def fields (names : List String) : Shape :=
  .composite (names.map Predicate.field)

def display : Shape → String
  | .row => "row"
  | .field name => name
  | .composite members => "\x7b " ++ ", ".intercalate (members.map Predicate.display) ++ " \x7d"

end Shape

namespace Operation

def display : Operation → String
  | .filter predicate => "filter(" ++ predicate.display ++ ")"
  | .sortBy key direction => "sort_by(" ++ key.display ++ " " ++ direction.keyword ++ ")"
  | .thenSortBy key direction => "then_sort_by(" ++ key.display ++ " " ++ direction.keyword ++ ")"
  | .skip count => "skip(" ++ toString count.toNat ++ ")"
  | .take count => "take(" ++ toString count.toNat ++ ")"
  | .project shape none => "project(" ++ shape.display ++ ")"
  | .project shape (some id) =>
    "project(" ++ shape.display ++ ", mutator #" ++ toString id ++ ")"

end Operation

namespace Plan

def display (plan : Plan) : String :=
  plan.foldl (fun source operation => source ++ "." ++ operation.display) "source"

end Plan

end PlanCompiler
