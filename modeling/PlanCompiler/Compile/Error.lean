/-
# Compile.Error -- why a plan cannot be compiled
-/

namespace PlanCompiler

set_option autoImplicit false

inductive CompileError
  | unsupportedMethod (call : String)
  | unsupportedSortKey (key : String)
  | narrowedTwice
  | thenSortWithoutSort (field : String)
  | emptyInList (test : String)
  | fieldNotFound (field : String)
  | mutatorNotFound (id : Nat)
  | arrayNotSupported (value : String)
  | parameterNameCollision (name : String)
deriving DecidableEq, Repr

namespace CompileError

def message : CompileError → String
  | .unsupportedMethod call => "Method '" ++ call ++ "' cannot be translated to SQL."
  | .unsupportedSortKey key => "Sort key '" ++ key ++ "' does not reduce to a field."
  | .narrowedTwice =>
    "Select translated twice: a plan can only narrow its columns once."
  | .thenSortWithoutSort field => "then_sort_by(" ++ field ++ ") has no sort_by before it."
  | .emptyInList test =>
    "'" ++ test ++ "' tests membership of an empty collection inside a larger predicate."
  | .fieldNotFound field => "Field '" ++ field ++ "' is not declared on the row."
  | .mutatorNotFound id => "Row mutator #" ++ toString id ++ " is not registered on the plan."
  | .arrayNotSupported value => "Collections can only be used with Contains: '" ++ value ++ "'."
  | .parameterNameCollision name =>
    "Parameter '" ++ name ++ "' collides with a generated parameter."

end CompileError

end PlanCompiler
