/-
# Compile.Order -- the order that the sort operations add up to

Each `sort_by` begins a chain that the `then_sort_by` after it refine.  A later
chain takes precedence, and the earlier ones follow it to break ties.  A field
occurs once, where it was sorted by last; field names are compared ignoring case.

Keys are compiled from the last to the first, so of several keys that are
refused the last is reported.
-/
import PlanCompiler.Text.Caseless
import PlanCompiler.Compile.Condition

namespace PlanCompiler

set_option autoImplicit false

/-- A sort operation with its key simplified. -/
structure SortStep where
  key : Draft
  direction : Direction
  /-- Whether it begins a chain. -/
  begins : Bool

structure SortKey where
  field : String
  column : Sql.Column
  direction : Direction
  /-- The position of the operation among the sort operations. -/
  index : Nat
deriving DecidableEq, Repr

namespace SortKey

def ofStep (env : Environment) (step : SortStep) (index : Nat) :
    Except CompileError SortKey :=
  match step.key with
  | .field field => do return ⟨field, ← env.column field, step.direction, index⟩
  | key => .error (.unsupportedSortKey (Draft.display key))

/-- The keys of steps whose first one is at this position, each with whether it begins a chain. -/
def ofSteps (env : Environment) (index : Nat) :
    List SortStep → Except CompileError (List (SortKey × Bool))
  | [] => .ok []
  | step :: rest => do
    let later ← ofSteps env (index + 1) rest
    return (← ofStep env step index, step.begins) :: later

/-- The keys before the first chain, and the chains. -/
def chains : List (SortKey × Bool) → List SortKey × List (List SortKey)
  | [] => ([], [])
  | (key, begins) :: rest =>
    let (keys, later) := chains rest
    if begins then ([], (key :: keys) :: later) else (key :: keys, later)

/-- Whether no key of the list sorts by the same field after this one. -/
def isLatest (keys : List SortKey) (key : SortKey) : Bool :=
  !keys.any fun other => key.index < other.index && Text.sameName other.field key.field

/-- The keys of a sequence of sort operations, the most significant first. -/
def ordering (env : Environment) (steps : List SortStep) :
    Except CompileError (List SortKey) := do
  match chains (← ofSteps env 0 steps) with
  | (orphan :: _, _) => .error (.thenSortWithoutSort orphan.field)
  | ([], chains) =>
    let keys := chains.reverse.flatten
    return keys.filter (isLatest keys)

end SortKey

/-- The `ORDER BY` clause of these keys. -/
def orderByPieces (keys : List SortKey) : List Sql.Piece :=
  Sql.orderByPieces (keys.map fun key => (.column key.column, key.direction))

end PlanCompiler
