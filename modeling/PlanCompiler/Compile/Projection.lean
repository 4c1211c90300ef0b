/-
# Compile.Projection -- the columns that a plan narrows to

A projection of a field or of several members selects those that simplify to a
field which is a single column; whatever else is asked for is not selected.  Only
one projection may narrow, even if it selects nothing.  A projection of the whole
row narrows nothing.  Any projection may name a registered mutator, which is
collected to be run over the fetched rows.

The state keeps what a projection recorded before it failed.
-/
import PlanCompiler.Plan.Query
import PlanCompiler.Compile.Condition

namespace PlanCompiler

set_option autoImplicit false

/-! ## What is done to fetched rows -/

/-- The mutators run over every row, in order. -/
abbrev ItemTransform (Row : Type) := List (Row → Row)

namespace ItemTransform

variable {Row : Type}

def apply (transform : ItemTransform Row) (row : Row) : Row :=
  transform.foldl (fun row mutate => mutate row) row

def isIdentity (transform : ItemTransform Row) : Bool :=
  transform.isEmpty

end ItemTransform

/-! ## Projections -/

/-- What the projections have recorded so far. -/
structure Projection (Row : Type) where
  /-- The selected fields, in the order of their first mention and without repetition. -/
  selected : List String
  narrowed : Bool
  transform : ItemTransform Row

namespace Projection

variable {Row : Type}

def empty : Projection Row := ⟨[], false, []⟩

/-- A new state and whether the step that led to it succeeded. -/
abbrev Outcome (Row : Type) := Projection Row × Except CompileError Unit

/-- Run a second step if the first succeeded. -/
def Outcome.andThen (first : Outcome Row) (second : Projection Row → Outcome Row) : Outcome Row :=
  match first with
  | (state, .ok ()) => second state
  | failed => failed

def select (field : String) (state : Projection Row) : Projection Row :=
  if state.selected.contains field then state
  else { state with selected := state.selected ++ [field] }

/-- Select a field, if it is a single column. -/
def selectIfSimple (env : Environment) (field : String) (state : Projection Row) : Outcome Row :=
  match env.isSimple field with
  | .ok simple => (if simple then state.select field else state, .ok ())
  | .error e => (state, .error e)

def selectMembers (env : Environment) : List Predicate → Projection Row → Outcome Row
  | [], state => (state, .ok ())
  | member :: rest, state =>
    match Draft.simplify env member with
    | .field field => (state.selectIfSimple env field).andThen (selectMembers env rest)
    | _ => selectMembers env rest state

/-- Begin to narrow, which only one projection may. -/
def narrow (state : Projection Row) : Outcome Row :=
  if state.narrowed then (state, .error .narrowedTwice)
  else ({ state with narrowed := true }, .ok ())

def selectShape (env : Environment) (shape : Shape) (state : Projection Row) : Outcome Row :=
  match shape with
  | .row => (state, .ok ())
  | .field field => state.narrow.andThen (selectIfSimple env field)
  | .composite members => state.narrow.andThen (selectMembers env members)

/-- Collect a mutator by its index among the registered ones. -/
def collect (mutators : List (Row → Row)) (mutator : Option Nat) (state : Projection Row) :
    Outcome Row :=
  match mutator with
  | none => (state, .ok ())
  | some id =>
    match mutators[id]? with
    | some mutate => ({ state with transform := state.transform ++ [mutate] }, .ok ())
    | none => (state, .error (.mutatorNotFound id))

/-- Record one projection. -/
def project (env : Environment) (mutators : List (Row → Row)) (shape : Shape)
    (mutator : Option Nat) (state : Projection Row) : Outcome Row :=
  (state.collect mutators mutator).andThen (selectShape env shape)

end Projection

end PlanCompiler
