/-
# Plan.Query -- queries under construction

A query refines the rows of a base query.  It is built step by step: operations are
added at the end of its plan, and what concerns the statement as a whole is set on
the side.

Parameters of the base query are bound by name.  A name begins with `@`, which may
be left out when it is bound, and binding it again in whatever case of letters
replaces the value.

Row mutators are functions on rows.  Registering one adds it to the list and marks
its place in the plan by a projection of the whole row.
-/
import PlanCompiler.NativeQuery.Basic
import PlanCompiler.Plan.Operation
import PlanCompiler.Text.Caseless

namespace PlanCompiler

set_option autoImplicit false

/-- Values of the parameters of a base query, in the order of their last binding. -/
abbrev Bindings := List (String × Literal)

/-- The name of a parameter, with its `@`. -/
def parameterKey (name : String) : String :=
  if name.toList.head? == some '@' then name else "@" ++ name

/-- Bind a parameter, forgetting the value it had under any case of its letters. -/
def Bindings.bind (name : String) (value : Literal) (bindings : Bindings) : Bindings :=
  let key := parameterKey name
  bindings.filter (fun (bound, _) => !Text.sameName bound key) ++ [(key, value)]

/-- A query whose rows have this type once they have been fetched. -/
structure Query (Row : Type) where
  baseSql : String
  plan : Plan
  fields : Fields
  mappings : Mappings
  allColumnsMapped : Bool
  commands : List Command
  parameters : Bindings
  mutators : List (Row → Row)

namespace Query

variable {Row : Type}

/-- All rows of a base query. -/
def ofSql (baseSql : String) : Query Row where
  baseSql := baseSql
  plan := []
  fields := .empty
  mappings := .empty
  allColumnsMapped := false
  commands := []
  parameters := []
  mutators := []

/-- All rows of a native query. -/
def ofNativeQuery (native : NativeQuery) : Except String (Query Row) := do
  return {
    ofSql (← native.text) with
    fields := native.fields
    mappings := native.mappings
    allColumnsMapped := native.allColumnsMapped
    commands := native.commands }

/-! ## Operations -/

/-- Refine the rows by one more operation. -/
def refine (operation : Operation) (query : Query Row) : Query Row :=
  { query with plan := query.plan ++ [operation] }

def filter (predicate : Predicate) (query : Query Row) : Query Row :=
  query.refine (.filter predicate)

def sortBy (key : Predicate) (direction : Direction) (query : Query Row) : Query Row :=
  query.refine (.sortBy key direction)

def thenSortBy (key : Predicate) (direction : Direction) (query : Query Row) : Query Row :=
  query.refine (.thenSortBy key direction)

def skip (count : UInt64) (query : Query Row) : Query Row :=
  query.refine (.skip count)

def take (count : UInt64) (query : Query Row) : Query Row :=
  query.refine (.take count)

def project (shape : Shape) (query : Query Row) : Query Row :=
  query.refine (.project shape none)

/-- Run a function over every fetched row, after the functions registered before it. -/
def registerMutator (mutator : Row → Row) (query : Query Row) : Query Row :=
  { query with mutators := query.mutators ++ [mutator] }.refine
    (.project .row (some query.mutators.length))

/-! ## Settings -/

/-- Replace the whole plan. -/
def withPlan (plan : Plan) (query : Query Row) : Query Row :=
  { query with plan := plan }

def withFields (fields : Fields) (query : Query Row) : Query Row :=
  { query with fields := fields }

/-- Read a field from a column or a fragment, replacing an earlier mapping of it. -/
def mapField (field : String) (column : Sql.Column) (query : Query Row) : Query Row :=
  { query with mappings := query.mappings.insert field column }

def ensureAllColumnsMapped (query : Query Row) : Query Row :=
  { query with allColumnsMapped := true }

def insertCommand (command : Command) (query : Query Row) : Query Row :=
  { query with commands := query.commands ++ [command] }

def bindParameter (name : String) (value : Literal) (query : Query Row) : Query Row :=
  { query with parameters := query.parameters.bind name value }

end Query

end PlanCompiler
