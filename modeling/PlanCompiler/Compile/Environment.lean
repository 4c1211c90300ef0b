/-
# Compile.Environment -- what the compiler knows about the row

A field is read from where its mapping says, or else from the column of its own
name.  Only a row with declared fields refuses any: it has the declared ones and
the mapped ones.
-/
import PlanCompiler.NativeQuery.Field
import PlanCompiler.NativeQuery.Mapping
import PlanCompiler.Sql.Clause
import PlanCompiler.Compile.Error

namespace PlanCompiler

set_option autoImplicit false

structure Environment where
  mappings : Mappings
  fields : Fields
  /-- Every column is selected anew through its mapping, and filters go into `WHERE`. -/
  allColumnsMapped : Bool

namespace Environment

/-- Where a field is read from. -/
def resolve (env : Environment) (field : String) : Sql.Column :=
  (env.mappings.lookup field).getD (.named field)

/-- Whether the field is read from a fragment. -/
def isFragment (env : Environment) (field : String) : Bool :=
  match env.resolve field with
  | .named _ => false
  | .mapped _ => true

/-- Whether the row has the field. -/
def knows (env : Environment) (field : String) : Bool :=
  env.fields.isEmpty || (env.fields.lookup field).isSome || (env.mappings.lookup field).isSome

def check (env : Environment) (field : String) : Except CompileError Unit :=
  if env.knows field then .ok () else .error (.fieldNotFound field)

/-- Where a field of the row is read from. -/
def column (env : Environment) (field : String) : Except CompileError Sql.Column := do
  env.check field
  return env.resolve field

/-- Whether a field of the row is a single column.  A field that is not declared is taken for
one. -/
def isSimple (env : Environment) (field : String) : Except CompileError Bool := do
  env.check field
  return ((env.fields.lookup field).map fun info => info.type.isSimple).getD true

def filterClause (env : Environment) : Sql.FilterClause :=
  if env.allColumnsMapped then .where else .having

end Environment

end PlanCompiler
