/-
# NativeQuery.Mapping -- where fields are read from

A mapping renames a field to a column or replaces it by a fragment of SQL.  In
JSON it is an object with the one member `column` or `raw`.
-/
import PlanCompiler.Json.Record
import PlanCompiler.Sql.Expression

namespace PlanCompiler

set_option autoImplicit false

/-- What the mapped fields are read from, in the order of the declaration. -/
abbrev Mappings := Dictionary Sql.Column

namespace Mappings

def columnToJson : Sql.Column → Json
  | .named name => .object [("column", .string name)]
  | .mapped fragment => .object [("raw", .string fragment)]

def columnOfJson? : Json → Option Sql.Column
  | .object [("column", .string name)] => some (.named name)
  | .object [("raw", .string fragment)] => some (.mapped fragment)
  | _ => none

theorem column_roundtrip (column : Sql.Column) :
    columnOfJson? (columnToJson column) = some column := by
  cases column <;> rfl

end Mappings

end PlanCompiler
