/-
# Configuration.Schema -- the JSON Schema of configurations

The schema is a JSON value itself.  It is written next to every configuration, so
that an editor can check and complete one.
-/
import PlanCompiler.Configuration.PoolSettings
import PlanCompiler.Json.Printer
import PlanCompiler.NativeQuery.Command
import PlanCompiler.ScalarType

namespace PlanCompiler.Configuration.Schema

set_option autoImplicit false

/-- The members of a schema. -/
abbrev Members := List (String × Json)

/-! ## Parts of schemas -/

def texts (values : List String) : Json :=
  .array (values.map .string)

def describedAs (text : String) : Members :=
  [("description", .string text)]

def byDefault (value : Json) : Members :=
  [("default", value)]

def typed (type : String) : Members :=
  [("type", .string type)]

/-- Of a type, or null. -/
def nullable (type : String) : Members :=
  [("type", texts [type, "null"])]

def unsigned (format : String) : Members :=
  [("format", .string format), ("minimum", .real 0)]

def reference (name : String) : Json :=
  .object [("$ref", .string ("#/definitions/" ++ name))]

/-- The schema of a name, where something else is said as well. -/
def as (name : String) : Members :=
  [("allOf", .array [reference name])]

def record (required : List String) (properties : Members) : Members :=
  typed "object" ++ Json.memberIf (!required.isEmpty) "required" (texts required)
    ++ [("properties", .object properties)]

/-- Objects with any members, all of them of one schema. -/
def dictionary (values : String) : Members :=
  typed "object" ++ [("additionalProperties", reference values)]

/-- A text in place, or an object with one text. -/
def textOr (member : String) : Members :=
  [("anyOf", .array [.object (typed "string"),
    .object (record [member] [(member, .object (typed "string"))])])]

def oneOf (choices : List Members) : Members :=
  [("oneOf", .array (choices.map .object))]

def keywords (spellings : List String) : Members :=
  typed "string" ++ [("enum", texts spellings)]

/-- An object with one text and nothing else. -/
def only (member : String) : Members :=
  record [member] [(member, .object (typed "string"))]
    ++ [("additionalProperties", .bool false)]

/-! ## The definitions -/

def poolSettings : Members :=
  let settings := PoolSettings.default
  describedAs "Settings for the MySQL connection pool" ++ record [] [
    ("maxConnections", .object (describedAs "maximum number of pool connections"
      ++ byDefault (.integer settings.maxConnections.toNat)
      ++ typed "integer" ++ unsigned "uint32")),
    ("poolTimeout", .object
      (describedAs "timeout for acquiring a connection from the pool (seconds)"
        ++ byDefault (PoolSettings.seconds settings.poolTimeout)
        ++ typed "integer" ++ unsigned "uint64")),
    ("idleTimeout", .object
      (describedAs "idle timeout for releasing a connection from the pool (seconds)"
        ++ byDefault (Json.ofOption PoolSettings.seconds settings.idleTimeout)
        ++ nullable "integer" ++ unsigned "uint64")),
    ("connectionLifetime", .object
      (describedAs "maximum lifetime for an individual connection (seconds)"
        ++ byDefault (Json.ofOption PoolSettings.seconds settings.connectionLifetime)
        ++ nullable "integer" ++ unsigned "uint64"))]

def nativeQuery : Members :=
  describedAs "Information about a Native Query" ++ record ["sql"] [
    ("sql", .object (describedAs ("SQL the plan is compiled on top of, such as "
        ++ "`SELECT * FROM orders o JOIN customers c ON ...`. "
        ++ "It is never parsed, only concatenated with the compiled clauses.")
      ++ as "NativeQuerySql")),
    ("fields", .object (describedAs "Fields of the rows returned by the Native Query"
      ++ byDefault (.object []) ++ as "RecordInfo")),
    ("columnMappings", .object (describedAs "Where each logical field lives in the SQL above"
      ++ as "ColumnMappings")),
    ("ensureAllColumnsMapped", .object
      (describedAs "Re-select every mapped column and filter with WHERE instead of HAVING"
        ++ typed "boolean")),
    ("additionalCommands", .object (typed "array" ++ [("items", reference "CommandLocale")])),
    ("description", .object (nullable "string"))]

def field : Members :=
  describedAs "Information about a field of a row." ++ record ["type"] [
    ("type", reference "ScalarType"),
    ("nullable", .object (byDefault (.bool false) ++ typed "boolean")),
    ("description", .object (nullable "string"))]

def columnMapping : Members :=
  describedAs "Where a logical field lives in the base query." ++ oneOf [
    describedAs "A column name, quoted unless it is already quoted or qualified."
      ++ only "column",
    describedAs "A SQL fragment emitted verbatim, such as `CONCAT(a.first, a.last)`."
      ++ only "raw"]

def commandRegion : Members :=
  describedAs "Where a command is inserted." ++ oneOf [
    describedAs "Before the statement, as a statement of its own."
      ++ keywords [Region.header.spelling],
    describedAs
        "Before the HAVING clause (or whatever clause comes next), usually a `GROUP BY`."
      ++ keywords [Region.beforeGroupingOrHaving.spelling],
    describedAs "After the generated select list."
      ++ keywords [Region.afterSelectionColumns.spelling]]

def definitions : List (String × Members) := [
  ("ConnectionUri", describedAs "Connection string for a MySQL-compatible database."
    ++ as "Secret"),
  ("Secret", describedAs
      "A value that is either written in the configuration or read from the environment."
    ++ textOr "variable"),
  ("PoolSettings", poolSettings),
  ("Metadata", describedAs "Metadata information." ++ record [] [
    ("nativeQueries", .object (byDefault (.object []) ++ as "NativeQueries"))]),
  ("NativeQueries", dictionary "NativeQueryInfo"),
  ("NativeQueryInfo", nativeQuery),
  ("NativeQuerySql", describedAs ("The SQL of a Native Query, "
      ++ "either inline or stored in a file next to the configuration.")
    ++ textOr "file"),
  ("RecordInfo", describedAs ("The declared fields of the rows a base query returns, "
      ++ "in declaration order.\n\n"
      ++ "An empty record places no restriction on field references: "
      ++ "every referenced field is treated as a simple column.")
    ++ dictionary "FieldInfo"),
  ("FieldInfo", field),
  ("ScalarType", describedAs "The kinds of values a field of a row can hold."
    ++ keywords (ScalarType.all.map ScalarType.name)),
  ("ColumnMappings", describedAs "Column renames, in the order they were declared."
    ++ dictionary "ColumnMapping"),
  ("ColumnMapping", columnMapping),
  ("CommandLocale", record ["region", "sql"] [
    ("region", reference "CommandRegion"), ("sql", .object (typed "string"))]),
  ("CommandRegion", commandRegion)]

end Schema

/-- The schema of configurations. -/
def schema : Json :=
  .object ([("$schema", .string "http://json-schema.org/draft-07/schema#"),
      ("title", .string "ParsedConfiguration")]
    ++ Schema.describedAs ("Initial configuration, just enough to connect to a database and "
      ++ "compile plans over its base queries.")
    ++ Schema.record ["connectionUri", "version"] [
      ("version", .object (Schema.typed "integer" ++ Schema.unsigned "uint32")),
      ("connectionUri", Schema.reference "ConnectionUri"),
      ("poolSettings", Schema.reference "PoolSettings"),
      ("metadata", .object (Schema.byDefault (.object [("nativeQueries", .object [])])
        ++ Schema.as "Metadata"))]
    ++ [("definitions", .object (Schema.definitions.map fun (name, members) =>
      (name, .object members)))])

end PlanCompiler.Configuration
