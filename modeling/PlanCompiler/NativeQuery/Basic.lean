/-
# NativeQuery.Basic -- base queries with what is known about their rows

A native query is SQL that plans are compiled around.  It is never parsed.  The
SQL is written in place or kept in a file, whose text is known once it has been
read.
-/
import PlanCompiler.NativeQuery.Command
import PlanCompiler.NativeQuery.Field
import PlanCompiler.NativeQuery.Mapping

namespace PlanCompiler

set_option autoImplicit false

inductive SqlSource
  | inline (text : String)
  | file (path : String) (contents : Option String)
deriving DecidableEq, Repr

/-- The SQL, unless it is in a file that has not been read. -/
def SqlSource.text? : SqlSource → Option String
  | .inline text => some text
  | .file _ contents => contents

/-- The path of the file that holds the SQL. -/
def SqlSource.path? : SqlSource → Option String
  | .inline _ => none
  | .file path _ => some path

/-- The source once its file, if it is one, has been read. -/
def SqlSource.withContents (contents : Option String) : SqlSource → SqlSource
  | .inline text => .inline text
  | .file path _ => .file path contents

structure NativeQuery where
  sql : SqlSource
  fields : Fields
  mappings : Mappings
  /-- Every column is selected anew through its mapping, and filters go into `WHERE`. -/
  allColumnsMapped : Bool
  commands : List Command
  description : Option String
deriving DecidableEq

/-- What is said about a query whose file has not been read. -/
def unreadMessage (path : String) : String :=
  "native query sql file " ++ path ++ " was not read during parsing"

namespace NativeQuery

def text (query : NativeQuery) : Except String String :=
  match query.sql with
  | .inline text => .ok text
  | .file _ (some text) => .ok text
  | .file path none => .error (unreadMessage path)

/-! ## JSON -/

def sourceToJson : SqlSource → Json
  | .inline text => .string text
  | .file path _ => .object [("file", .string path)]

def sourceOfJson? : Json → Option SqlSource
  | .string text => some (.inline text)
  | .object members => (Json.object members).whole? fun json => do
    let record ← json.record? ["file"]
    some (.file (← record.required "file" Json.string?) none)
  | _ => none

def toJson (query : NativeQuery) : Json :=
  .object (("sql", sourceToJson query.sql) ::
    ("fields", Json.ofDictionary FieldInfo.toJson query.fields) ::
    (Json.memberIf (!query.mappings.isEmpty) "columnMappings"
        (Json.ofDictionary Mappings.columnToJson query.mappings)
      ++ Json.memberIf query.allColumnsMapped "ensureAllColumnsMapped" (.bool true)
      ++ Json.memberIf (!query.commands.isEmpty) "additionalCommands"
        (.array (query.commands.map Command.toJson))
      ++ Json.memberOf "description" .string query.description))

def ofJson? (json : Json) : Option NativeQuery := do
  let record ← json.record? ["sql", "fields", "columnMappings", "ensureAllColumnsMapped",
    "additionalCommands", "description"]
  some {
    sql := ← record.required "sql" sourceOfJson?
    fields := ← record.defaulted "fields" .empty (Json.dictionary? FieldInfo.ofJson?)
    mappings := ← record.defaulted "columnMappings" .empty (Json.dictionary? Mappings.columnOfJson?)
    allColumnsMapped := ← record.defaulted "ensureAllColumnsMapped" false Json.bool?
    commands := ← record.defaulted "additionalCommands" [] (Json.list? Command.ofJson?)
    description := ← record.optional "description" Json.string? }

end NativeQuery

end PlanCompiler
