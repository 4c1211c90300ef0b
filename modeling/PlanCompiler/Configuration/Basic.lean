/-
# Configuration.Basic -- the connection, its pool and the native queries

A configuration says how to reach the database and which native queries plans can
be compiled around.  The queries are kept in the order of their names.

In JSON the settings of the pool are left out when all of them are the defaults.
Secrets stay as they are written; `resolve` reads them from the environment.
-/
import PlanCompiler.Configuration.PoolSettings
import PlanCompiler.Configuration.Secret
import PlanCompiler.NativeQuery.Basic

namespace PlanCompiler

set_option autoImplicit false

structure Configuration where
  /-- The version of the format. -/
  version : UInt32
  connectionUri : Secret
  pool : PoolSettings
  nativeQueries : Dictionary NativeQuery
deriving DecidableEq

/-- A configuration whose secrets are known. -/
structure ResolvedConfiguration where
  connectionUri : String
  pool : PoolSettings
  nativeQueries : Dictionary NativeQuery

namespace Configuration

def currentVersion : UInt32 := 1

/-- The variable that the connection is read from where nothing else is said. -/
def connectionVariable : String := "SQL_QUERYABLE_CONNECTION_URI"

/-- A configuration to begin with. -/
def initial : Configuration where
  version := currentVersion
  connectionUri := .fromVariable connectionVariable
  pool := .default
  nativeQueries := .empty

/-- The secrets read from the environment, or the name of a variable that is not present. -/
def resolve (environment : Variables) (configuration : Configuration) :
    Except String ResolvedConfiguration := do
  return {
    connectionUri := ← configuration.connectionUri.resolve environment
    pool := configuration.pool
    nativeQueries := configuration.nativeQueries }

/-- What is said about a variable that is not present. -/
def missingVariableMessage (name : String) : String :=
  "invalid configuration environment variable '" ++ name ++ "': environment variable "
    ++ name ++ " is not present"

/-! ## The files of native queries -/

/-- The queries whose SQL is in a file, with the paths of the files. -/
def sqlFiles (configuration : Configuration) : List (String × String) :=
  configuration.nativeQueries.entries.filterMap fun (name, query) =>
    query.sql.path?.map fun path => (name, path)

/-- Give every query whose SQL is in a file the text listed under its name. -/
def withTexts (texts : List (String × String)) (configuration : Configuration) :
    Configuration :=
  { configuration with
    nativeQueries := configuration.nativeQueries.mapWithName fun name query =>
      { query with sql := query.sql.withContents (texts.lookup name) } }

/-! ## JSON -/

def toJson (configuration : Configuration) : Json :=
  .object (("version", .integer configuration.version.toNat) ::
    ("connectionUri", configuration.connectionUri.toJson) ::
    (Json.memberIf (!configuration.pool.isDefault) "poolSettings" configuration.pool.toJson
      ++ [("metadata", .object [
        ("nativeQueries", Json.ofDictionary NativeQuery.toJson configuration.nativeQueries)])]))

/-- The native queries of the metadata. -/
def metadataOfJson? (json : Json) : Option (Dictionary NativeQuery) := do
  let record ← json.record? ["nativeQueries"]
  let queries ← record.defaulted "nativeQueries" .empty (Json.dictionary? NativeQuery.ofJson?)
  some queries.sorted

def ofJson? (json : Json) : Option Configuration := do
  let record ← json.record? ["version", "connectionUri", "poolSettings", "metadata"]
  some {
    version := ← record.required "version" Json.uint32?
    connectionUri := ← record.required "connectionUri" Secret.ofJson?
    pool := ← record.defaulted "poolSettings" .default PoolSettings.ofJson?
    nativeQueries := ← record.defaulted "metadata" .empty metadataOfJson? }

end Configuration

end PlanCompiler
