/-
# Configuration.Directory -- configurations kept in directories

A directory holds the configuration in one file and the SQL of native queries in
others, whose paths are relative to the directory.  Reading a configuration reads
those files too.

What writing does is a list of steps, which are done one after the other until
one of them fails.  A query whose file would not be below the directory, by the
first name of its path, is refused, and so is one whose file has not been read.
A refusal has its place among the steps: what comes before it has been done.
-/
import PlanCompiler.Configuration.Layout
import PlanCompiler.Configuration.Schema
import PlanCompiler.Files.Access

namespace PlanCompiler

set_option autoImplicit false

open Files (Access Failure Path)

namespace Configuration

def fileName : Path := ⟨"configuration.json"⟩

def schemaFileName : Path := ⟨"schema.json"⟩

/-! ## Reading -/

inductive ReadError
  /-- A text that is not JSON, with the first trouble in it. -/
  | notJson (file : Path) (error : Json.SyntaxError)
  /-- JSON that is not a configuration. -/
  | malformed (file : Path)
  | unsupportedVersion (version : UInt32)
  | unreadable (file : Path) (failure : Failure)
deriving DecidableEq, Repr

def ReadError.message : ReadError → String
  | .notJson file error =>
    "parse error on " ++ file.text ++ ":" ++ toString error.line ++ ": not a JSON text"
  | .malformed file => "parse error on " ++ file.text ++ ": not a configuration"
  | .unsupportedVersion version =>
    "unsupported configuration version " ++ toString version.toNat ++ ", expected "
      ++ toString currentVersion.toNat
  | .unreadable file failure => "I/O error: " ++ file.text ++ ": " ++ failure.message

/-- The configuration in a text, which is named for the errors in it. -/
def ofText (file : Path) (text : String) : Except ReadError Configuration :=
  match Json.read text with
  | .error error => .error (.notJson file ((layout.trouble? text).getD error))
  | .ok json =>
    match ofJson? json with
    | none => .error (.malformed file)
    | some configuration =>
      if configuration.version = currentVersion then .ok configuration
      else .error (.unsupportedVersion configuration.version)

section

variable {m : Type → Type} [Monad m] [Access m]

/-- The texts of files in a directory, each under the name it is listed with. -/
def readFiles (directory : Path) :
    List (String × String) → m (Except ReadError (List (String × String)))
  | [] => return .ok []
  | (name, file) :: rest => do
    let path := directory.join ⟨file⟩
    match ← Access.readText path with
    | .error failure => return .error (.unreadable path failure)
    | .ok text =>
      match ← readFiles directory rest with
      | .error error => return .error error
      | .ok texts => return .ok ((name, text) :: texts)

/-- Read the configuration that is kept in a directory. -/
def read (directory : Path) : m (Except ReadError Configuration) := do
  let file := directory.join fileName
  match ← Access.readText file with
  | .error failure => return .error (.unreadable file failure)
  | .ok text =>
    match ofText file text with
    | .error error => return .error error
    | .ok configuration =>
      match ← readFiles directory configuration.sqlFiles with
      | .error error => return .error error
      | .ok texts => return .ok (configuration.withTexts texts)

end

/-! ## Writing -/

inductive WriteError
  /-- A file that would not be below the directory. -/
  | outside (file directory : Path)
  /-- A file whose text is not known. -/
  | neverRead (file : Path)
  | failed (failure : Failure)
deriving DecidableEq, Repr

def WriteError.message : WriteError → String
  | .outside file directory =>
    "file " ++ file.text ++ " is outside the destination directory " ++ directory.text
  | .neverRead file => "native query sql file " ++ file.text ++ " was never read"
  | .failed failure => "I/O error: " ++ failure.message

inductive Step
  | createDirectories (directory : Path)
  | write (file : Path) (text : String)
  | refuse (error : WriteError)
deriving DecidableEq, Repr

/-- The text of the file that holds a JSON value. -/
def fileText (json : Json) : String :=
  json.pretty ++ "\n"

/-- How the file of a native query is written. -/
def sqlSteps (directory : Path) : SqlSource → List Step
  | .inline _ => []
  | .file path contents =>
    let path : Path := ⟨path⟩
    if path.isAbsolute || path.startsAbove then [.refuse (.outside path directory)]
    else
      match contents with
      | none => [.refuse (.neverRead path)]
      | some text =>
        let file := directory.join path
        [.createDirectories file.parent, .write file text]

/-- How a configuration is written into a directory: itself, the files of its native
queries, and the schema. -/
def writeSteps (directory : Path) (configuration : Configuration) : List Step :=
  .createDirectories directory
    :: .write (directory.join fileName) (fileText configuration.toJson)
    :: (configuration.nativeQueries.entries.flatMap fun (_, query) =>
        sqlSteps directory query.sql)
    ++ [.write (directory.join schemaFileName) (fileText schema)]

section

variable {m : Type → Type} [Monad m] [Access m]

def Step.run : Step → m (Except WriteError Unit)
  | .createDirectories directory => do
    return (← Access.createDirectories directory).mapError .failed
  | .write file text => do return (← Access.writeText file text).mapError .failed
  | .refuse error => return .error error

/-- Do the steps until one fails. -/
def runSteps : List Step → m (Except WriteError Unit)
  | [] => return .ok ()
  | step :: rest => do
    match ← step.run with
    | .error error => return .error error
    | .ok () => runSteps rest

/-- Write a configuration into a directory, which is made if it is missing. -/
def write (directory : Path) (configuration : Configuration) : m (Except WriteError Unit) :=
  runSteps (configuration.writeSteps directory)

end

end Configuration

end PlanCompiler
