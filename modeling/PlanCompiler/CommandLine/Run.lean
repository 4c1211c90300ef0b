/-
# CommandLine.Run -- running a command line

A run reads and writes files and ends with an exit code, a text for the output and
a report for the terminal.  A command line that cannot be read ends with the code
2, and everything else that goes wrong ends with 1 and says why.
-/
import PlanCompiler.CommandLine.Invocation
import PlanCompiler.Configuration.Directory
import PlanCompiler.Literal.Json
import PlanCompiler.Literal.Text
import PlanCompiler.Plan.Json
import PlanCompiler.Text.Blank
import PlanCompiler.Compile.Statement

namespace PlanCompiler.CommandLine

set_option autoImplicit false

open Files (Access Path)

structure Outcome where
  exitCode : UInt32
  output : String
  report : String
deriving DecidableEq, Repr

/-! ## What can go wrong -/

inductive Problem
  | configuration (error : Configuration.ReadError)
  | writing (error : Configuration.WriteError)
  | alreadyThere (file : Path)
  | unknownQuery (name : String)
  | unreadablePlan (file : Path)
  | malformedPlan (file : Path)
  | unreadSql (message : String)
  | parameterWithoutValue (written : String)
  | parameterWithoutName (written : String)
  | compilation (error : CompileError)
deriving DecidableEq, Repr

def Problem.message : Problem → String
  | .configuration error => error.message
  | .writing error => error.message
  | .alreadyThere file => file.text ++ " already exists, refusing to overwrite it"
  | .unknownQuery name => "unknown native query '" ++ name ++ "'"
  | .unreadablePlan file => "reading " ++ file.text
  | .malformedPlan file => "parsing the plan in " ++ file.text
  | .unreadSql message => message
  | .parameterWithoutValue written => "expected NAME=VALUE, got '" ++ written ++ "'"
  | .parameterWithoutName written => "parameter '" ++ written ++ "' has no name"
  | .compilation error => error.message

/-! ## Compiling -/

/-- A value as it is written: the JSON of a literal, or else a text. -/
def valueOf (written : List Char) : Literal :=
  let text := String.ofList written
  ((Json.read? text).bind Literal.ofJson?).getD (.string text)

/-- The name and the value of a parameter.  Blanks around the name do not count. -/
def readParameter (written : String) : Except Problem (String × Literal) :=
  match Text.cut? '=' written.toList with
  | none => .error (.parameterWithoutValue written)
  | some (name, value) =>
    let name := Text.trim name
    if name.isEmpty then .error (.parameterWithoutName written)
    else .ok (.ofList name, valueOf value)

/-- A statement with its parameters, one to a line. -/
def statementText (statement : Statement) : String :=
  statement.finalSql ++ "\n"
    ++ String.join (statement.allParameters.map fun (name, value) =>
      "\n" ++ name ++ " = " ++ value.display)
    ++ "\n"

/-- Compile a plan that refines a native query. -/
def compilePlan (request : Request) (native : NativeQuery) (plan : Plan) :
    Except Problem String := do
  let query : Query Unit ← (Query.ofNativeQuery native).mapError .unreadSql
  let bindings ← request.parameters.mapM readParameter
  let query := bindings.foldl (fun query (name, value) => query.bindParameter name value)
    (query.withPlan plan)
  let statement ←
    (if request.count then query.compileCount else query.compile.map (·.1)).mapError
      .compilation
  return statementText statement

section

variable {m : Type → Type} [Monad m] [Access m]

def compile (directory : Path) (request : Request) : m (Except Problem String) := do
  match ← Configuration.read directory with
  | .error error => return .error (.configuration error)
  | .ok configuration =>
    match configuration.nativeQueries.lookup request.query with
    | none => return .error (.unknownQuery request.query)
    | some native =>
      match ← Access.readText request.planFile with
      | .error _ => return .error (.unreadablePlan request.planFile)
      | .ok text =>
        match (Json.read? text).bind Plan.ofJson? with
        | none => return .error (.malformedPlan request.planFile)
        | some plan => return compilePlan request native plan

/-! ## The other commands -/

/-- Write a configuration to begin with, unless there is one. -/
def create (directory : Path) : m (Except Problem String) := do
  let file := directory.join Configuration.fileName
  if ← Access.isPresent file then return .error (.alreadyThere file)
  else
    return (← Configuration.write directory .initial).map (fun _ => "") |>.mapError .writing

def Invocation.run (invocation : Invocation) : m (Except Problem String) :=
  match invocation.command with
  | .create => CommandLine.create invocation.directory
  | .compile request => CommandLine.compile invocation.directory request
  | .printSchema => return .ok (Configuration.fileText Configuration.schema)

def usage : String :=
  "Usage: sql-queryable [--configuration DIRECTORY] COMMAND\n\n"
    ++ "  initialize\n"
    ++ "  translate --query QUERY --plan FILE [--parameter NAME=VALUE]... [--count]\n"
    ++ "  print-schema\n"

def versionText : String := "sql-queryable-cli 0.1.0\n"

/-- Run a command line in an environment. -/
def run (arguments : List String) (environment : Variables) : m Outcome := do
  match Invocation.ofArguments arguments environment with
  | .error .help => return ⟨0, usage, ""⟩
  | .error .version => return ⟨0, versionText, ""⟩
  | .error (.misused reason) => return ⟨2, "", "error: " ++ reason ++ "\n\n" ++ usage⟩
  | .ok invocation =>
    match ← invocation.run with
    | .ok output => return ⟨0, output, ""⟩
    | .error problem => return ⟨1, "", "Error: " ++ problem.message ++ "\n"⟩

end

end PlanCompiler.CommandLine
