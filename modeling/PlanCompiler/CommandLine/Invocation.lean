/-
# CommandLine.Invocation -- what a command line asks for

The command is a word.  The directory of the configuration can be given before
the command or after it, where the latter counts more, or else in the
environment.
-/
import PlanCompiler.CommandLine.Option
import PlanCompiler.Configuration.Secret
import PlanCompiler.Files.Path

namespace PlanCompiler.CommandLine

set_option autoImplicit false

open Files (Path)

/-- A plan to compile. -/
structure Request where
  query : String
  planFile : Path
  /-- Parameters as they are written. -/
  parameters : List String
  /-- Count the rows instead of fetching them. -/
  count : Bool
deriving DecidableEq, Repr

inductive Command
  | create
  | compile (request : Request)
  | printSchema
deriving DecidableEq, Repr

structure Invocation where
  directory : Path
  command : Command
deriving DecidableEq, Repr

/-- The variable that names the directory of the configuration. -/
def directoryVariable : String := "SQL_QUERYABLE_CONFIGURATION"

/-- The options of every command. -/
def commonOptions : Options := [("configuration", .path)]

/-- The clauses of a statement have a line each as it is, which `pretty` does not change. -/
def compileOptions : Options :=
  [("query", .text), ("plan", .path), ("parameter", .texts), ("count", .switch),
    ("pretty", .switch)]

def missing {α : Type} (name : String) : Except Stop α :=
  .error (.misused ("the required argument '--" ++ name ++ "' was not provided"))

def requestOf (given : Given) : Except Stop Request :=
  match given.value? "query", given.value? "plan" with
  | none, _ => missing "query"
  | _, none => missing "plan"
  | some query, some plan => .ok {
      query := query
      planFile := ⟨plan⟩
      parameters := given.values "parameter"
      count := given.has "count" }

/-- The command of a name with its options. -/
def readCommand (name : String) (arguments : List String) : Except Stop (Command × Given) := do
  let own := if name = "translate" then compileOptions else []
  let (given, rest) ← readOptions (own ++ commonOptions) false [] arguments
  if let word :: _ := rest then .error (notExpected word)
  match name with
  | "initialize" => return (.create, given)
  | "translate" => return (.compile (← requestOf given), given)
  | _ => return (.printSchema, given)

def commandNames : List String := ["initialize", "translate", "print-schema"]

/-- The directory of the configuration as far as one place says.  Where the command line
does not say, the environment may. -/
def directoryOf (environment : Variables) (given : Given) : Except Stop (Option String) :=
  match given.value? "configuration", environment directoryVariable with
  | some directory, _ => .ok (some directory)
  | none, some "" => .error (valueMissing "configuration")
  | none, some directory => .ok (some directory)
  | none, none => .ok none

/-- What a command line asks for. -/
def Invocation.ofArguments (arguments : List String) (environment : Variables) :
    Except Stop Invocation := do
  let (before, rest) ← readOptions commonOptions true [] arguments
  match rest with
  | [] => .error (.misused "a command is required")
  | ["help"] => .error .help
  | ["help", topic] =>
    if topic = "help" || commandNames.contains topic then .error .help
    else .error (.misused ("unrecognized subcommand '" ++ topic ++ "'"))
  | "help" :: _ => .error (.misused "unrecognized subcommand")
  | name :: rest =>
    if !commandNames.contains name then
      .error (.misused ("unrecognized subcommand '" ++ name ++ "'"))
    else
      let (command, after) ← readCommand name rest
      let outer ← directoryOf environment before
      let inner ← directoryOf environment after
      let chosen :=
        if after.has "configuration" then inner
        else if before.has "configuration" then outer
        else inner
      return ⟨⟨chosen.getD "."⟩, command⟩

end PlanCompiler.CommandLine
