/-
# CommandLine.Option -- options in front of the words of a command line

An option is written `--name value` or `--name=value`; a switch is an option that
takes no value.  A value of its own may not begin with a dash unless it is one.
Options end at the first word that is none of them, and `--` says that nothing
but words follows.
-/
import PlanCompiler.Text.Split

namespace PlanCompiler.CommandLine

set_option autoImplicit false

/-- Why a command line is not run. -/
inductive Stop
  | help
  | version
  | misused (reason : String)
deriving DecidableEq, Repr

inductive Kind
  | switch
  /-- Any text. -/
  | text
  /-- A path, which is not empty. -/
  | path
  /-- Any text, any number of times. -/
  | texts
deriving DecidableEq, Repr

/-- The options that a command has. -/
abbrev Options := List (String × Kind)

/-- The options that were given with their values, in order. -/
abbrev Given := List (String × String)

namespace Given

def values (name : String) (given : Given) : List String :=
  (given.filter (·.1 == name)).map (·.2)

def value? (name : String) (given : Given) : Option String :=
  given.lookup name

def has (name : String) (given : Given) : Bool :=
  (given.lookup name).isSome

end Given

def valueMissing (name : String) : Stop :=
  .misused ("a value is required for '--" ++ name ++ "'")

/-- Take a value for an option that was given these before. -/
def accept (name : String) (kind : Kind) (value : String) (given : Given) : Except Stop Given :=
  if kind = .path && value.isEmpty then
    .error (valueMissing name)
  else if kind ≠ .texts && given.has name then
    .error (.misused ("the argument '--" ++ name ++ "' cannot be used multiple times"))
  else .ok (given ++ [(name, value)])

/-- Whether a word is no option: it does not begin with a dash, or it is a dash. -/
def isPlain (word : String) : Bool :=
  word.toList.head? != some '-' || word == "-"

def notExpected (word : String) : Stop :=
  .misused ("unexpected argument '" ++ word ++ "' found")

/-- The name of a long option, and the value that is written with it. -/
def long? (word : String) : Option (String × Option String) :=
  match word.toList with
  | '-' :: '-' :: rest =>
    match Text.cut? '=' rest with
    | some (name, value) => some (.ofList name, some (.ofList value))
    | none => some (.ofList rest, none)
  | _ => none

/-- What a word that is no option of the command stops the command line for. -/
def stop (withVersion : Bool) (word : String) : Stop :=
  match word.toList with
  | '-' :: 'h' :: _ => .help
  | '-' :: 'V' :: _ => if withVersion then .version else notExpected word
  | _ =>
    if word = "--help" then .help
    else if word = "--version" && withVersion then .version
    else notExpected word

/-- Read options up to the first word that is none. -/
def readOptions (options : Options) (withVersion : Bool) (given : Given) :
    List String → Except Stop (Given × List String)
  | [] => .ok (given, [])
  | "--" :: [] => .ok (given, [])
  | "--" :: word :: _ => .error (notExpected word)
  | word :: rest =>
    if isPlain word then .ok (given, word :: rest)
    else
      match long? word with
      | none => .error (stop withVersion word)
      | some (name, attached) =>
        match options.lookup name, attached with
        | none, _ => .error (stop withVersion word)
        | some .switch, none => do
          readOptions options withVersion (← accept name .switch "" given) rest
        | some .switch, some _ =>
          .error (.misused ("unexpected value for '--" ++ name ++ "'"))
        | some kind, some value => do
          readOptions options withVersion (← accept name kind value given) rest
        | some kind, none =>
          match rest with
          | value :: rest =>
            if isPlain value then do
              readOptions options withVersion (← accept name kind value given) rest
            else .error (valueMissing name)
          | [] => .error (valueMissing name)

end PlanCompiler.CommandLine
