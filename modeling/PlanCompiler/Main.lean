/-
# Main -- the command line on the files of the machine
-/
import PlanCompiler.CommandLine.Run

open PlanCompiler
open PlanCompiler.Files (Access Failure)

set_option autoImplicit false

namespace PlanCompiler.Main

/-- The failure that an error of the operating system stands for. -/
def failureOf : IO.Error → Failure
  | .noFileOrDirectory _ _ _ => .noSuchFile
  | .alreadyExists _ 17 _ => .fileExists
  | .inappropriateType _ 20 _ => .notADirectory
  | .inappropriateType _ 21 _ => .isADirectory
  | .invalidArgument _ 36 _ => .nameTooLong
  | .userError _ => .notText
  | .permissionDenied _ code text => .other code.toNat text
  | .resourceExhausted _ code text => .other code.toNat text
  | .otherError code text => .other code.toNat text
  | error => .other 0 (toString error)

def attempt {α : Type} (action : IO α) : IO (Except Failure α) := do
  match ← action.toBaseIO with
  | .ok value => return .ok value
  | .error error => return .error (failureOf error)

instance : Access IO where
  readText path := attempt (IO.FS.readFile path.text)
  writeText path text := attempt (IO.FS.writeFile path.text text)
  makeDirectory path := attempt (IO.FS.createDir path.text)
  isDirectory path := do
    match ← (IO.FS.realPath path.text).toBaseIO with
    | .ok found => found.isDir
    | .error _ => return false
  isPresent path := do
    match ← (IO.FS.realPath path.text).toBaseIO with
    | .ok found => found.pathExists
    | .error _ => return false

end PlanCompiler.Main

def main (arguments : List String) : IO UInt32 := do
  let directory ← IO.getEnv CommandLine.directoryVariable
  let environment (name : String) : Option String :=
    if name = CommandLine.directoryVariable then directory else none
  let outcome : CommandLine.Outcome ← CommandLine.run arguments environment
  IO.print outcome.output
  IO.eprint outcome.report
  return outcome.exitCode
