/-
# Files.Access -- what a program may do with files

The operations are a class, so that a program over files can be run on the files
of the machine and on a tree that is a value.  Each of them may fail in the ways
that the operating system knows.

A directory is made together with its missing ancestors: it is attempted alone
first, and only when something on the way to it is missing are the ancestors
made, from the nearest that is there downwards.  A directory that is there
already is no failure.
-/
import PlanCompiler.Files.Path

namespace PlanCompiler.Files

set_option autoImplicit false

inductive Failure
  | noSuchFile
  | fileExists
  | notADirectory
  | isADirectory
  | nameTooLong
  | nulInName
  | notText
  | other (code : Nat) (text : String)
deriving DecidableEq, Repr

namespace Failure

/-- A text of the operating system with the code of the failure. -/
def coded (text : String) (code : Nat) : String :=
  text ++ " (os error " ++ toString code ++ ")"

def message : Failure → String
  | .noSuchFile => coded "No such file or directory" 2
  | .fileExists => coded "File exists" 17
  | .notADirectory => coded "Not a directory" 20
  | .isADirectory => coded "Is a directory" 21
  | .nameTooLong => coded "File name too long" 36
  | .nulInName => "file name contained an unexpected NUL byte"
  | .notText => "stream did not contain valid UTF-8"
  | .other code text => coded text code

end Failure

class Access (m : Type → Type) where
  readText : Path → m (Except Failure String)
  /-- Write a file, which may be new or be replaced. -/
  writeText : Path → String → m (Except Failure Unit)
  /-- Make one directory, which must not be there, in one that is. -/
  makeDirectory : Path → m (Except Failure Unit)
  isDirectory : Path → m Bool
  /-- Whether a path leads to a file or a directory. -/
  isPresent : Path → m Bool

namespace Access

variable {m : Type → Type} [Monad m] [Access m]

/-- A failure to make a directory that is there all the same is none. -/
def settle (path : Path) (failure : Failure) : m (Except Failure Unit) := do
  if ← isDirectory path then return .ok () else return .error failure

/-- Make a directory, given its ancestors with the nearest first. -/
def createUnder (path : Path) : List Path → m (Except Failure Unit)
  | [] => do
    match ← makeDirectory path with
    | .ok () => return .ok ()
    | .error failure => settle path failure
  | parent :: above => do
    match ← makeDirectory path with
    | .ok () => return .ok ()
    | .error .noSuchFile =>
      match ← createUnder parent above with
      | .error failure => return .error failure
      | .ok () =>
        match ← makeDirectory path with
        | .ok () => return .ok ()
        | .error failure => settle path failure
    | .error failure => settle path failure

/-- Make a directory and whatever of its ancestors is missing. -/
def createDirectories (path : Path) : m (Except Failure Unit) :=
  if path.text.isEmpty then pure (.ok ()) else createUnder path path.ancestors

end Access

end PlanCompiler.Files
