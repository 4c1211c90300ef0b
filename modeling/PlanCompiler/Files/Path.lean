/-
# Files.Path -- paths and the names they are made of

A path is a text of names between slashes.  It is absolute when it begins with a
slash and relative to some directory otherwise.  The name `.` stays in a
directory and `..` leaves it for the one above.

Two slashes in a row are one, and a `.` says something only at the front of a
relative path; `components` are the names without those that say nothing.
-/
import PlanCompiler.Text.Split

namespace PlanCompiler.Files

set_option autoImplicit false

structure Path where
  text : String
deriving DecidableEq, Repr

namespace Path

def isAbsolute (path : Path) : Bool :=
  path.text.toList.head? == some '/'

def endsInSlash (path : Path) : Bool :=
  path.text.toList.getLast? == some '/'

/-- The path seen from a directory.  An absolute path is the same from everywhere. -/
def join (directory path : Path) : Path :=
  if path.isAbsolute then path
  else if directory.text.isEmpty || directory.endsInSlash then ⟨directory.text ++ path.text⟩
  else ⟨directory.text ++ "/" ++ path.text⟩

/-- The names between the slashes. -/
def names (path : Path) : List String :=
  ((Text.split '/' path.text.toList).filter (!·.isEmpty)).map .ofList

/-- The names without every `.` that is not at the front. -/
def components (path : Path) : List String :=
  match path.names with
  | [] => []
  | first :: rest =>
    let rest := rest.filter (· ≠ ".")
    if first = "." && path.isAbsolute then rest else first :: rest

def ofComponents (absolute : Bool) (names : List String) : Path :=
  ⟨(if absolute then "/" else "") ++ "/".intercalate names⟩

/-- Whether the path begins by leaving the directory it is relative to. -/
def startsAbove (path : Path) : Bool :=
  !path.isAbsolute && path.components.head? == some ".."

/-- The directory that holds what the path leads to. -/
def parent (path : Path) : Path :=
  ofComponents path.isAbsolute path.components.dropLast

/-- The directories on the way to the path, the nearest first. -/
def ancestors (path : Path) : List Path :=
  let names := path.components
  (List.range names.length).tail.reverse.map fun count =>
    ofComponents path.isAbsolute (names.take count)

/-- Where the names lead from a directory if all of them are directories: a `..` takes
the name before it away, and at the root it stays there. -/
def resolve (here : List String) : List String → List String
  | [] => here
  | "." :: rest => resolve here rest
  | ".." :: rest => resolve here.dropLast rest
  | name :: rest => resolve (here ++ [name]) rest

end Path

end PlanCompiler.Files
