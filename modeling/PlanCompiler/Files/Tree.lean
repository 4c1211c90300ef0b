/-
# Files.Tree -- directories and files as a value

A tree knows what there is at each location, a location being the names that lead
to it from the root.  The root is a directory that is always there.  There are no
links, so `..` always leads to the location without its last name.

A path is followed name by name, and each name, `.` and `..` included, is looked
up in a directory: following a path through a file or through nothing fails even
when a later `..` would come back.  Only what the last name leads to may be
missing.  A path that ends in a slash leads to a directory or nowhere.
-/
import PlanCompiler.Files.Access

namespace PlanCompiler.Files

set_option autoImplicit false

/-- The names that lead to a place from the root. -/
abbrev Location := List String

inductive Entry
  | directory
  | file (text : String)
deriving DecidableEq, Repr

structure Tree where
  /-- Where relative paths begin. -/
  workingDirectory : Location
  entries : List (Location × Entry)

namespace Tree

/-- What there is at a location. -/
def entry? (tree : Tree) (location : Location) : Option Entry :=
  if location.isEmpty then some .directory else tree.entries.lookup location

/-- Put a file or a directory at a location, in place of what was there. -/
def put (location : Location) (entry : Entry) (tree : Tree) : Tree :=
  { tree with entries := (location, entry) :: tree.entries.filter (·.1 ≠ location) }

/-! ## Following a path -/

/-- The longest name and the longest path, in bytes. -/
def maxNameSize : Nat := 255

def maxPathSize : Nat := 4095

/-- Follow names from a location. -/
def walk (tree : Tree) (here : Location) : List String → Except Failure Location
  | [] => .ok here
  | name :: rest =>
    match tree.entry? here with
    | none => .error .noSuchFile
    | some (.file _) => .error .notADirectory
    | some .directory =>
      if maxNameSize < name.utf8ByteSize then .error .nameTooLong
      else tree.walk (Path.resolve here [name]) rest

/-- The location a path leads to, which there need not be anything at. -/
def locate (tree : Tree) (path : Path) : Except Failure Location :=
  if path.text.toList.contains '\x00' then .error .nulInName
  else if path.text.isEmpty then .error .noSuchFile
  else if maxPathSize < path.text.utf8ByteSize then .error .nameTooLong
  else tree.walk (if path.isAbsolute then [] else tree.workingDirectory) path.names

/-- What a path leads to. -/
def find? (tree : Tree) (path : Path) : Option Entry :=
  match tree.locate path with
  | .error _ => none
  | .ok location =>
    match tree.entry? location with
    | some (.file text) => if path.endsInSlash then none else some (.file text)
    | found => found

/-! ## Operations -/

def readText (path : Path) (tree : Tree) : Except Failure String := do
  let location ← tree.locate path
  match tree.entry? location with
  | none => .error .noSuchFile
  | some .directory => .error .isADirectory
  | some (.file text) => if path.endsInSlash then .error .notADirectory else .ok text

def writeText (path : Path) (text : String) (tree : Tree) : Except Failure Tree := do
  let location ← tree.locate path
  if path.endsInSlash then .error .isADirectory
  else
    match tree.entry? location with
    | some .directory => .error .isADirectory
    | _ => .ok (tree.put location (.file text))

def makeDirectory (path : Path) (tree : Tree) : Except Failure Tree := do
  let location ← tree.locate path
  match tree.entry? location with
  | some _ => .error .fileExists
  | none => .ok (tree.put location .directory)

/-- Go on with the changed tree, or with the old one after a failure. -/
def change (operation : Tree → Except Failure Tree) : StateM Tree (Except Failure Unit) :=
  fun tree =>
    match operation tree with
    | .ok changed => (.ok (), changed)
    | .error failure => (.error failure, tree)

instance : Access (StateM Tree) where
  readText path := fun tree => (tree.readText path, tree)
  writeText path text := change (writeText path text)
  makeDirectory path := change (makeDirectory path)
  isDirectory path := fun tree => (tree.find? path == some .directory, tree)
  isPresent path := fun tree => ((tree.find? path).isSome, tree)

/-! ## Trees as lists of files -/

/-- An empty directory to work in. -/
def empty : Tree := ⟨["work"], [(["work"], .directory)]⟩

/-- A file in the working directory, with the directories on the way to it. -/
def addFile (tree : Tree) (path : Path) (text : String) : Tree :=
  let add : StateM Tree (Except Failure Unit) := do
    let _ ← Access.createDirectories path.parent
    Access.writeText path text
  (add.run tree).2

/-- The working directory with these files in it. -/
def ofFiles (files : List (String × String)) : Tree :=
  files.foldl (fun tree (path, text) => tree.addFile ⟨path⟩ text) empty

/-- The names that lead to a location from a directory it is in. -/
def namesBelow? (directory location : Location) : Option (List String) :=
  if directory.isPrefixOf location then some (location.drop directory.length) else none

/-- The file that an entry is, if it is one in the working directory. -/
def fileOf? (tree : Tree) : Location × Entry → Option (String × String)
  | (_, .directory) => none
  | (location, .file text) =>
    (namesBelow? tree.workingDirectory location).map fun names => ("/".intercalate names, text)

/-- The files in the working directory, sorted by their paths from there. -/
def files (tree : Tree) : List (String × String) :=
  (tree.entries.filterMap tree.fileOf?).mergeSort fun a b => a.1 ≤ b.1

end Tree

end PlanCompiler.Files
