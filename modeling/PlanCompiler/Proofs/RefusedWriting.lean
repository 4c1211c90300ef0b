/-
# Proofs.RefusedWriting -- how far a refused write gets

A query is refused where its turn comes, and not before the first file is written.  So a
refused write stops at the first query, in the order of their names, whose file is refused
(`write_refused`): the configuration and the files of the queries before that one have been
written, and every other file is as it was.  A directory in which nothing was can be left
with a configuration in it (`write_strayingQuery`).

The run is followed step by step.  Only a refusal refuses, so a run without one that fails
does so in an operation on the tree (`runSteps_failure`); and a step that is done leaves the
files alone that are not in its place (`Step.run_elsewhere`).
-/
import Mathlib.Control.Monad.Basic
import PlanCompiler.Proofs.WrittenConfiguration

namespace PlanCompiler

set_option autoImplicit false

open Files

/-! ## Directories that are made -/

namespace Files.Tree

variable {before after : Tree} {path : Path}

/-- The same files with the same texts, whatever directories there are. -/
structure SameFiles (before after : Tree) : Prop where
  home : after.workingDirectory = before.workingDirectory
  files : ∀ location text, after.entry? location = some (.file text) ↔
    before.entry? location = some (.file text)

theorem SameFiles.refl (tree : Tree) : SameFiles tree tree := ⟨rfl, fun _ _ => Iff.rfl⟩

theorem SameFiles.trans (a b c : Tree) (first : SameFiles a b) (second : SameFiles b c) :
    SameFiles a c where
  home := second.home.trans first.home
  files location text := (second.files location text).trans (first.files location text)

theorem sameFiles_makeDirectory (made : before.makeDirectory path = .ok after) :
    SameFiles before after := by
  obtain ⟨place, -, nothing, rfl⟩ := makeDirectory_eq made
  refine ⟨rfl, fun location text => ?_⟩
  by_cases same : location = place
  · have notRoot : place ≠ [] := by
      apply ne_nil_of_notDirectory
      rw [nothing]
      exact nofun
    rw [same, entry?_put_self before .directory notRoot, nothing]
    constructor <;> exact nofun
  · rw [entry?_put_ne before .directory same]

theorem sameFiles_createDirectories (path : Path) (tree : Tree) :
    SameFiles tree ((Access.createDirectories path : StateM Tree _) tree).2 := by
  apply changes_createDirectories SameFiles.refl SameFiles.trans
  intro made _ before after
  exact sameFiles_makeDirectory

end Files.Tree

namespace Configuration

open Files.Tree (SameFiles)

variable {tree middle after : Tree} {first second steps : List Step} {error : WriteError}
  {directory : Path}

/-! ## Runs that are refused -/

/-- The errors that are not failures of an operation. -/
def WriteError.IsRefusal : WriteError → Prop
  | .outside _ _ => True
  | .neverRead _ => True
  | .failed _ => False

instance (error : WriteError) : Decidable error.IsRefusal := by
  unfold WriteError.IsRefusal
  split <;> infer_instance

theorem Done.append (doneFirst : Done first tree middle) (doneSecond : Done second middle after) :
    Done (first ++ second) tree after := by
  induction first generalizing tree with
  | nil =>
    cases doneFirst
    exact doneSecond
  | cons step rest ih =>
    obtain ⟨next, isDone, doneRest⟩ := done_cons doneFirst
    show (runSteps (step :: (rest ++ second)) : StateM Tree _) tree = (.ok (), after)
    rw [runSteps_done isDone]
    exact ih doneRest

/-- A run that fails does so in its first part, or after it. -/
theorem runSteps_append_error
    (failed : (runSteps (first ++ second) : StateM Tree _) tree = (.error error, after)) :
    (runSteps first : StateM Tree _) tree = (.error error, after) ∨
      ∃ middle, Done first tree middle ∧
        (runSteps second : StateM Tree _) middle = (.error error, after) := by
  induction first generalizing tree with
  | nil => exact .inr ⟨tree, rfl, failed⟩
  | cons step rest ih =>
    rw [List.cons_append] at failed
    rcases step.run_cases tree with ⟨other, stopped, fails⟩ | ⟨next, isDone⟩
    · rw [runSteps_failed fails] at failed ⊢
      exact .inl failed
    · rw [runSteps_done isDone] at failed ⊢
      rcases ih failed with failedRest | ⟨middle, doneRest, failedSecond⟩
      · exact .inl failedRest
      · refine .inr ⟨middle, ?_, failedSecond⟩
        rw [Done, runSteps_done isDone]
        exact doneRest

/-- Without a refusal among the steps, only an operation can fail. -/
theorem runSteps_failure (noRefusal : ∀ error, .refuse error ∉ steps)
    (failed : (runSteps steps : StateM Tree _) tree = (.error error, after)) :
    ¬error.IsRefusal := by
  induction steps generalizing tree with
  | nil => cases failed
  | cons step rest ih =>
    rcases step.run_cases tree with ⟨other, stopped, fails⟩ | ⟨next, isDone⟩
    · rw [runSteps_failed fails] at failed
      cases failed
      rcases Step.run_error fails with rfl | ⟨failure, rfl⟩
      · exact absurd List.mem_cons_self (noRefusal error)
      · exact id
    · rw [runSteps_done isDone] at failed
      apply ih _ failed
      exact fun error later => noRefusal error (List.mem_cons_of_mem _ later)

/-! ## Queries that are refused -/

/-- The error with which a query is refused, if it is. -/
def refusal? (directory : Path) : SqlSource → Option WriteError
  | .inline _ => none
  | .file path contents =>
    if Refused ⟨path⟩ then some (.outside ⟨path⟩ directory)
    else
      match contents with
      | none => some (.neverRead ⟨path⟩)
      | some _ => none

/-- A query is refused in one step, or written without a refusal. -/
theorem sqlSteps_refusal (directory : Path) (sql : SqlSource) :
    match refusal? directory sql with
    | some error => sqlSteps directory sql = [.refuse error]
    | none => ∀ error, .refuse error ∉ sqlSteps directory sql := by
  cases sql with
  | inline text => exact nofun
  | file path contents =>
    unfold refusal? sqlSteps
    by_cases refused : Refused ⟨path⟩
    · simp [refused, refused_iff.2 refused]
    · have accepted : ((⟨path⟩ : Path).isAbsolute || (⟨path⟩ : Path).startsAbove) = false := by
        rw [← Bool.not_eq_true, refused_iff]
        exact refused
      cases contents <;> simp [refused, accepted]

section

variable {entries : List (String × NativeQuery)}

/-- The queries before the first that is refused. -/
def accepted (directory : Path) (entries : List (String × NativeQuery)) :
    List (String × NativeQuery) :=
  entries.takeWhile fun entry => (refusal? directory entry.2.sql).isNone

/-- How the files of queries are written. -/
def querySteps (directory : Path) (entries : List (String × NativeQuery)) : List Step :=
  entries.flatMap fun entry => sqlSteps directory entry.2.sql

/-- A refusal among queries is that of the first that is refused, after those before it. -/
theorem runSteps_queries {last : List Step} (noRefusal : ∀ error, .refuse error ∉ last)
    (failed : (runSteps (querySteps directory entries ++ last) : StateM Tree _) tree =
      (.error error, after))
    (isRefusal : error.IsRefusal) :
    entries.findSome? (fun entry => refusal? directory entry.2.sql) = some error ∧
      Done (querySteps directory (accepted directory entries)) tree after := by
  induction entries generalizing tree with
  | nil => exact absurd isRefusal (runSteps_failure noRefusal failed)
  | cons entry rest ih =>
    have parts : querySteps directory (entry :: rest) ++ last =
        sqlSteps directory entry.2.sql ++ (querySteps directory rest ++ last) := by
      simp [querySteps]
    rw [parts] at failed
    have steps := sqlSteps_refusal directory entry.2.sql
    cases isRefused : refusal? directory entry.2.sql with
    | some refusal =>
      rw [isRefused] at steps
      simp only at steps
      rw [steps] at failed
      have fails : ((Step.refuse refusal).run : StateM Tree _) tree = (.error refusal, tree) := rfl
      rw [List.singleton_append, runSteps_failed fails] at failed
      cases failed
      rw [accepted, List.takeWhile_cons_of_neg (by simp [isRefused])]
      exact ⟨by simp [isRefused], rfl⟩
    | none =>
      rw [isRefused] at steps
      rcases runSteps_append_error failed with failedHere | ⟨middle, doneHere, failedLater⟩
      · exact absurd isRefusal (runSteps_failure steps failedHere)
      · obtain ⟨isFirst, doneLater⟩ := ih failedLater
        rw [accepted, List.takeWhile_cons_of_pos (by simp [isRefused])]
        refine ⟨by simpa [isRefused] using isFirst, ?_⟩
        exact doneHere.append doneLater

end

/-! ## Files elsewhere -/

/-- The places that steps write to, seen from a home. -/
def places (home : Location) (steps : List Step) : List Location :=
  steps.filterMap fun
    | .write file _ => some (file.locationFrom home)
    | _ => none

/-- A step that is done leaves the files alone that are not in its place. -/
theorem Step.run_elsewhere {step : Step} {location : Location} {text : String}
    (done : (step.run : StateM Tree _) tree = (.ok (), middle))
    (elsewhere : location ∉ places tree.workingDirectory [step]) :
    middle.entry? location = some (.file text) ↔ tree.entry? location = some (.file text) := by
  cases step with
  | refuse error => cases done
  | createDirectories made =>
    have changed : ((Access.createDirectories made : StateM Tree _) tree).2 = middle :=
      congrArg Prod.snd done
    rw [← changed]
    exact (Tree.sameFiles_createDirectories made tree).files location text
  | write file contents =>
    obtain ⟨place, follows, -, -, rfl⟩ := Tree.writeText_eq (run_write done)
    have differs : location ≠ place := by
      rw [Tree.locate_eq follows]
      simpa [places] using elsewhere
    rw [Tree.entry?_put_ne tree _ differs]

/-- Files that are in none of their places are as they were after any number of steps. -/
theorem Done.elsewhere (done : Done steps tree after) {location : Location} {text : String}
    (elsewhere : location ∉ places tree.workingDirectory steps) :
    after.entry? location = some (.file text) ↔ tree.entry? location = some (.file text) := by
  induction steps generalizing tree with
  | nil =>
    cases done
    exact Iff.rfl
  | cons step rest ih =>
    obtain ⟨middle, isDone, doneRest⟩ := done_cons done
    have home := (run_grows isDone).home
    rw [← List.singleton_append, places, List.filterMap_append, List.mem_append, not_or]
      at elsewhere
    have restElsewhere : location ∉ places middle.workingDirectory rest := by
      rw [home]
      exact elsewhere.2
    rw [ih doneRest restElsewhere]
    exact Step.run_elsewhere isDone elsewhere.1

/-- In each of their places is a text that was written there. -/
theorem Done.written (done : Done steps tree after) {location : Location}
    (isPlace : location ∈ places tree.workingDirectory steps) :
    ∃ file text, .write file text ∈ steps ∧ file.locationFrom tree.workingDirectory = location ∧
      after.entry? location = some (.file text) := by
  induction steps generalizing tree with
  | nil => cases isPlace
  | cons step rest ih =>
    obtain ⟨middle, isDone, doneRest⟩ := done_cons done
    have home := (run_grows isDone).home
    by_cases later : location ∈ places tree.workingDirectory rest
    · obtain ⟨file, text, isStep, leads, isThere⟩ := ih doneRest (home ▸ later)
      exact ⟨file, text, List.mem_cons_of_mem _ isStep, home ▸ leads, isThere⟩
    · rw [← List.singleton_append, places, List.filterMap_append, List.mem_append] at isPlace
      have here := isPlace.resolve_right later
      cases step with
      | refuse error => cases isDone
      | createDirectories made => cases here
      | write file text =>
        have leads : location = file.locationFrom tree.workingDirectory := by
          simpa using here
        refine ⟨file, text, List.mem_cons_self, leads.symm, ?_⟩
        rw [doneRest.elsewhere (home ▸ later), leads]
        exact writeText_holds (run_write isDone)

/-! ## A configuration that is refused -/

/-- What is done before the first query that is refused: the directory is made, and the
configuration and the files of the queries before that one are written. -/
def stepsBeforeRefusal (directory : Path) (configuration : Configuration) : List Step :=
  [.createDirectories directory, .write (directory.join fileName) (fileText configuration.toJson)]
    ++ querySteps directory (accepted directory configuration.nativeQueries.entries)

/-- **A refused write stops at the first query whose file is refused.**  The error is that of
this query.  All that comes before it has been done, and each file that was to be written has a
text that was written to its place; every file in another place is as it was, that of this query
and of those after it included, and the schema. -/
theorem write_refused {configuration : Configuration}
    (failed : (configuration.writeInto directory tree).1 = .error error)
    (isRefusal : error.IsRefusal) :
    configuration.nativeQueries.entries.findSome?
        (fun entry => refusal? directory entry.2.sql) = some error ∧
      Done (configuration.stepsBeforeRefusal directory) tree
        (configuration.writeInto directory tree).2 ∧
      (∀ location ∈ places tree.workingDirectory (configuration.stepsBeforeRefusal directory),
        ∃ file text, .write file text ∈ configuration.stepsBeforeRefusal directory ∧
          file.locationFrom tree.workingDirectory = location ∧
          Tree.entry? (configuration.writeInto directory tree).2 location = some (.file text)) ∧
      ∀ location ∉ places tree.workingDirectory (configuration.stepsBeforeRefusal directory),
        ∀ text, Tree.entry? (configuration.writeInto directory tree).2 location =
            some (.file text) ↔ tree.entry? location = some (.file text) := by
  have failedSteps : (runSteps (configuration.writeSteps directory) : StateM Tree _) tree =
      (.error error, (configuration.writeInto directory tree).2) := Prod.ext failed rfl
  have parts : configuration.writeSteps directory =
      [.createDirectories directory,
        .write (directory.join fileName) (fileText configuration.toJson)] ++
      (querySteps directory configuration.nativeQueries.entries ++
        [.write (directory.join schemaFileName) (fileText schema)]) := rfl
  rw [parts] at failedSteps
  rcases runSteps_append_error failedSteps with failedFirst | ⟨middle, doneFirst, failedLater⟩
  · exact absurd isRefusal (runSteps_failure (by simp) failedFirst)
  · obtain ⟨isFirst, doneQueries⟩ := runSteps_queries (by simp) failedLater isRefusal
    have done : Done (configuration.stepsBeforeRefusal directory) tree
        (configuration.writeInto directory tree).2 := doneFirst.append doneQueries
    exact ⟨isFirst, done, fun _ isPlace => done.written isPlace,
      fun _ elsewhere _ => done.elsewhere elsewhere⟩

/-- Three queries in files, of which the text of the second has never been read. -/
def unreadQuery : Configuration :=
  { initial with nativeQueries := .ofList [
      ("a", fileQuery "sql/people.sql" "SELECT * FROM people"),
      ("b", { fileQuery "sql/orders.sql" "" with sql := .file "sql/orders.sql" none }),
      ("c", fileQuery "sql/items.sql" "SELECT * FROM items")] }

/-- A directory with the files of an older configuration. -/
def olderTree : Tree where
  workingDirectory := []
  entries := [(["out"], .directory), (["out", "sql"], .directory),
    (["out", "configuration.json"], .file "older"), (["out", "schema.json"], .file "older"),
    (["out", "sql", "people.sql"], .file "older"), (["out", "sql", "items.sql"], .file "older")]

theorem write_unreadQuery :
    (unreadQuery.writeInto ⟨"out"⟩ olderTree).1 = .error (.neverRead ⟨"sql/orders.sql"⟩) ∧
      WriteError.IsRefusal (.neverRead ⟨"sql/orders.sql"⟩) ∧
      (∃ text, Tree.entry? (unreadQuery.writeInto ⟨"out"⟩ olderTree).2
        ["out", "sql", "people.sql"] = some (.file text) ∧ text ≠ "older") ∧
      Tree.entry? (unreadQuery.writeInto ⟨"out"⟩ olderTree).2 ["out", "sql", "items.sql"] =
        some (.file "older") ∧
      Tree.entry? (unreadQuery.writeInto ⟨"out"⟩ olderTree).2 ["out", "schema.json"] =
        some (.file "older") := by
  have failed : (unreadQuery.writeInto ⟨"out"⟩ olderTree).1 =
      .error (.neverRead ⟨"sql/orders.sql"⟩) := by decide +kernel
  have isRefusal : WriteError.IsRefusal (.neverRead ⟨"sql/orders.sql"⟩) := by decide
  obtain ⟨-, -, -, elsewhere⟩ := write_refused failed isRefusal
  refine ⟨failed, isRefusal, ?_, ?_, ?_⟩
  · exact ⟨"SELECT * FROM people", by decide +kernel, by decide⟩
  · exact (elsewhere _ (by decide +kernel) _).2 rfl
  · exact (elsewhere _ (by decide +kernel) _).2 rfl

/-- A query in a file that is not below the directory. -/
def strayingQuery : Configuration :=
  { initial with nativeQueries := .ofList [("q", fileQuery "../escape.sql" "SELECT 1")] }

/-- The configuration has been written when its first query is refused. -/
theorem write_strayingQuery :
    (strayingQuery.writeInto ⟨"out"⟩ .empty).1 = .error (.outside ⟨"../escape.sql"⟩ ⟨"out"⟩) ∧
      Tree.empty.entry? ["work", "out", "configuration.json"] = none ∧
      Tree.entry? (strayingQuery.writeInto ⟨"out"⟩ .empty).2
        ["work", "out", "configuration.json"] = some (.file (fileText strayingQuery.toJson)) := by
  decide +kernel

end Configuration

end PlanCompiler
