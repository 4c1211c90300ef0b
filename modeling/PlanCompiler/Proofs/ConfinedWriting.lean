/-
# Proofs.ConfinedWriting -- where a configuration is written

Writing a configuration changes nothing outside its directory but for directories on the
way to it, which are made if they are missing (`write_confined`), as long as the paths of
its files do not leave the directory.  That is more than the check before each file asks
for: it looks at the first name of the path only.  What it refuses would leave
(`Refused.outside`), but a path that goes down first and then up further is written where
it leads to, as that of `strayQuery`.
-/
import Mathlib.Control.Monad.Basic
import PlanCompiler.Configuration.Directory
import PlanCompiler.Proofs.TreeOperations

namespace PlanCompiler.Configuration

set_option autoImplicit false

open Files

/-! ## Confined steps -/

/-- Only the directory and what is in it changes, and directories on the way to it are made. -/
structure Confined (home : Location) (directory : Path) (before after : Tree) : Prop where
  workingDirectory : after.workingDirectory = home
  changed : ∀ location, after.entry? location = before.entry? location ∨
    directory.locationFrom home <+: location ∨
    (directory.Visits home location ∧ before.entry? location = none ∧
      after.entry? location = some .directory)

variable {home : Location} {directory : Path}

/-- What a step does is confined, whatever the tree. -/
def Confines (home : Location) (directory : Path) (before after : Tree) : Prop :=
  before.workingDirectory = home → Confined home directory before after

theorem confines_refl (tree : Tree) : Confines home directory tree tree :=
  fun isHome => ⟨isHome, fun _ => .inl rfl⟩

theorem confines_trans (a b c : Tree) (first : Confines home directory a b)
    (second : Confines home directory b c) : Confines home directory a c := by
  intro isHome
  obtain ⟨stillHome, changedFirst⟩ := first isHome
  obtain ⟨finallyHome, changedSecond⟩ := second stillHome
  refine ⟨finallyHome, fun location => ?_⟩
  rcases changedSecond location with same | inside | ⟨visits, missing, made⟩
  · rw [same]
    exact changedFirst location
  · exact .inr (.inl inside)
  · rcases changedFirst location with same | inside | ⟨-, -, isDirectory⟩
    · exact .inr (.inr ⟨visits, same ▸ missing, made⟩)
    · exact .inr (.inl inside)
    · rw [isDirectory] at missing
      cases missing

/-- A file that leads into the directory, and directories that lead there or are on the way. -/
def Step.IsConfined (home : Location) (directory : Path) : Step → Prop
  | .createDirectories made => ∀ location, made.Visits home location →
      directory.locationFrom home <+: location ∨ directory.Visits home location
  | .write file _ => directory.locationFrom home <+: file.locationFrom home
  | .refuse _ => True

theorem confines_writeText {file : Path} {text : String} {before after : Tree}
    (inside : directory.locationFrom home <+: file.locationFrom home)
    (written : before.writeText file text = .ok after) : Confines home directory before after := by
  rintro rfl
  obtain ⟨location, follows, -, -, rfl⟩ := Tree.writeText_eq written
  refine ⟨rfl, fun other => ?_⟩
  by_cases same : other = location
  · rw [same, Tree.locate_eq follows]
    exact .inr (.inl inside)
  · exact .inl (Tree.entry?_put_ne before _ same)

theorem confines_makeDirectory {made : Path} {before after : Tree}
    (confined : directory.locationFrom home <+: made.locationFrom home ∨
      directory.Visits home (made.locationFrom home))
    (succeeded : before.makeDirectory made = .ok after) :
    Confines home directory before after := by
  rintro rfl
  obtain ⟨location, follows, nothing, rfl⟩ := Tree.makeDirectory_eq succeeded
  refine ⟨rfl, fun other => ?_⟩
  by_cases same : other = location
  · rw [same]
    rw [← Tree.locate_eq follows] at confined
    have notDirectory : before.entry? location ≠ some .directory := by
      rw [nothing]
      exact nofun
    have isMade := Tree.entry?_put_self before .directory (Tree.ne_nil_of_notDirectory notDirectory)
    exact .inr (confined.imp_right fun visits => ⟨visits, nothing, isMade⟩)
  · exact .inl (Tree.entry?_put_ne before _ same)

theorem Step.run_confined {step : Step} (confined : step.IsConfined home directory) :
    Tree.Changes (Confines home directory) step.run := by
  cases step with
  | refuse error => exact Tree.changes_pure confines_refl _
  | write file text =>
    refine Tree.changes_bind confines_trans ?_ fun _ => Tree.changes_pure confines_refl _
    exact Tree.changes_change confines_refl fun _ _ => confines_writeText confined
  | createDirectories made =>
    refine Tree.changes_bind confines_trans ?_ fun _ => Tree.changes_pure confines_refl _
    refine Tree.changes_createDirectories confines_refl confines_trans fun path mem _ _ => ?_
    refine confines_makeDirectory (confined _ ?_)
    have visits := path.visits_locationFrom home
    rcases List.mem_cons.1 mem with rfl | isAncestor
    · exact visits
    · exact visits.of_ancestor isAncestor

/-- A run of confined steps is confined, wherever it ends. -/
theorem runSteps_confined {steps : List Step}
    (confined : ∀ step ∈ steps, step.IsConfined home directory) :
    Tree.Changes (Confines home directory) (runSteps steps) := by
  induction steps with
  | nil => exact Tree.changes_pure confines_refl _
  | cons step rest ih =>
    rw [List.forall_mem_cons] at confined
    refine Tree.changes_bind confines_trans (Step.run_confined confined.1) fun result => ?_
    split
    · exact Tree.changes_pure confines_refl _
    · exact ih confined.2

/-! ## The steps of a configuration -/

/-- The check before a file is written: its path is absolute or begins by leaving. -/
def Refused (file : Path) : Prop :=
  file.isAbsolute = true ∨ file.startsAbove = true

instance (file : Path) : Decidable (Refused file) :=
  inferInstanceAs (Decidable (_ ∨ _))

theorem refused_iff {file : Path} : (file.isAbsolute || file.startsAbove) = true ↔ Refused file := by
  rw [Bool.or_eq_true]
  rfl

/-- A relative path that is refused is out of the directory somewhere on its way. -/
theorem Refused.outside {file : Path} (refused : Refused file) (relative : file.isAbsolute = false)
    (notRoot : directory.locationFrom home ≠ []) :
    ∃ count, ¬directory.locationFrom home <+:
      Path.resolve (directory.locationFrom home) (file.names.take count) := by
  have above := refused.resolve_left (by simp [relative])
  exact (Path.leaves_iff notRoot).1 (Path.leaves_of_startsAbove above)

/-- The paths of the files that the configuration names. -/
def filePaths (configuration : Configuration) : List Path :=
  configuration.sqlFiles.map fun (_, file) => ⟨file⟩

theorem mem_filePaths {configuration : Configuration} {file : Path} :
    file ∈ configuration.filePaths ↔
      ∃ entry ∈ configuration.nativeQueries.entries, entry.2.sql.path? = some file.text := by
  constructor
  · intro mem
    obtain ⟨⟨name, path⟩, isFile, rfl⟩ := List.mem_map.1 mem
    obtain ⟨entry, isEntry, same⟩ := List.mem_filterMap.1 isFile
    obtain ⟨path', isPath, same⟩ := Option.map_eq_some_iff.1 same
    cases same
    exact ⟨entry, isEntry, isPath⟩
  · rintro ⟨entry, isEntry, isPath⟩
    refine List.mem_map.2 ⟨(entry.1, file.text), List.mem_filterMap.2 ⟨entry, isEntry, ?_⟩, rfl⟩
    exact congrArg (Option.map _) isPath

theorem locationFrom_join_of_stays {file : Path} (relative : file.isAbsolute = false)
    (stays : Path.leaves 0 file.names = false) :
    directory.locationFrom home <+: (directory.join file).locationFrom home := by
  have inside := Path.prefix_of_stays stays (directory.locationFrom home) file.names.length
  rw [List.take_length] at inside
  rw [Path.locationFrom_join relative]
  exact inside

/-- A file whose path stays is written with confined steps, or refused. -/
theorem sqlSteps_confined {sql : SqlSource}
    (stays : ∀ file, sql.path? = some file →
      Refused ⟨file⟩ ∨ Path.leaves 0 (⟨file⟩ : Path).names = false) :
    ∀ step ∈ sqlSteps directory sql, step.IsConfined home directory := by
  cases sql with
  | inline text => exact nofun
  | file file contents =>
    unfold sqlSteps
    simp only
    split
    · exact List.forall_mem_singleton.2 trivial
    · rename_i accepted
      rw [refused_iff] at accepted
      have relative : (⟨file⟩ : Path).isAbsolute = false :=
        Bool.not_eq_true _ ▸ fun absolute => accepted (.inl absolute)
      have below := (stays file rfl).resolve_left accepted
      cases contents with
      | none => exact List.forall_mem_singleton.2 trivial
      | some text =>
        rw [List.forall_mem_cons, List.forall_mem_singleton]
        refine ⟨fun location visits => ?_, locationFrom_join_of_stays relative below⟩
        rcases Path.visits_join relative visits.of_parent with onTheWay | ⟨count, rfl⟩
        · exact .inr onTheWay
        · exact .inl (Path.prefix_of_stays below _ count)

theorem writeSteps_confined {configuration : Configuration}
    (stays : ∀ file ∈ configuration.filePaths, Refused file ∨ Path.leaves 0 file.names = false) :
    ∀ step ∈ configuration.writeSteps directory, step.IsConfined home directory := by
  unfold writeSteps
  rw [List.cons_append, List.cons_append, List.forall_mem_cons, List.forall_mem_cons,
    List.forall_mem_append, List.forall_mem_singleton]
  refine ⟨fun _ visits => .inr visits, ?_, ?_, ?_⟩
  · exact locationFrom_join_of_stays (by decide) (by decide)
  · intro step mem
    obtain ⟨entry, isEntry, isStep⟩ := List.mem_flatMap.1 mem
    refine sqlSteps_confined (fun file isFile => stays ⟨file⟩ ?_) step isStep
    exact mem_filePaths.2 ⟨entry, isEntry, isFile⟩
  · exact locationFrom_join_of_stays (by decide) (by decide)

/-! ## Refusals -/

variable {step : Step} {rest : List Step} {tree after : Tree}

/-- A step that fails ends the run. -/
theorem runSteps_failed {error : WriteError}
    (failed : (step.run : StateM Tree _) tree = (.error error, after)) :
    (runSteps (step :: rest) : StateM Tree _) tree = (.error error, after) := by
  rw [runSteps]
  simp only [bind, StateT.bind, failed]
  rfl

/-- After a step that is done come the others. -/
theorem runSteps_done (done : (step.run : StateM Tree _) tree = (.ok (), after)) :
    (runSteps (step :: rest) : StateM Tree _) tree = (runSteps rest : StateM Tree _) after := by
  rw [runSteps]
  simp only [bind, StateT.bind, done]

/-- A step either fails or is done. -/
theorem Step.run_cases (step : Step) (tree : Tree) :
    (∃ error after, (step.run : StateM Tree _) tree = (.error error, after)) ∨
      ∃ after, (step.run : StateM Tree _) tree = (.ok (), after) := by
  rcases (step.run : StateM Tree (Except WriteError Unit)) tree with ⟨result, after⟩
  cases result with
  | error error => exact .inl ⟨error, after, rfl⟩
  | ok _ => exact .inr ⟨after, rfl⟩

/-- A step fails as it says, or as the operation that it does. -/
theorem Step.run_error {step : Step} {tree after : Tree} {error : WriteError}
    (failed : (step.run : StateM Tree _) tree = (.error error, after)) :
    step = .refuse error ∨ ∃ failure, error = .failed failure := by
  have ofOperation : ∀ {result : Except Failure Unit},
      result.mapError WriteError.failed = .error error → ∃ failure, error = .failed failure := by
    intro result isError
    cases result with
    | ok _ => cases isError
    | error failure =>
      cases isError
      exact ⟨failure, rfl⟩
  cases step with
  | refuse other =>
    cases failed
    exact .inl rfl
  | write path text =>
    have result := congrArg Prod.fst failed
    exact .inr (ofOperation result)
  | createDirectories path =>
    have result := congrArg Prod.fst failed
    exact .inr (ofOperation result)

/-- A run with a refusal in it does not succeed. -/
theorem runSteps_refuse {steps : List Step} {error : WriteError} (refuses : .refuse error ∈ steps)
    (tree : Tree) : ∃ error, ((runSteps steps : StateM Tree _) tree).1 = .error error := by
  induction steps generalizing tree with
  | nil => cases refuses
  | cons step rest ih =>
    rcases step.run_cases tree with ⟨error, after, failed⟩ | ⟨after, done⟩
    · rw [runSteps_failed failed]
      exact ⟨error, rfl⟩
    · rw [runSteps_done done]
      rcases List.mem_cons.1 refuses with rfl | later
      · cases done
      · exact ih later after

/-- What is said to be outside has been refused. -/
theorem runSteps_outside {steps : List Step} {file outsideOf : Path} {tree : Tree}
    (failed : ((runSteps steps : StateM Tree _) tree).1 = .error (.outside file outsideOf)) :
    .refuse (.outside file outsideOf) ∈ steps := by
  induction steps generalizing tree with
  | nil => cases failed
  | cons step rest ih =>
    rcases step.run_cases tree with ⟨error, after, stopped⟩ | ⟨after, done⟩
    · rw [runSteps_failed stopped] at failed
      cases failed
      rcases Step.run_error stopped with rfl | ⟨failure, other⟩
      · exact List.mem_cons_self
      · cases other
    · rw [runSteps_done done] at failed
      exact List.mem_cons_of_mem _ (ih failed)

theorem refuse_mem_sqlSteps {sql : SqlSource} {file outsideOf : Path} :
    .refuse (.outside file outsideOf) ∈ sqlSteps directory sql ↔
      sql.path? = some file.text ∧ Refused file ∧ outsideOf = directory := by
  cases sql with
  | inline text => simp [sqlSteps, SqlSource.path?]
  | file path contents =>
    unfold sqlSteps
    simp only [SqlSource.path?, Option.some.injEq]
    split
    · rename_i refused
      rw [List.mem_singleton]
      constructor
      · intro same
        cases same
        exact ⟨rfl, refused_iff.1 refused, rfl⟩
      · rintro ⟨rfl, -, rfl⟩
        rfl
    · rename_i accepted
      constructor
      · intro mem
        cases contents <;> simp at mem
      · rintro ⟨rfl, refused, -⟩
        exact absurd (refused_iff.2 refused) accepted

/-- The files that are said to be outside are those that are refused. -/
theorem refuse_mem_writeSteps {configuration : Configuration} {file outsideOf : Path} :
    .refuse (.outside file outsideOf) ∈ configuration.writeSteps directory ↔
      file ∈ configuration.filePaths ∧ Refused file ∧ outsideOf = directory := by
  have isQuery : .refuse (.outside file outsideOf) ∈ configuration.writeSteps directory ↔
      ∃ entry ∈ configuration.nativeQueries.entries,
        .refuse (.outside file outsideOf) ∈ sqlSteps directory entry.2.sql := by
    simp [writeSteps, List.mem_flatMap]
  rw [isQuery, mem_filePaths]
  constructor
  · rintro ⟨entry, isEntry, refuses⟩
    obtain ⟨isPath, refused⟩ := refuse_mem_sqlSteps.1 refuses
    exact ⟨⟨entry, isEntry, isPath⟩, refused⟩
  · rintro ⟨⟨entry, isEntry, isPath⟩, refused⟩
    exact ⟨entry, isEntry, refuse_mem_sqlSteps.2 ⟨isPath, refused⟩⟩

/-- The result of writing a configuration into a tree, and the tree after it. -/
def writeInto (directory : Path) (configuration : Configuration) (tree : Tree) :
    Except WriteError Unit × Tree :=
  (configuration.write directory : StateM Tree _) tree

/-- **Writing a configuration stays in its directory where the paths of its files stay.**  Only
the directory and what is in it changes, and missing directories on the way to it are made.  A
file is refused if its path is absolute or begins by leaving, and for no other reason. -/
theorem write_confined {configuration : Configuration} {tree : Tree}
    (stays : ∀ file ∈ configuration.filePaths, Refused file ∨ Path.leaves 0 file.names = false) :
    Confined tree.workingDirectory directory tree (configuration.writeInto directory tree).2 ∧
      ((∃ file ∈ configuration.filePaths, Refused file) →
        ∃ error, (configuration.writeInto directory tree).1 = .error error) ∧
      ∀ file outsideOf,
        (configuration.writeInto directory tree).1 = .error (.outside file outsideOf) →
          file ∈ configuration.filePaths ∧ Refused file ∧ outsideOf = directory := by
  refine ⟨runSteps_confined (writeSteps_confined stays) tree rfl, ?_, ?_⟩
  · rintro ⟨file, isFile, refused⟩
    exact runSteps_refuse (refuse_mem_writeSteps.2 ⟨isFile, refused, rfl⟩) tree
  · exact fun file outsideOf failed => refuse_mem_writeSteps.1 (runSteps_outside failed)

/-- A query whose SQL is in a file. -/
def fileQuery (file text : String) : NativeQuery where
  sql := .file file (some text)
  fields := .empty
  mappings := .empty
  allColumnsMapped := false
  commands := []
  description := none

/-- Two queries in files, of which the second is not below the directory. -/
def neighbouringQueries : Configuration :=
  { initial with nativeQueries := .ofList [
      ("a", fileQuery "sql/../people.sql" "SELECT * FROM people"),
      ("b", fileQuery "../orders.sql" "SELECT * FROM orders")] }

theorem write_neighbouringQueries :
    (∀ file ∈ neighbouringQueries.filePaths,
        Refused file ∨ Path.leaves 0 file.names = false) ∧
      (neighbouringQueries.writeInto ⟨"out"⟩ .empty).1 =
        .error (.outside ⟨"../orders.sql"⟩ ⟨"out"⟩) ∧
      Tree.entry? (neighbouringQueries.writeInto ⟨"out"⟩ .empty).2 ["work", "out", "people.sql"] =
        some (.file "SELECT * FROM people") ∧
      Confined ["work"] ⟨"out"⟩ .empty (neighbouringQueries.writeInto ⟨"out"⟩ .empty).2 := by
  have stays : ∀ file ∈ neighbouringQueries.filePaths,
      Refused file ∨ Path.leaves 0 file.names = false := by decide +kernel
  have confined : Confined Tree.empty.workingDirectory ⟨"out"⟩ .empty
      (neighbouringQueries.writeInto ⟨"out"⟩ .empty).2 := (write_confined stays).1
  exact ⟨stays, by decide +kernel, by decide +kernel, confined⟩

/-- A query in a file that is not below the directory, by way of one that is. -/
def strayQuery : Configuration :=
  { initial with nativeQueries := .ofList [("a", fileQuery "sql/../../stray.sql" "SELECT 1")] }

/-- The check before the file looks at its first name only, and the file is written. -/
theorem write_strayQuery :
    (strayQuery.writeInto ⟨"out"⟩ .empty).1 = .ok () ∧
      Tree.entry? (strayQuery.writeInto ⟨"out"⟩ .empty).2 ["work", "stray.sql"] =
        some (.file "SELECT 1") ∧
      Tree.empty.entry? ["work", "stray.sql"] = none ∧
      ¬(⟨"out"⟩ : Path).locationFrom ["work"] <+: ["work", "stray.sql"] := by
  decide +kernel

end PlanCompiler.Configuration
