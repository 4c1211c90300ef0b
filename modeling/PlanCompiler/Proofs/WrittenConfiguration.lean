/-
# Proofs.WrittenConfiguration -- a written configuration is read back

Writing a configuration that was read from some directory, and reading what was written,
gives the same configuration (`write_reread`), as long as its files keep apart
(`KeepsApart`): those that get to one place have one text, and none of them gets to the
place of the schema.  The first is so of paths that stay in the directory
(`keepsApart_of_stays`); the second is not checked, and as the schema is written last, a
query in its place is lost (`reread_schema`).

A place that is written more than once holds what was written last, so a file can be read
back if all that is written to its place has the same text (`Done.readText`).  That need
not be so of the configuration itself: the file of a query can be in its place, but then
it has the text that the configuration was read from.
-/
import Mathlib.Control.Monad.Basic
import PlanCompiler.Proofs.ConfigurationText
import PlanCompiler.Proofs.ConfinedWriting

namespace PlanCompiler

set_option autoImplicit false

open Files

/-! ## Reading from a tree -/

namespace Files.Tree

variable {tree before after : Tree} {path : Path} {location : Location} {text : String}

theorem readText_ok (read : tree.readText path = .ok text) :
    tree.locate path = .ok (path.locationFrom tree.workingDirectory) ∧
      path.endsInSlash = false ∧
      tree.entry? (path.locationFrom tree.workingDirectory) = some (.file text) := by
  obtain ⟨location, follows, read⟩ := Except.bind_eq_ok.1 read
  have isLocation := locate_eq follows
  subst isLocation
  split at read
  · cases read
  · cases read
  · rename_i isFile
    split at read
    · cases read
    · rename_i noSlash
      cases read
      exact ⟨follows, Bool.not_eq_true _ ▸ noSlash, isFile⟩

/-- All that was there is there and the same. -/
structure Keeps (before after : Tree) : Prop where
  home : after.workingDirectory = before.workingDirectory
  entries : ∀ location entry, before.entry? location = some entry →
    after.entry? location = some entry

theorem keeps_makeDirectory (made : before.makeDirectory path = .ok after) :
    Keeps before after := by
  obtain ⟨location, -, nothing, rfl⟩ := makeDirectory_eq made
  refine ⟨rfl, fun other entry isThere => ?_⟩
  have differs : other ≠ location := by
    rintro rfl
    rw [nothing] at isThere
    cases isThere
  rw [entry?_put_ne before .directory differs]
  exact isThere

theorem keeps_createDirectories (path : Path) (tree : Tree) :
    Keeps tree ((Access.createDirectories path : StateM Tree _) tree).2 := by
  refine changes_createDirectories (fun _ => ⟨rfl, fun _ _ same => same⟩) ?_
    (fun _ _ _ _ => keeps_makeDirectory) tree
  exact fun a b c first second => ⟨second.home.trans first.home,
    fun location entry isThere => second.entries _ _ (first.entries _ _ isThere)⟩

end Files.Tree

namespace Configuration

open Files.Tree (Keeps Grows)

/-! ## Steps that succeed -/

variable {tree after : Tree} {steps : List Step} {file directory : Path} {text : String}

/-- The steps are all done, and change the tree into the other. -/
def Done (steps : List Step) (tree after : Tree) : Prop :=
  (runSteps steps : StateM Tree _) tree = (.ok (), after)

theorem done_cons {step : Step} {rest : List Step} (done : Done (step :: rest) tree after) :
    ∃ middle, (step.run : StateM Tree _) tree = (.ok (), middle) ∧ Done rest middle after := by
  rw [Done] at done
  rcases step.run_cases tree with ⟨error, middle, failed⟩ | ⟨middle, isDone⟩
  · rw [runSteps_failed failed] at done
    cases done
  · rw [runSteps_done isDone] at done
    exact ⟨middle, isDone, done⟩

theorem run_write {middle : Tree}
    (done : ((Step.write file text).run : StateM Tree _) tree = (.ok (), middle)) :
    tree.writeText file text = .ok middle := by
  change (((Tree.change (Tree.writeText file text)) tree).1.mapError WriteError.failed,
    ((Tree.change (Tree.writeText file text)) tree).2) = _ at done
  unfold Tree.change at done
  split at done
  · rename_i written succeeded
    cases done
    exact succeeded
  · cases done

theorem run_createDirectories {middle : Tree}
    (done : ((Step.createDirectories file).run : StateM Tree _) tree = (.ok (), middle)) :
    Keeps tree middle := by
  have changed : ((Access.createDirectories file : StateM Tree _) tree).2 = middle :=
    congrArg Prod.snd done
  rw [← changed]
  exact Tree.keeps_createDirectories file tree

theorem run_grows {step : Step} {middle : Tree}
    (done : (step.run : StateM Tree _) tree = (.ok (), middle)) : Grows tree middle := by
  cases step with
  | refuse error => cases done
  | write file text => exact Tree.grows_writeText (run_write done)
  | createDirectories made =>
    have keeps := run_createDirectories done
    exact ⟨keeps.home, fun location => keeps.entries location _⟩

theorem done_append {first second : List Step} (done : Done (first ++ second) tree after) :
    ∃ middle, middle.workingDirectory = tree.workingDirectory ∧ Done second middle after := by
  induction first generalizing tree with
  | nil => exact ⟨tree, rfl, done⟩
  | cons step rest ih =>
    obtain ⟨next, isDone, doneRest⟩ := done_cons done
    obtain ⟨middle, home, doneSecond⟩ := ih doneRest
    exact ⟨middle, home.trans (run_grows isDone).home, doneSecond⟩

theorem Done.grows (done : Done steps tree after) : Grows tree after := by
  induction steps generalizing tree with
  | nil =>
    cases done
    exact Grows.refl _
  | cons step rest ih =>
    obtain ⟨middle, isDone, doneRest⟩ := done_cons done
    exact (run_grows isDone).trans (ih doneRest)

/-- Whatever the steps write to a location, seen from a home, is this text. -/
def WriteOnly (home location : Location) (text : String) (steps : List Step) : Prop :=
  ∀ file other, .write file other ∈ steps → file.locationFrom home = location → other = text

variable {location : Location}

theorem writeText_holds {middle : Tree} (written : tree.writeText file text = .ok middle) :
    middle.entry? (file.locationFrom tree.workingDirectory) = some (.file text) := by
  obtain ⟨location, follows, -, notDirectory, rfl⟩ := Tree.writeText_eq written
  rw [← Tree.locate_eq follows]
  exact Tree.entry?_put_self tree _ (Tree.ne_nil_of_notDirectory notDirectory)

/-- A step that writes nothing else to a location leaves the text there. -/
theorem run_holds {step : Step} {middle : Tree}
    (done : (step.run : StateM Tree _) tree = (.ok (), middle))
    (only : ∀ file other, step = .write file other →
      file.locationFrom tree.workingDirectory = location → other = text)
    (holds : tree.entry? location = some (.file text)) :
    middle.entry? location = some (.file text) := by
  cases step with
  | refuse error => cases done
  | createDirectories made => exact (run_createDirectories done).entries location _ holds
  | write file other =>
    have written := run_write done
    by_cases same : file.locationFrom tree.workingDirectory = location
    · have isText := only file other rfl same
      rw [← same, ← isText]
      exact writeText_holds written
    · obtain ⟨place, follows, -, -, rfl⟩ := Tree.writeText_eq written
      have differs : location ≠ place := by
        rw [Tree.locate_eq follows]
        exact Ne.symm same
      rw [Tree.entry?_put_ne tree _ differs]
      exact holds

theorem Done.holds (done : Done steps tree after)
    (only : WriteOnly tree.workingDirectory location text steps)
    (holds : tree.entry? location = some (.file text)) :
    after.entry? location = some (.file text) := by
  induction steps generalizing tree with
  | nil =>
    cases done
    exact holds
  | cons step rest ih =>
    obtain ⟨middle, isDone, doneRest⟩ := done_cons done
    refine ih doneRest ?_ (run_holds isDone ?_ holds)
    · rw [(run_grows isDone).home]
      exact fun file other mem => only file other (List.mem_cons_of_mem _ mem)
    · rintro file other rfl
      exact only file other List.mem_cons_self

/-- A file that has been written can be found. -/
theorem Done.locate (done : Done steps tree after) (mem : .write file text ∈ steps) :
    after.locate file = .ok (file.locationFrom tree.workingDirectory) ∧
      file.endsInSlash = false := by
  induction steps generalizing tree with
  | nil => cases mem
  | cons step rest ih =>
    obtain ⟨middle, isDone, doneRest⟩ := done_cons done
    rcases List.mem_cons.1 mem with rfl | later
    · obtain ⟨location, follows, noSlash, -, -⟩ := Tree.writeText_eq (run_write isDone)
      rw [← Tree.locate_eq follows]
      exact ⟨done.grows.locate follows, noSlash⟩
    · rw [← (run_grows isDone).home]
      exact ih doneRest later

/-- A file to whose place nothing else is written has the text that was written. -/
theorem Done.entry (done : Done steps tree after) (mem : .write file text ∈ steps)
    (only : WriteOnly tree.workingDirectory (file.locationFrom tree.workingDirectory) text steps) :
    after.entry? (file.locationFrom tree.workingDirectory) = some (.file text) := by
  induction steps generalizing tree with
  | nil => cases mem
  | cons step rest ih =>
    obtain ⟨middle, isDone, doneRest⟩ := done_cons done
    have home := (run_grows isDone).home
    have onlyRest : WriteOnly middle.workingDirectory
        (file.locationFrom middle.workingDirectory) text rest := by
      rw [home]
      exact fun other text mem => only other text (List.mem_cons_of_mem _ mem)
    rw [← home]
    rcases List.mem_cons.1 mem with rfl | later
    · refine doneRest.holds onlyRest ?_
      rw [home]
      exact writeText_holds (run_write isDone)
    · exact ih doneRest later onlyRest

theorem Done.readText (done : Done steps tree after) (mem : .write file text ∈ steps)
    (only : WriteOnly tree.workingDirectory (file.locationFrom tree.workingDirectory) text steps) :
    after.readText file = .ok text :=
  Tree.readText_eq (done.locate mem).1 (done.entry mem only) (done.locate mem).2

/-! ## Reading a configuration -/

/-- The texts of files in a directory of a tree. -/
def filesIn (tree : Tree) (directory : Path) (files : List (String × String)) :
    Except ReadError (List (String × String)) :=
  ((readFiles directory files : StateM Tree _) tree).1

/-- The configuration in a directory of a tree. -/
def readFrom (directory : Path) (tree : Tree) : Except ReadError Configuration :=
  ((Configuration.read directory : StateM Tree _) tree).1

theorem access_readText (path : Path) (tree : Tree) :
    (Access.readText path : StateM Tree _) tree = (tree.readText path, tree) := rfl

theorem pure_apply {α : Type} (a : α) (tree : Tree) :
    (pure a : StateM Tree α) tree = (a, tree) := rfl

theorem filesIn_cons {tree : Tree} {directory : Path} {name file : String}
    {rest texts : List (String × String)} :
    filesIn tree directory ((name, file) :: rest) = .ok texts ↔
      ∃ text others, tree.readText (directory.join ⟨file⟩) = .ok text ∧
        filesIn tree directory rest = .ok others ∧ texts = (name, text) :: others := by
  unfold filesIn
  rw [readFiles]
  cases isText : tree.readText (directory.join ⟨file⟩) with
  | error failure => simp [bind, StateT.bind, access_readText, isText, pure_apply]
  | ok text =>
    rcases others : (readFiles directory rest : StateM Tree _) tree with ⟨result, after⟩
    cases result <;>
      simp [bind, StateT.bind, access_readText, isText, pure_apply, others, eq_comm]

/-- What a configuration is read from. -/
theorem readFrom_ok {directory : Path} {tree : Tree} {configuration : Configuration} :
    readFrom directory tree = .ok configuration ↔
      ∃ text written texts, tree.readText (directory.join fileName) = .ok text ∧
        ofText (directory.join fileName) text = .ok written ∧
        filesIn tree directory written.sqlFiles = .ok texts ∧
        configuration = written.withTexts texts := by
  unfold readFrom filesIn
  rw [read]
  cases isText : tree.readText (directory.join fileName) with
  | error failure => simp [bind, StateT.bind, access_readText, isText, pure_apply]
  | ok text =>
    cases isWritten : ofText (directory.join fileName) text with
    | error error =>
      simp [bind, StateT.bind, access_readText, isText, isWritten, pure_apply]
    | ok written =>
      rcases texts : (readFiles directory written.sqlFiles : StateM Tree _) tree
        with ⟨result, after⟩
      cases result <;>
        simp [bind, StateT.bind, access_readText, isText, isWritten, pure_apply, texts,
          eq_comm]

/-- Files with the same texts elsewhere are read there as well. -/
theorem filesIn_congr {tree other : Tree} {directory elsewhere : Path}
    {files texts : List (String × String)}
    (same : ∀ file ∈ files, ∀ text, tree.readText (directory.join ⟨file.2⟩) = .ok text →
      other.readText (elsewhere.join ⟨file.2⟩) = .ok text)
    (areTexts : filesIn tree directory files = .ok texts) :
    filesIn other elsewhere files = .ok texts := by
  induction files generalizing texts with
  | nil =>
    cases areTexts
    rfl
  | cons file rest ih =>
    obtain ⟨name, file⟩ := file
    obtain ⟨text, others, isText, areOthers, rfl⟩ := filesIn_cons.1 areTexts
    rw [List.forall_mem_cons] at same
    exact filesIn_cons.2 ⟨text, others, same.1 text isText, ih same.2 areOthers, rfl⟩

/-- The text listed under a name is that of the file. -/
theorem lookup_filesIn {tree : Tree} {directory : Path} {files texts : List (String × String)}
    (areTexts : filesIn tree directory files = .ok texts) (distinct : (files.map Prod.fst).Nodup)
    {name file : String} (mem : (name, file) ∈ files) :
    ∃ text, texts.lookup name = some text ∧
      tree.readText (directory.join ⟨file⟩) = .ok text := by
  induction files generalizing texts with
  | nil => cases mem
  | cons first rest ih =>
    obtain ⟨firstName, firstFile⟩ := first
    obtain ⟨text, others, isText, areOthers, rfl⟩ := filesIn_cons.1 areTexts
    obtain ⟨absent, distinctRest⟩ := List.nodup_cons.1 distinct
    rcases List.mem_cons.1 mem with same | later
    · cases same
      exact ⟨text, by simp, isText⟩
    · obtain ⟨found, isFound, isRead⟩ := ih areOthers distinctRest later
      have notFirst : (name == firstName) = false := by
        rw [beq_eq_false_iff_ne]
        rintro rfl
        exact absent (List.mem_map.2 ⟨_, later, rfl⟩)
      refine ⟨found, ?_, isRead⟩
      rw [List.lookup_cons, notFirst]
      exact isFound

/-! ### Files and their texts -/

theorem sqlFiles_withTexts (configuration : Configuration) (texts : List (String × String)) :
    (configuration.withTexts texts).sqlFiles = configuration.sqlFiles := by
  have path (sql : SqlSource) (contents : Option String) :
      (sql.withContents contents).path? = sql.path? := by cases sql <;> rfl
  simp only [sqlFiles, withTexts, Dictionary.mapWithName, List.filterMap_map]
  refine congrArg (List.filterMap · configuration.nativeQueries.entries) ?_
  funext entry
  rw [Function.comp_apply, path]

theorem withTexts_withTexts (configuration : Configuration)
    (texts others : List (String × String)) :
    (configuration.withTexts texts).withTexts others = configuration.withTexts others := by
  have contents (sql : SqlSource) (first second : Option String) :
      (sql.withContents first).withContents second = sql.withContents second := by
    cases sql <;> rfl
  simp [withTexts, Dictionary.mapWithName, Function.comp_def, contents]

theorem nodup_sqlFiles (configuration : Configuration) :
    (configuration.sqlFiles.map Prod.fst).Nodup := by
  refine List.Sublist.nodup ?_ configuration.nativeQueries.distinct
  unfold sqlFiles
  induction configuration.nativeQueries.entries with
  | nil => exact List.Sublist.refl _
  | cons entry rest ih =>
    obtain ⟨name, query⟩ := entry
    cases isPath : query.sql.path? with
    | none =>
      rw [List.filterMap_cons_none (by simp [isPath])]
      exact ih.cons _
    | some path =>
      rw [List.filterMap_cons_some (b := (name, path)) (by simp [isPath])]
      exact ih.cons_cons _

/-- A query that has been read has the text of its file. -/
theorem readFrom_contents {directory : Path} {tree : Tree} {configuration : Configuration}
    (wasRead : readFrom directory tree = .ok configuration) {name path : String}
    {query : NativeQuery} {contents : Option String}
    (mem : (name, query) ∈ configuration.nativeQueries.entries)
    (isFile : query.sql = .file path contents) :
    ∃ text, contents = some text ∧ tree.readText (directory.join ⟨path⟩) = .ok text := by
  obtain ⟨-, written, texts, -, -, areTexts, rfl⟩ := readFrom_ok.1 wasRead
  obtain ⟨⟨_, unread⟩, isEntry, same⟩ := List.mem_map.1 mem
  cases same
  change unread.sql.withContents (texts.lookup name) = _ at isFile
  cases isSource : unread.sql with
  | inline text =>
    rw [isSource] at isFile
    cases isFile
  | file file missing =>
    rw [isSource] at isFile
    cases isFile
    have isListed : (name, path) ∈ written.sqlFiles :=
      List.mem_filterMap.2 ⟨_, isEntry, by simp [isSource, SqlSource.path?]⟩
    exact lookup_filesIn areTexts written.nodup_sqlFiles isListed

/-! ## The files of a configuration -/

/-- The files keep apart when they are written into another directory: those that get to one
place there had one text where they were read from, and none gets to the place of the schema. -/
structure KeepsApart (origin : Tree) (source : Path) (home : Location) (directory : Path)
    (configuration : Configuration) : Prop where
  texts : ∀ file ∈ fileName :: configuration.filePaths,
    ∀ other ∈ fileName :: configuration.filePaths,
      (directory.join file).locationFrom home = (directory.join other).locationFrom home →
        origin.readText (source.join file) = origin.readText (source.join other)
  schema : ∀ file ∈ configuration.filePaths,
    (directory.join file).locationFrom home ≠ (directory.join schemaFileName).locationFrom home

/-- What is done once the configuration itself is written. -/
def laterSteps (directory : Path) (configuration : Configuration) : List Step :=
  (configuration.nativeQueries.entries.flatMap fun (_, query) => sqlSteps directory query.sql)
    ++ [.write (directory.join schemaFileName) (fileText schema)]

theorem writeSteps_eq (directory : Path) (configuration : Configuration) :
    configuration.writeSteps directory = .createDirectories directory ::
      .write (directory.join fileName) (fileText configuration.toJson) ::
        configuration.laterSteps directory := rfl

theorem write_mem_sqlSteps {sql : SqlSource} :
    .write file text ∈ sqlSteps directory sql ↔
      ∃ path, sql = .file path (some text) ∧ ¬Refused ⟨path⟩ ∧ file = directory.join ⟨path⟩ := by
  cases sql with
  | inline sql => simp [sqlSteps]
  | file path contents =>
    have check : ((⟨path⟩ : Path).isAbsolute || (⟨path⟩ : Path).startsAbove) = true ↔
        Refused ⟨path⟩ := Bool.or_eq_true _ _ ▸ Iff.rfl
    unfold sqlSteps
    simp only [check]
    constructor
    · intro mem
      split at mem
      · simp at mem
      · rename_i accepted
        cases contents with
        | none => simp at mem
        | some contents =>
          simp only [List.mem_cons, reduceCtorEq, Step.write.injEq, List.not_mem_nil, or_false,
            false_or] at mem
          obtain ⟨rfl, rfl⟩ := mem
          exact ⟨path, rfl, accepted, rfl⟩
    · rintro ⟨path, same, accepted, rfl⟩
      cases same
      simp [accepted]

theorem write_mem_laterSteps {configuration : Configuration} :
    .write file text ∈ configuration.laterSteps directory ↔
      (∃ name query path, (name, query) ∈ configuration.nativeQueries.entries ∧
        query.sql = .file path (some text) ∧ ¬Refused ⟨path⟩ ∧ file = directory.join ⟨path⟩) ∨
      (file = directory.join schemaFileName ∧ text = fileText schema) := by
  simp only [laterSteps, List.mem_append, List.mem_flatMap, List.mem_singleton, Step.write.injEq,
    write_mem_sqlSteps, Prod.exists, exists_and_left]

section

variable {source : Path} {origin : Tree} {configuration : Configuration} {home : Location}

theorem mem_filePaths_of_file {name path : String} {query : NativeQuery}
    {contents : Option String} (mem : (name, query) ∈ configuration.nativeQueries.entries)
    (isFile : query.sql = .file path contents) : ⟨path⟩ ∈ configuration.filePaths :=
  mem_filePaths.2 ⟨_, mem, by simp [isFile, SqlSource.path?]⟩

theorem schema_ne_fileName (home : Location) (directory : Path) :
    (directory.join schemaFileName).locationFrom home ≠
      (directory.join fileName).locationFrom home := by
  have schemaNames : schemaFileName.names = ["schema.json"] := by decide
  have fileNames : fileName.names = ["configuration.json"] := by decide
  rw [Path.locationFrom_join (by decide), Path.locationFrom_join (by decide),
    schemaNames, fileNames]
  simp [Path.resolve]

/-- What is written later to the place of a file is the text that the file had. -/
theorem writeOnly_laterSteps (wasRead : readFrom source origin = .ok configuration)
    (apart : configuration.KeepsApart origin source home directory)
    (isFile : file ∈ fileName :: configuration.filePaths)
    (isText : origin.readText (source.join file) = .ok text) :
    WriteOnly home ((directory.join file).locationFrom home) text
      (configuration.laterSteps directory) := by
  intro written other mem samePlace
  rcases write_mem_laterSteps.1 mem with
    ⟨name, query, path, isQuery, isSource, -, rfl⟩ | ⟨rfl, -⟩
  · obtain ⟨known, same, isKnown⟩ := readFrom_contents wasRead isQuery isSource
    cases same
    have isPath := mem_filePaths_of_file isQuery isSource
    have sameText := apart.texts _ (List.mem_cons_of_mem _ isPath) _ isFile samePlace
    rw [isKnown, isText] at sameText
    exact Except.ok.inj sameText
  · rcases List.mem_cons.1 isFile with rfl | isPath
    · exact absurd samePlace (schema_ne_fileName home directory)
    · exact absurd samePlace.symm (apart.schema file isPath)

/-- The file of a query that has been read is written, as none is refused. -/
theorem write_mem_of_done (wasRead : readFrom source origin = .ok configuration)
    (done : Done (configuration.writeSteps directory) tree after)
    (isFile : file ∈ configuration.filePaths)
    (isText : origin.readText (source.join file) = .ok text) :
    .write (directory.join file) text ∈ configuration.laterSteps directory := by
  obtain ⟨⟨name, query⟩, isQuery, isPath⟩ := mem_filePaths.1 isFile
  have accepted : ¬Refused file := by
    intro refused
    obtain ⟨error, failed⟩ := runSteps_refuse (refuse_mem_writeSteps.2 ⟨isFile, refused, rfl⟩) tree
    rw [done] at failed
    cases failed
  cases isSource : query.sql with
  | inline sql =>
    rw [isSource] at isPath
    cases isPath
  | file path contents =>
    rw [isSource] at isPath
    cases isPath
    obtain ⟨known, same, isKnown⟩ := readFrom_contents wasRead isQuery isSource
    rw [isText] at isKnown
    cases isKnown
    rw [same] at isSource
    exact write_mem_laterSteps.2 (.inl ⟨name, query, _, isQuery, isSource, accepted, rfl⟩)

/-- The steps after the configuration itself, and the tree that they begin in. -/
theorem done_laterSteps (done : Done (configuration.writeSteps directory) tree after) :
    ∃ middle, middle.workingDirectory = tree.workingDirectory ∧
      Done (configuration.laterSteps directory) middle after := by
  rw [writeSteps_eq] at done
  obtain ⟨made, isMade, done⟩ := done_cons done
  obtain ⟨written, isWritten, done⟩ := done_cons done
  exact ⟨written, (run_grows isWritten).home.trans (run_grows isMade).home, done⟩

/-- The texts of queries are read back. -/
theorem readText_of_done (wasRead : readFrom source origin = .ok configuration)
    (apart : configuration.KeepsApart origin source tree.workingDirectory directory)
    (done : Done (configuration.writeSteps directory) tree after)
    (isFile : file ∈ configuration.filePaths)
    (isText : origin.readText (source.join file) = .ok text) :
    after.readText (directory.join file) = .ok text := by
  have mem := write_mem_of_done wasRead done isFile isText
  obtain ⟨middle, home, doneLater⟩ := done_laterSteps done
  rw [← home] at apart
  have only := writeOnly_laterSteps wasRead apart (List.mem_cons_of_mem _ isFile) isText
  exact doneLater.readText mem only

/-- The configuration is read back: from what was written first, or from the file of a query that
is in its place, which has the text that the configuration was read from. -/
theorem ofText_of_done (wasRead : readFrom source origin = .ok configuration)
    (apart : configuration.KeepsApart origin source tree.workingDirectory directory)
    (done : Done (configuration.writeSteps directory) tree after) :
    ∃ text written, after.readText (directory.join fileName) = .ok text ∧
      ofText (directory.join fileName) text = .ok written ∧
      written.withTexts [] = configuration.withTexts [] := by
  obtain ⟨text, read, texts, isText, isRead, -, rfl⟩ := readFrom_ok.1 wasRead
  obtain ⟨json, isJson, isConfiguration, isCurrent⟩ := ofText_ok.1 isRead
  have isWritten : .write (directory.join fileName) (fileText (read.withTexts texts).toJson) ∈
      (read.withTexts texts).writeSteps directory := List.mem_cons_of_mem _ List.mem_cons_self
  by_cases replaced : ∃ file ∈ (read.withTexts texts).filePaths,
      (directory.join file).locationFrom tree.workingDirectory =
        (directory.join fileName).locationFrom tree.workingDirectory
  · obtain ⟨file, isFile, samePlace⟩ := replaced
    have sameText := apart.texts _ (List.mem_cons_of_mem _ isFile) _ List.mem_cons_self samePlace
    rw [isText] at sameText
    obtain ⟨follows, -, isThere⟩ :=
      Tree.readText_ok (readText_of_done wasRead apart done isFile sameText)
    rw [done.grows.home, samePlace] at isThere
    have found := done.locate isWritten
    exact ⟨text, read, Tree.readText_eq found.1 isThere found.2,
      ofText_ok.2 ⟨json, isJson, isConfiguration, isCurrent⟩, (withTexts_withTexts _ _ _).symm⟩
  · have only : WriteOnly tree.workingDirectory
        ((directory.join fileName).locationFrom tree.workingDirectory)
        (fileText (read.withTexts texts).toJson) ((read.withTexts texts).writeSteps directory) := by
      intro file other mem samePlace
      rw [writeSteps_eq] at mem
      simp only [List.mem_cons, reduceCtorEq, Step.write.injEq, false_or] at mem
      rcases mem with ⟨-, rfl⟩ | later
      · rfl
      · rcases write_mem_laterSteps.1 later with
          ⟨name, query, path, isQuery, isFile, -, rfl⟩ | ⟨rfl, -⟩
        · exact absurd ⟨⟨path⟩, mem_filePaths_of_file isQuery isFile, samePlace⟩ replaced
        · exact absurd samePlace (schema_ne_fileName _ directory)
    have isSorted : (read.withTexts texts).nativeQueries.IsSorted := by
      rw [withTexts, Dictionary.IsSorted, Dictionary.names_mapWithName]
      exact isSorted_ofJson isConfiguration
    exact ⟨_, _, done.readText isWritten only, ofText_fileText _ isSorted isCurrent,
      withTexts_withTexts _ _ _⟩

/-! ### Paths that stay -/

/-- A relative path whose names do not leave the directory. -/
def Stays (file : Path) : Prop :=
  file.isAbsolute = false ∧ Path.leaves 0 file.names = false

instance (file : Path) : Decidable (Stays file) :=
  inferInstanceAs (Decidable (_ ∧ _))

theorem Stays.locationFrom {file : Path} (stays : Stays file) (home : Location)
    (directory : Path) : (directory.join file).locationFrom home =
      directory.locationFrom home ++ Path.resolve [] file.names := by
  rw [Path.locationFrom_join stays.1, Path.resolve_eq_append stays.2]

/-- Files that stay and get to one place do so in every directory. -/
theorem Stays.samePlace {file other : Path} (stays : Stays file) (otherStays : Stays other)
    (samePlace : (directory.join file).locationFrom home =
      (directory.join other).locationFrom home) (elsewhere : Location) (source : Path) :
    (source.join file).locationFrom elsewhere = (source.join other).locationFrom elsewhere := by
  rw [stays.locationFrom, otherStays.locationFrom] at samePlace
  rw [stays.locationFrom, otherStays.locationFrom, List.append_cancel_left samePlace]

theorem readText_of_readFrom (wasRead : readFrom source origin = .ok configuration) :
    ∀ file ∈ fileName :: configuration.filePaths,
      ∃ text, origin.readText (source.join file) = .ok text := by
  rw [List.forall_mem_cons]
  constructor
  · obtain ⟨text, -, -, isText, -⟩ := readFrom_ok.1 wasRead
    exact ⟨text, isText⟩
  · intro file isFile
    obtain ⟨⟨name, query⟩, isQuery, isPath⟩ := mem_filePaths.1 isFile
    cases isSource : query.sql with
    | inline sql =>
      rw [isSource] at isPath
      cases isPath
    | file path contents =>
      rw [isSource] at isPath
      cases isPath
      obtain ⟨text, -, isText⟩ := readFrom_contents wasRead isQuery isSource
      exact ⟨text, isText⟩

/-- The files keep apart if their paths stay and do not lead to the schema. -/
theorem keepsApart_of_stays (wasRead : readFrom source origin = .ok configuration)
    (stays : ∀ file ∈ configuration.filePaths,
      Stays file ∧ Path.resolve [] file.names ≠ Path.resolve [] schemaFileName.names)
    (home : Location) (directory : Path) :
    configuration.KeepsApart origin source home directory where
  texts := by
    have allStay : ∀ file ∈ fileName :: configuration.filePaths, Stays file := by
      rw [List.forall_mem_cons]
      exact ⟨by decide, fun file isFile => (stays file isFile).1⟩
    intro file isFile other isOther samePlace
    have sameSource := (allStay file isFile).samePlace (allStay other isOther) samePlace
      origin.workingDirectory source
    obtain ⟨text, isText⟩ := readText_of_readFrom wasRead file isFile
    obtain ⟨otherText, isOtherText⟩ := readText_of_readFrom wasRead other isOther
    have isThere := (Tree.readText_ok isText).2.2
    rw [sameSource, (Tree.readText_ok isOtherText).2.2] at isThere
    cases isThere
    rw [isText, isOtherText]
  schema := by
    intro file isFile samePlace
    obtain ⟨fileStays, notSchema⟩ := stays file isFile
    have schemaStays : Stays schemaFileName := by decide
    rw [fileStays.locationFrom, schemaStays.locationFrom] at samePlace
    exact notSchema (List.append_cancel_left samePlace)

end

/-! ## Writing and reading -/

/-- **A configuration that is written is read back the same.**  It is one that has been read from
a directory, written into another where its files keep apart. -/
theorem write_reread {source directory : Path} {origin tree : Tree} {configuration : Configuration}
    (wasRead : readFrom source origin = .ok configuration)
    (apart : configuration.KeepsApart origin source tree.workingDirectory directory)
    (written : (configuration.writeInto directory tree).1 = .ok ()) :
    readFrom directory (configuration.writeInto directory tree).2 = .ok configuration := by
  have done : Done (configuration.writeSteps directory) tree
      (configuration.writeInto directory tree).2 := Prod.ext written rfl
  obtain ⟨text, reread, isText, isReread, sameUnread⟩ := ofText_of_done wasRead apart done
  obtain ⟨-, read, texts, -, -, areTexts, rfl⟩ := readFrom_ok.1 wasRead
  have sameFiles : reread.sqlFiles = read.sqlFiles := by
    have files := congrArg sqlFiles sameUnread
    simpa only [sqlFiles_withTexts] using files
  have sameTexts : read.withTexts texts = reread.withTexts texts := by
    have withSame := congrArg (withTexts texts) sameUnread
    simpa only [withTexts_withTexts] using withSame.symm
  refine readFrom_ok.2 ⟨text, reread, texts, isText, isReread, ?_, sameTexts⟩
  rw [sameFiles]
  refine filesIn_congr (fun file mem text isText => ?_) areTexts
  refine readText_of_done wasRead apart done (List.mem_map.2 ⟨file, ?_, rfl⟩) isText
  rw [sqlFiles_withTexts]
  exact mem

/-- A tree with a configuration and other files in a directory. -/
def kept (configuration : Configuration) (others : List (Location × Entry)) : Tree where
  workingDirectory := []
  entries := (["config"], .directory) ::
    (["config", "configuration.json"], .file (fileText configuration.toJson)) :: others

theorem readFrom_kept {configuration : Configuration} {others : List (Location × Entry)}
    {texts : List (String × String)} (isSorted : configuration.nativeQueries.IsSorted)
    (isCurrent : configuration.version = currentVersion)
    (areTexts : filesIn (kept configuration others) ⟨"config"⟩ configuration.sqlFiles = .ok texts)
    (sameTexts : configuration.withTexts texts = configuration) :
    readFrom ⟨"config"⟩ (kept configuration others) = .ok configuration := by
  have isText : (kept configuration others).readText ((⟨"config"⟩ : Path).join fileName) =
      .ok (fileText configuration.toJson) := rfl
  refine readFrom_ok.2 ⟨_, configuration.withTexts [], texts, isText,
    ofText_fileText _ isSorted isCurrent, ?_, ?_⟩
  · rw [sqlFiles_withTexts]
    exact areTexts
  · rw [withTexts_withTexts, sameTexts]

/-- Two queries in one file, to which their paths lead in two ways, and connections that may be
unused without limit. -/
def sharedFile : Configuration where
  version := currentVersion
  connectionUri := .plain "mysql://db"
  pool := { PoolSettings.default with idleTimeout := none }
  nativeQueries := .ofList [
    ("people", fileQuery "sql/people.sql" "SELECT * FROM people"),
    ("persons", fileQuery "sql/../sql/people.sql" "SELECT * FROM people")]

/-- A directory that they are read from. -/
def sharedFileTree : Tree :=
  kept sharedFile [(["config", "sql"], .directory),
    (["config", "sql", "people.sql"], .file "SELECT * FROM people")]

theorem reread_sharedFile :
    readFrom ⟨"config"⟩ sharedFileTree = .ok sharedFile ∧
      sharedFile.KeepsApart sharedFileTree ⟨"config"⟩ Tree.empty.workingDirectory ⟨"out"⟩ ∧
      (sharedFile.writeInto ⟨"out"⟩ .empty).1 = .ok () ∧
      readFrom ⟨"out"⟩ (sharedFile.writeInto ⟨"out"⟩ .empty).2 = .ok sharedFile := by
  have isSorted : sharedFile.nativeQueries.names.Pairwise (· ≤ ·) := by decide
  have areTexts : filesIn sharedFileTree ⟨"config"⟩ sharedFile.sqlFiles = .ok
      [("people", "SELECT * FROM people"), ("persons", "SELECT * FROM people")] := by
    decide +kernel
  have wasRead : readFrom ⟨"config"⟩ sharedFileTree = .ok sharedFile :=
    readFrom_kept isSorted rfl areTexts (by decide +kernel)
  have apart := keepsApart_of_stays wasRead (by decide +kernel) Tree.empty.workingDirectory ⟨"out"⟩
  have written : (sharedFile.writeInto ⟨"out"⟩ .empty).1 = .ok () := by decide +kernel
  exact ⟨wasRead, apart, written, write_reread wasRead apart written⟩

/-- What is written to the place of the schema is lost: the schema is written last. -/
theorem reread_schema {directory : Path} {tree : Tree} {configuration reread : Configuration}
    (written : (configuration.writeInto directory tree).1 = .ok ())
    (isReread : readFrom directory (configuration.writeInto directory tree).2 = .ok reread)
    {name path : String} {query : NativeQuery} {contents : Option String}
    (isQuery : (name, query) ∈ reread.nativeQueries.entries)
    (isFile : query.sql = .file path contents)
    (samePlace : (directory.join ⟨path⟩).locationFrom tree.workingDirectory =
      (directory.join schemaFileName).locationFrom tree.workingDirectory) :
    contents = some (fileText schema) := by
  have done : Done (configuration.writeSteps directory) tree
      (configuration.writeInto directory tree).2 := Prod.ext written rfl
  obtain ⟨text, rfl, isText⟩ := readFrom_contents isReread isQuery isFile
  have isThere := (Tree.readText_ok isText).2.2
  obtain ⟨middle, home, doneLast⟩ := done_append done
  have isSchema := doneLast.entry List.mem_cons_self
    (fun file other mem _ => by cases List.mem_singleton.1 mem; rfl)
  rw [done.grows.home, samePlace, ← home, isSchema] at isThere
  cases isThere
  rfl

/-- A query in a file in the place of the schema. -/
def schemaQuery : Configuration :=
  { initial with nativeQueries := .ofList [("q", fileQuery "schema.json" "SELECT 1")] }

theorem reread_schemaQuery :
    readFrom ⟨"config"⟩ (kept schemaQuery [(["config", "schema.json"], .file "SELECT 1")]) =
        .ok schemaQuery ∧
      (schemaQuery.writeInto ⟨"out"⟩ .empty).1 = .ok () ∧
      readFrom ⟨"out"⟩ (schemaQuery.writeInto ⟨"out"⟩ .empty).2 ≠ .ok schemaQuery := by
  have isSorted : schemaQuery.nativeQueries.names.Pairwise (· ≤ ·) := by decide
  have areTexts : filesIn (kept schemaQuery [(["config", "schema.json"], .file "SELECT 1")])
      ⟨"config"⟩ schemaQuery.sqlFiles = .ok [("q", "SELECT 1")] := by decide +kernel
  have wasRead := readFrom_kept isSorted rfl areTexts (by decide +kernel)
  have written : (schemaQuery.writeInto ⟨"out"⟩ .empty).1 = .ok () := by decide +kernel
  refine ⟨wasRead, written, fun isReread => ?_⟩
  have isQuery : ("q", fileQuery "schema.json" "SELECT 1") ∈ schemaQuery.nativeQueries.entries :=
    List.mem_cons_self
  have replaced := reread_schema written isReread isQuery rfl rfl
  -- The text of a file that holds JSON ends with a line break.
  have last := congrArg (fun text : String => text.toList.getLast?) (Option.some.inj replaced)
  simp [fileText] at last

end Configuration

end PlanCompiler
