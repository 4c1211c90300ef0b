/-
# Proofs.TreeOperations -- what operations do to a tree

Where a path can be followed, it leads to the location that its names resolve to
(`locate_eq`).  Each operation on a tree changes one location at most: writing puts a file
where no directory is, and making a directory puts one where nothing is.  So directories
stay (`Grows`), and what could be followed before can be followed after (`Grows.locate`).
-/
import PlanCompiler.Files.Tree
import PlanCompiler.Proofs.PathNames
import PlanCompiler.Proofs.Results

namespace PlanCompiler.Files

set_option autoImplicit false

namespace Tree

variable {tree before after : Tree} {path : Path} {location : Location}

/-! ## Following a path -/

/-- Names that can be followed lead to where they resolve to. -/
theorem walk_eq {names : List String} {here : Location}
    (follows : tree.walk here names = .ok location) : location = Path.resolve here names := by
  induction names generalizing here with
  | nil =>
    cases follows
    rfl
  | cons name rest ih =>
    rw [walk] at follows
    split at follows
    · cases follows
    · cases follows
    · split at follows
      · cases follows
      · rw [Path.resolve_cons]
        exact ih follows

theorem locate_eq (follows : tree.locate path = .ok location) :
    location = path.locationFrom tree.workingDirectory := by
  unfold locate at follows
  split at follows
  · cases follows
  · split at follows
    · cases follows
    · split at follows
      · cases follows
      · exact walk_eq follows

/-! ## Changes -/

theorem entry?_put_self (tree : Tree) {location : Location} (entry : Entry)
    (below : location ≠ []) : entry? (tree.put location entry) location = some entry := by
  cases location with
  | nil => exact absurd rfl below
  | cons name rest => simp [put, entry?]

theorem lookup_filter_ne {entries : List (Location × Entry)} {location other : Location}
    (differs : other ≠ location) :
    (entries.filter (·.1 ≠ location)).lookup other = entries.lookup other := by
  induction entries with
  | nil => rfl
  | cons entry rest ih =>
    obtain ⟨key, value⟩ := entry
    by_cases same : key = location
    · have notKey : (other == key) = false := by simp [same, differs]
      rw [List.filter_cons_of_neg (by simp [same]), ih, List.lookup_cons, notKey]
    · rw [List.filter_cons_of_pos (by simp [same]), List.lookup_cons, List.lookup_cons, ih]

theorem entry?_put_ne (tree : Tree) {location other : Location} (entry : Entry)
    (differs : other ≠ location) : entry? (tree.put location entry) other = tree.entry? other := by
  have notKey : (other == location) = false := by simp [differs]
  unfold entry? put
  split
  · rfl
  · rw [List.lookup_cons, notKey]
    exact lookup_filter_ne differs

theorem writeText_eq {text : String} (written : tree.writeText path text = .ok after) :
    ∃ location, tree.locate path = .ok location ∧ path.endsInSlash = false ∧
      tree.entry? location ≠ some .directory ∧ after = tree.put location (.file text) := by
  obtain ⟨location, follows, written⟩ := Except.bind_eq_ok.1 written
  split at written
  · cases written
  · rename_i noSlash
    split at written
    · cases written
    · rename_i notDirectory
      cases written
      exact ⟨location, follows, Bool.not_eq_true _ ▸ noSlash, notDirectory, rfl⟩

theorem makeDirectory_eq (made : tree.makeDirectory path = .ok after) :
    ∃ location, tree.locate path = .ok location ∧ tree.entry? location = none ∧
      after = tree.put location .directory := by
  obtain ⟨location, follows, made⟩ := Except.bind_eq_ok.1 made
  split at made
  · cases made
  · rename_i nothing
    cases made
    exact ⟨location, follows, nothing, rfl⟩

theorem readText_eq {text : String} (follows : tree.locate path = .ok location)
    (isFile : tree.entry? location = some (.file text)) (noSlash : path.endsInSlash = false) :
    tree.readText path = .ok text := by
  refine Except.bind_eq_ok.2 ⟨location, follows, ?_⟩
  rw [isFile]
  exact if_neg (by simp [noSlash])

/-! ## Directories stay -/

/-- All directories are still there. -/
structure Grows (before after : Tree) : Prop where
  home : after.workingDirectory = before.workingDirectory
  directories : ∀ location, before.entry? location = some .directory →
    after.entry? location = some .directory

theorem Grows.refl (tree : Tree) : Grows tree tree := ⟨rfl, fun _ is => is⟩

theorem Grows.trans {middle : Tree} (first : Grows before middle) (second : Grows middle after) :
    Grows before after where
  home := second.home.trans first.home
  directories location is := second.directories location (first.directories location is)

/-- The root is always there, so nothing is put in its place. -/
theorem ne_nil_of_notDirectory (notDirectory : tree.entry? location ≠ some .directory) :
    location ≠ [] := by
  rintro rfl
  exact notDirectory rfl

/-- A file never takes the place of a directory. -/
theorem grows_writeText {text : String} (written : tree.writeText path text = .ok after) :
    Grows tree after := by
  obtain ⟨location, -, -, notDirectory, rfl⟩ := writeText_eq written
  refine ⟨rfl, fun other isDirectory => ?_⟩
  have differs : other ≠ location := by
    rintro rfl
    exact notDirectory isDirectory
  rw [entry?_put_ne tree _ differs]
  exact isDirectory

theorem Grows.walk (grows : Grows before after) {names : List String} {here : Location}
    (follows : before.walk here names = .ok location) :
    after.walk here names = .ok location := by
  induction names generalizing here with
  | nil => exact follows
  | cons name rest ih =>
    rw [Tree.walk] at follows ⊢
    split at follows
    · cases follows
    · cases follows
    · rename_i isDirectory
      rw [grows.directories here isDirectory]
      simp only
      split at follows
      · cases follows
      · rename_i short
        rw [if_neg short]
        exact ih follows

/-- What could be followed can still be followed. -/
theorem Grows.locate (grows : Grows before after) (follows : before.locate path = .ok location) :
    after.locate path = .ok location := by
  unfold Tree.locate at follows ⊢
  split at follows
  · cases follows
  · rename_i noNul
    rw [if_neg noNul]
    split at follows
    · cases follows
    · rename_i nonempty
      rw [if_neg nonempty]
      split at follows
      · cases follows
      · rename_i short
        rw [if_neg short, grows.home]
        exact grows.walk follows

/-! ## Programs -/

section

variable {α β : Type} {relation : Tree → Tree → Prop}

/-- Running the program changes a tree into one that is related to it. -/
def Changes (relation : Tree → Tree → Prop) (program : StateM Tree α) : Prop :=
  ∀ tree, relation tree (program tree).2

theorem changes_bind (trans : ∀ a b c, relation a b → relation b c → relation a c)
    {first : StateM Tree α} {rest : α → StateM Tree β} (changesFirst : Changes relation first)
    (changesRest : ∀ a, Changes relation (rest a)) : Changes relation (first >>= rest) :=
  fun tree => trans tree (first tree).2 _ (changesFirst tree) (changesRest _ _)

theorem changes_pure (refl : ∀ a, relation a a) (a : α) :
    Changes relation (pure a : StateM Tree α) := refl

theorem changes_change (refl : ∀ a, relation a a) {operation : Tree → Except Failure Tree}
    (changes : ∀ before after, operation before = .ok after → relation before after) :
    Changes relation (change operation) := by
  intro tree
  unfold change
  split
  · rename_i after succeeded
    exact changes tree after succeeded
  · exact refl tree

theorem changes_settle (refl : ∀ a, relation a a)
    (trans : ∀ a b c, relation a b → relation b c → relation a c) (path : Path)
    (failure : Failure) : Changes relation (Access.settle path failure) := by
  refine changes_bind trans refl fun isDirectory => ?_
  split <;> exact changes_pure refl _

/-- Making a directory with its ancestors makes them and nothing else. -/
theorem changes_createUnder (refl : ∀ a, relation a a)
    (trans : ∀ a b c, relation a b → relation b c → relation a c) (path : Path)
    (above : List Path) (makes : ∀ made ∈ path :: above, ∀ before after,
      makeDirectory made before = .ok after → relation before after) :
    Changes relation (Access.createUnder path above) := by
  induction above generalizing path with
  | nil =>
    have alone := makes path List.mem_cons_self
    refine changes_bind trans (changes_change refl alone) fun made => ?_
    split
    · exact changes_pure refl _
    · exact changes_settle refl trans path _
  | cons parent above ih =>
    have alone : Changes relation (Access.makeDirectory path : StateM Tree _) :=
      changes_change refl (makes path List.mem_cons_self)
    refine changes_bind trans alone fun made => ?_
    split
    · exact changes_pure refl _
    · have others := ih parent fun made mem => makes made (List.mem_cons_of_mem path mem)
      refine changes_bind trans others fun madeParent => ?_
      split
      · exact changes_pure refl _
      · refine changes_bind trans alone fun madeAgain => ?_
        split
        · exact changes_pure refl _
        · exact changes_settle refl trans path _
    · exact changes_settle refl trans path _

theorem changes_createDirectories (refl : ∀ a, relation a a)
    (trans : ∀ a b c, relation a b → relation b c → relation a c) {path : Path}
    (makes : ∀ made ∈ path :: path.ancestors, ∀ before after,
      makeDirectory made before = .ok after → relation before after) :
    Changes relation (Access.createDirectories path) := by
  unfold Access.createDirectories
  split
  · exact changes_pure refl _
  · exact changes_createUnder refl trans path _ makes

end

end Tree

end PlanCompiler.Files
