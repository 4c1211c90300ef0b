/-
# Proofs.PathNames -- where the names of a path lead

A path seen from a directory has the names of the directory and then its own
(`names_join`), and its ancestors pass no location that the path does not pass itself
(`Visits.of_parent`, `Visits.of_ancestor`): leaving out a `.` changes nothing.

Names `leave` a directory if somewhere among them there are more `..` than names to go
back on.  Names that do not leave stay below whatever directory they are followed from,
at each of them (`prefix_of_stays`), and those that do leave are above it somewhere
(`leaves_iff`).
-/
import PlanCompiler.Files.Path

namespace PlanCompiler

set_option autoImplicit false

/-! ## Cutting and joining -/

namespace Text

variable {separator : Char}

theorem split_append (separator : Char) (a b : List Char) :
    split separator (a ++ separator :: b) = split separator a ++ split separator b := by
  induction a with
  | nil => simp [split]
  | cons c rest ih =>
    rw [List.cons_append, split, split]
    split
    · rw [ih]
      rfl
    · rw [ih]
      cases pieces : split separator rest with
      | nil => exact absurd pieces (split_ne_nil _ _)
      | cons piece more => rfl

theorem split_of_notMem {text : List Char} (plain : separator ∉ text) :
    split separator text = [text] := by
  induction text with
  | nil => rfl
  | cons c rest ih =>
    rw [List.mem_cons, not_or] at plain
    rw [split, if_neg (Ne.symm plain.1), ih plain.2]

theorem notMem_of_mem_split {text piece : List Char} (mem : piece ∈ split separator text) :
    separator ∉ piece := by
  induction text generalizing piece with
  | nil =>
    rw [split, List.mem_singleton] at mem
    rw [mem]
    exact List.not_mem_nil
  | cons c rest ih =>
    rw [split] at mem
    split at mem
    · rcases List.mem_cons.1 mem with rfl | mem
      · exact List.not_mem_nil
      · exact ih mem
    · rename_i other
      cases pieces : split separator rest with
      | nil => exact absurd pieces (split_ne_nil _ _)
      | cons first more =>
        rw [pieces] at mem ih
        rcases List.mem_cons.1 mem with rfl | mem
        · intro inPiece
          rcases List.mem_cons.1 inPiece with same | inFirst
          · exact other same.symm
          · exact ih List.mem_cons_self inFirst
        · exact ih (List.mem_cons_of_mem _ mem)

/-- Pieces without the separator are cut as they were joined. -/
theorem split_intercalate {pieces : List (List Char)} (nonempty : pieces ≠ [])
    (plain : ∀ piece ∈ pieces, separator ∉ piece) :
    split separator ([separator].intercalate pieces) = pieces := by
  induction pieces with
  | nil => exact absurd rfl nonempty
  | cons piece rest ih =>
    rw [List.forall_mem_cons] at plain
    have alone := split_of_notMem plain.1
    cases rest with
    | nil =>
      rw [List.intercalate_singleton]
      exact alone
    | cons next more =>
      have others := ih (List.cons_ne_nil _ _) plain.2
      rw [List.intercalate_cons_cons, List.append_assoc, List.singleton_append, split_append, alone,
        others]
      rfl

end Text

namespace Files.Path

/-! ## Names -/

/-- A name that may stand between slashes. -/
def IsName (name : String) : Prop :=
  name ≠ "" ∧ '/' ∉ name.toList

theorem isName_of_mem {path : Path} {name : String} (mem : name ∈ path.names) : IsName name := by
  obtain ⟨piece, isPiece, rfl⟩ := List.mem_map.1 mem
  obtain ⟨isPiece, nonempty⟩ := List.mem_filter.1 isPiece
  constructor
  · intro empty
    have same : piece = [] := by simpa using congrArg String.toList empty
    rw [same] at nonempty
    cases nonempty
  · rw [String.toList_ofList]
    exact Text.notMem_of_mem_split isPiece

theorem names_append (a b : String) :
    (⟨a ++ "/" ++ b⟩ : Path).names = (⟨a⟩ : Path).names ++ (⟨b⟩ : Path).names := by
  have cut := Text.split_append '/' a.toList b.toList
  have chars : (a ++ "/" ++ b).toList = a.toList ++ '/' :: b.toList := by simp
  simp only [names, chars, cut, List.filter_append, List.map_append]

theorem names_empty : (⟨""⟩ : Path).names = [] := rfl

/-- A path seen from a directory has the names of both. -/
theorem names_join {directory path : Path} (relative : path.isAbsolute = false) :
    (directory.join path).names = directory.names ++ path.names := by
  unfold join
  rw [relative]
  simp only [Bool.false_eq_true, if_false]
  split
  · rename_i noSlash
    rw [Bool.or_eq_true] at noSlash
    rcases noSlash with empty | ends
    · rw [show directory = ⟨""⟩ from congrArg mk (String.isEmpty_iff.1 empty), names_empty]
      simp
    · obtain ⟨front, same⟩ := List.getLast?_eq_some_iff.1 (beq_iff_eq.1 ends)
      have text : directory.text = .ofList front ++ "/" := by
        rw [← String.toList_inj, same]
        simp
      have alone : directory.names = (⟨.ofList front⟩ : Path).names := by
        have split := names_append (.ofList front) ""
        rw [String.append_empty, names_empty, List.append_nil, ← text] at split
        exact split
      rw [text, names_append, alone]
  · rw [names_append]

theorem isAbsolute_join {directory path : Path} (relative : path.isAbsolute = false) :
    (directory.join path).isAbsolute = directory.isAbsolute := by
  unfold join
  rw [relative]
  simp only [Bool.false_eq_true, if_false]
  by_cases empty : directory.text = ""
  · have alone : directory.text ++ path.text = path.text := by rw [empty, String.empty_append]
    have notAbsolute : directory.isAbsolute = false := by
      rw [isAbsolute, empty]
      rfl
    rw [if_pos (by simp [empty]), alone, notAbsolute]
    exact relative
  · cases chars : directory.text.toList with
    | nil => exact absurd (String.toList_eq_nil_iff.1 chars) empty
    | cons c rest => split <;> simp [isAbsolute, chars]

/-! ## Paths put together from names -/

theorem chars_ofComponents (absolute : Bool) (names : List String) :
    (ofComponents absolute names).text.toList =
      (if absolute then ['/'] else []) ++ ['/'].intercalate (names.map String.toList) := by
  rw [ofComponents, String.toList_append, String.toList_intercalate]
  cases absolute <;> rfl

/-- The pieces of joined names that are not empty are the names. -/
theorem split_names {names : List String} (areNames : ∀ name ∈ names, IsName name) :
    (Text.split '/' (['/'].intercalate (names.map String.toList))).filter (!·.isEmpty) =
      names.map String.toList := by
  cases names with
  | nil => rfl
  | cons name rest =>
    have plain : ∀ piece ∈ (name :: rest).map String.toList, '/' ∉ piece :=
      List.forall_mem_map.2 fun name mem => (areNames name mem).2
    have nonempty : (name :: rest).map String.toList ≠ [] := List.cons_ne_nil _ _
    rw [Text.split_intercalate nonempty plain, List.filter_eq_self]
    refine List.forall_mem_map.2 fun name mem => ?_
    simpa using (areNames name mem).1

theorem names_ofComponents (absolute : Bool) {names : List String}
    (areNames : ∀ name ∈ names, IsName name) : (ofComponents absolute names).names = names := by
  have pieces : (Text.split '/' (ofComponents absolute names).text.toList).filter (!·.isEmpty) =
      names.map String.toList := by
    rw [chars_ofComponents]
    cases absolute with
    | false => exact split_names areNames
    | true =>
      have root := Text.split_append '/' []
        (['/'].intercalate (names.map String.toList))
      rw [List.nil_append] at root
      rw [if_pos rfl, List.singleton_append, root, List.filter_append, split_names areNames]
      rfl
  rw [Path.names, pieces, List.map_map]
  simp [Function.comp_def]

theorem isAbsolute_ofComponents (absolute : Bool) {names : List String}
    (areNames : ∀ name ∈ names, IsName name) :
    (ofComponents absolute names).isAbsolute = absolute := by
  rw [isAbsolute, chars_ofComponents]
  cases absolute with
  | true => rfl
  | false =>
    cases names with
    | nil => rfl
    | cons name rest =>
      obtain ⟨nonempty, plain⟩ := areNames name List.mem_cons_self
      cases chars : name.toList with
      | nil => exact absurd (String.toList_eq_nil_iff.1 chars) nonempty
      | cons c more =>
        have notSlash : c ≠ '/' := by
          rintro rfl
          rw [chars] at plain
          exact plain List.mem_cons_self
        cases rest with
        | nil => simp [chars, notSlash]
        | cons next others =>
          rw [List.map_cons, List.map_cons, List.intercalate_cons_cons, chars]
          simp [notSlash]

/-! ## Where names lead -/

/-- The location that a path leads to from a directory. -/
def locationFrom (home : List String) (path : Path) : List String :=
  resolve (if path.isAbsolute then [] else home) path.names

theorem resolve_cons (here : List String) (name : String) (rest : List String) :
    resolve here (name :: rest) = resolve (resolve here [name]) rest := by
  by_cases dot : name = "."
  · rw [dot]
    rfl
  · by_cases above : name = ".."
    · rw [above]
      rfl
    · rw [resolve, resolve, resolve] <;> assumption

theorem resolve_append (here first second : List String) :
    resolve here (first ++ second) = resolve (resolve here first) second := by
  induction first generalizing here with
  | nil => rfl
  | cons name rest ih => rw [List.cons_append, resolve_cons, ih, ← resolve_cons]

/-- A `.` leads nowhere else. -/
theorem resolve_filter (here names : List String) :
    resolve here (names.filter (· ≠ ".")) = resolve here names := by
  induction names generalizing here with
  | nil => rfl
  | cons name rest ih =>
    by_cases dot : name = "."
    · rw [List.filter_cons_of_neg (by simp [dot]), ih, dot]
      rfl
    · rw [List.filter_cons_of_pos (by simp [dot]), resolve_cons, ih, ← resolve_cons]

/-- The first names without a `.` are those of some of the first names. -/
theorem exists_take_filter (names : List String) (count : Nat) :
    ∃ more, (names.filter (· ≠ ".")).take count = (names.take more).filter (· ≠ ".") := by
  induction names generalizing count with
  | nil => exact ⟨0, by simp⟩
  | cons name rest ih =>
    cases count with
    | zero => exact ⟨0, rfl⟩
    | succ count =>
      by_cases dot : name = "."
      · obtain ⟨more, same⟩ := ih (count + 1)
        refine ⟨more + 1, ?_⟩
        rw [List.filter_cons_of_neg (by simp [dot]), same, List.take_succ_cons,
          List.filter_cons_of_neg (by simp [dot])]
      · obtain ⟨more, same⟩ := ih count
        refine ⟨more + 1, ?_⟩
        rw [List.filter_cons_of_pos (by simp [dot]), List.take_succ_cons, same,
          List.take_succ_cons, List.filter_cons_of_pos (by simp [dot])]

/-- Components lead where names lead. -/
theorem exists_take_components (path : Path) (count : Nat) :
    ∃ more, ∀ here, resolve here (path.components.take count) =
      resolve here (path.names.take more) := by
  unfold components
  cases path.names with
  | nil => exact ⟨0, fun here => by simp⟩
  | cons first rest =>
    simp only
    split
    · rename_i dot
      obtain ⟨more, same⟩ := exists_take_filter rest count
      refine ⟨more + 1, fun here => ?_⟩
      rw [Bool.and_eq_true, decide_eq_true_iff] at dot
      rw [same, resolve_filter, List.take_succ_cons, dot.1]
      rfl
    · cases count with
      | zero => exact ⟨0, fun here => rfl⟩
      | succ count =>
        obtain ⟨more, same⟩ := exists_take_filter rest count
        refine ⟨more + 1, fun here => ?_⟩
        rw [List.take_succ_cons, same, resolve_cons, resolve_filter, ← resolve_cons,
          List.take_succ_cons]

/-! ## The way -/

/-- Followed from a directory, the path passes the location or leads to it. -/
def Visits (home : List String) (path : Path) (location : List String) : Prop :=
  ∃ count, location = resolve (if path.isAbsolute then [] else home) (path.names.take count)

theorem visits_locationFrom (home : List String) (path : Path) :
    path.Visits home (path.locationFrom home) :=
  ⟨path.names.length, by rw [List.take_length, locationFrom]⟩

theorem components_subset (path : Path) : ∀ name ∈ path.components, name ∈ path.names := by
  intro name mem
  unfold components at mem
  split at mem
  · cases mem
  · rename_i first rest names
    rw [names]
    simp only at mem
    split at mem
    · exact List.mem_cons_of_mem _ (List.mem_filter.1 mem).1
    · rcases List.mem_cons.1 mem with rfl | mem
      · exact List.mem_cons_self
      · exact List.mem_cons_of_mem _ (List.mem_filter.1 mem).1

/-- A path of the first components passes what the path passes. -/
theorem Visits.of_components {home location : List String} {path : Path} {count : Nat}
    (visits : (ofComponents path.isAbsolute (path.components.take count)).Visits home location) :
    path.Visits home location := by
  have areNames : ∀ name ∈ path.components.take count, IsName name :=
    fun name mem => isName_of_mem (path.components_subset name (List.mem_of_mem_take mem))
  obtain ⟨further, rfl⟩ := visits
  obtain ⟨more, same⟩ := path.exists_take_components (min further count)
  refine ⟨more, ?_⟩
  rw [isAbsolute_ofComponents _ areNames, names_ofComponents _ areNames, List.take_take, same]

theorem Visits.of_parent {home location : List String} {path : Path}
    (visits : path.parent.Visits home location) : path.Visits home location := by
  rw [parent, List.dropLast_eq_take] at visits
  exact visits.of_components

theorem Visits.of_ancestor {home location : List String} {path ancestor : Path}
    (mem : ancestor ∈ path.ancestors) (visits : ancestor.Visits home location) :
    path.Visits home location := by
  obtain ⟨count, -, rfl⟩ := List.mem_map.1 mem
  exact visits.of_components

theorem locationFrom_join {home : List String} {directory path : Path}
    (relative : path.isAbsolute = false) :
    (directory.join path).locationFrom home =
      resolve (directory.locationFrom home) path.names := by
  rw [locationFrom, isAbsolute_join relative, names_join relative, resolve_append]
  rfl

/-- A path seen from a directory passes what leads to the directory, and what it passes from
there. -/
theorem visits_join {home location : List String} {directory path : Path}
    (relative : path.isAbsolute = false) (visits : (directory.join path).Visits home location) :
    directory.Visits home location ∨
      ∃ count, location = resolve (directory.locationFrom home) (path.names.take count) := by
  obtain ⟨count, rfl⟩ := visits
  rw [isAbsolute_join relative, names_join relative, List.take_append]
  by_cases within : count ≤ directory.names.length
  · refine .inl ⟨count, ?_⟩
    rw [Nat.sub_eq_zero_of_le within, List.take_zero, List.append_nil]
  · refine .inr ⟨count - directory.names.length, ?_⟩
    rw [List.take_of_length_le (by omega), resolve_append]
    rfl

/-! ## Leaving a directory -/

/-- Whether the names leave a directory somewhere, when they are followed from a location this
far below it. -/
def leaves : Nat → List String → Bool
  | _, [] => false
  | depth, "." :: rest => leaves depth rest
  | 0, ".." :: _ => true
  | depth + 1, ".." :: rest => leaves depth rest
  | depth, _ :: rest => leaves (depth + 1) rest

theorem leaves_cons {name : String} (dot : name ≠ ".") (above : name ≠ "..") (depth : Nat)
    (rest : List String) : leaves depth (name :: rest) = leaves (depth + 1) rest := by
  cases depth <;> simp [leaves, above]

theorem leaves_take {depth : Nat} {names : List String} (stays : leaves depth names = false)
    (count : Nat) : leaves depth (names.take count) = false := by
  induction names generalizing depth count with
  | nil => simp [leaves]
  | cons name rest ih =>
    cases count with
    | zero => rfl
    | succ count =>
      rw [List.take_succ_cons]
      by_cases dot : name = "."
      · subst dot
        exact ih stays count
      · by_cases above : name = ".."
        · subst above
          cases depth with
          | zero => cases stays
          | succ depth => exact ih stays count
        · rw [leaves_cons dot above] at stays ⊢
          exact ih stays count

theorem resolve_above (directory front : List String) (last : String) :
    resolve (directory ++ front.concat last) [".."] = directory ++ front := by
  rw [resolve, resolve, List.concat_eq_append, ← List.append_assoc, List.dropLast_concat]

theorem resolve_below {name : String} (dot : name ≠ ".") (above : name ≠ "..")
    (directory below : List String) :
    resolve (directory ++ below) [name] = directory ++ (below ++ [name]) := by
  rw [resolve, resolve, List.append_assoc] <;> assumption

/-- Names that do not leave a directory lead to something in it, and to the same in each. -/
theorem resolve_of_stays (directory : List String) {below names : List String}
    (stays : leaves below.length names = false) :
    resolve (directory ++ below) names = directory ++ resolve below names := by
  induction names generalizing below with
  | nil => rfl
  | cons name rest ih =>
    rw [resolve_cons, resolve_cons below]
    by_cases dot : name = "."
    · subst dot
      exact ih stays
    · by_cases above : name = ".."
      · subst above
        rcases List.eq_nil_or_concat below with rfl | ⟨front, last, rfl⟩
        · cases stays
        · have back : resolve (front.concat last) [".."] = front := resolve_above [] front last
          rw [List.length_concat] at stays
          rw [resolve_above, back]
          exact ih stays
      · have down : resolve below [name] = below ++ [name] := resolve_below dot above [] below
        rw [leaves_cons dot above] at stays
        rw [resolve_below dot above, down]
        refine ih ?_
        rw [List.length_append, List.length_singleton]
        exact stays

/-- Names that leave a directory lead out of it somewhere, unless it is the root. -/
theorem exists_of_leaves {directory names : List String} (below : List String)
    (notRoot : directory ≠ []) (leaving : leaves below.length names = true) :
    ∃ count, ¬directory <+: resolve (directory ++ below) (names.take count) := by
  induction names generalizing below with
  | nil => cases leaving
  | cons name rest ih =>
    have later : ∀ {below' : List String},
        resolve (directory ++ below) [name] = directory ++ below' →
        leaves below'.length rest = true →
        ∃ count, ¬directory <+: resolve (directory ++ below) ((name :: rest).take count) := by
      intro below' leads leaving
      obtain ⟨count, outside⟩ := ih below' leaving
      refine ⟨count + 1, ?_⟩
      rw [List.take_succ_cons, resolve_cons, leads]
      exact outside
    by_cases dot : name = "."
    · subst dot
      exact later rfl leaving
    · by_cases above : name = ".."
      · subst above
        rcases List.eq_nil_or_concat below with rfl | ⟨front, last, rfl⟩
        · refine ⟨1, fun inside => ?_⟩
          have shorter := inside.length_le
          have nonempty := List.length_pos_iff.2 notRoot
          have back : resolve (directory ++ []) [".."] = directory.dropLast := by
            rw [List.append_nil]
            rfl
          rw [List.take_succ_cons, List.take_zero, back, List.length_dropLast] at shorter
          omega
        · rw [List.length_concat] at leaving
          exact later (resolve_above directory front last) leaving
      · rw [leaves_cons dot above] at leaving
        refine later (resolve_below dot above directory below) ?_
        rw [List.length_append, List.length_singleton]
        exact leaving

theorem resolve_eq_append {names : List String} (stays : leaves 0 names = false)
    (directory : List String) : resolve directory names = directory ++ resolve [] names := by
  have below : leaves ([] : List String).length names = false := stays
  have inside := resolve_of_stays directory below
  rw [List.append_nil] at inside
  exact inside

/-- A path that stays leads into the directory at each of its names. -/
theorem prefix_of_stays {names : List String} (stays : leaves 0 names = false)
    (directory : List String) (count : Nat) :
    directory <+: resolve directory (names.take count) := by
  rw [resolve_eq_append (leaves_take stays count)]
  exact List.prefix_append _ _

/-- Leaving is being out of the directory somewhere on the way. -/
theorem leaves_iff {directory names : List String} (notRoot : directory ≠ []) :
    leaves 0 names = true ↔ ∃ count, ¬directory <+: resolve directory (names.take count) := by
  constructor
  · intro leaving
    have outside := exists_of_leaves [] notRoot leaving
    rw [List.append_nil] at outside
    exact outside
  · rintro ⟨count, outside⟩
    rw [← Bool.not_eq_false]
    exact fun stays => outside (prefix_of_stays stays directory count)

/-- A path that begins by leaving the directory leaves it. -/
theorem leaves_of_startsAbove {path : Path} (above : path.startsAbove = true) :
    leaves 0 path.names = true := by
  rw [startsAbove, Bool.and_eq_true, Bool.not_eq_true', beq_iff_eq] at above
  obtain ⟨relative, first⟩ := above
  unfold components at first
  rw [relative] at first
  cases names : path.names with
  | nil =>
    rw [names] at first
    cases first
  | cons name rest =>
    rw [names] at first
    simp only [Bool.and_false, Bool.false_eq_true, if_false, List.head?_cons,
      Option.some.injEq] at first
    rw [first]
    rfl

end Files.Path

end PlanCompiler
