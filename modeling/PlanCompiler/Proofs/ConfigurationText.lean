/-
# Proofs.ConfigurationText -- the text of a configuration is read back

A configuration whose queries are in the order of their names, written as JSON and read
again, is the same but for the texts of the files (`Configuration.ofText_fileText`): the
JSON names files and does not hold what is in them.

Each part of a configuration has its own lemma, about what it is written as and read
from.
-/
import PlanCompiler.Configuration.Directory
import PlanCompiler.Proofs.JsonRecord
import PlanCompiler.Proofs.JsonText

namespace PlanCompiler

set_option autoImplicit false

/-! ## Dictionaries -/

namespace Dictionary

variable {α β : Type}

theorem put_of_notMem {name : String} (value : α) {entries : List (String × α)}
    (absent : name ∉ entries.map Prod.fst) :
    put name value entries = entries ++ [(name, value)] := by
  induction entries with
  | nil => rfl
  | cons entry rest ih =>
    rw [List.map_cons, List.mem_cons, not_or] at absent
    rw [put, if_neg (Ne.symm absent.1), ih absent.2]
    rfl

theorem entries_foldl_insert (entries : List (String × α)) (d : Dictionary α)
    (distinct : ((d.entries ++ entries).map Prod.fst).Nodup) :
    (entries.foldl (fun d (name, value) => d.insert name value) d).entries =
      d.entries ++ entries := by
  induction entries generalizing d with
  | nil => exact (List.append_nil _).symm
  | cons entry rest ih =>
    obtain ⟨name, value⟩ := entry
    have absent : name ∉ d.entries.map Prod.fst := by
      rw [List.map_append, List.nodup_append] at distinct
      exact fun mem => distinct.2.2 name mem name List.mem_cons_self rfl
    have inserted : (d.insert name value).entries = d.entries ++ [(name, value)] :=
      put_of_notMem value absent
    rw [List.append_cons, ← inserted] at distinct ⊢
    exact ih _ distinct

/-- A dictionary is that of its entries. -/
theorem ofList_entries (d : Dictionary α) : ofList d.entries = d :=
  Dictionary.ext (entries_foldl_insert d.entries empty d.distinct)

theorem eq_empty_of_isEmpty {d : Dictionary α} (isEmpty : d.isEmpty = true) : d = .empty :=
  Dictionary.ext (List.isEmpty_iff.1 isEmpty)

theorem map_id (d : Dictionary α) : d.map id = d :=
  Dictionary.ext (List.map_id _)

/-- The names are in alphabetical order. -/
def IsSorted (d : Dictionary α) : Prop :=
  d.names.Pairwise (· ≤ ·)

theorem isSorted_sorted (d : Dictionary α) : d.sorted.IsSorted := by
  have trans (a b c : String × α) (first : decide (a.1 ≤ b.1) = true)
      (second : decide (b.1 ≤ c.1) = true) : decide (a.1 ≤ c.1) = true :=
    decide_eq_true (String.le_trans (of_decide_eq_true first) (of_decide_eq_true second))
  have total (a b : String × α) : (decide (a.1 ≤ b.1) || decide (b.1 ≤ a.1)) = true := by
    simpa using String.le_total a.1 b.1
  have ordered := List.pairwise_mergeSort trans total d.entries
  exact List.pairwise_map.2 (ordered.imp of_decide_eq_true)

theorem IsSorted.sorted_eq {d : Dictionary α} (isSorted : d.IsSorted) : d.sorted = d :=
  Dictionary.ext (List.mergeSort_of_pairwise ((List.pairwise_map.1 isSorted).imp decide_eq_true))

theorem names_mapWithName (f : String → α → β) (d : Dictionary α) :
    (d.mapWithName f).names = d.names := by
  simp [names, mapWithName]

end Dictionary

namespace Json

variable {α : Type}

theorem dictionary?_ofDictionary {β : Type} {read : Json → Option β} {write : α → Json} {f : α → β}
    (isRead : ∀ value, read (write value) = some (f value)) (values : Dictionary α) :
    dictionary? read (ofDictionary write values) = some (values.map f) := by
  have entries : (values.entries.map fun entry => (entry.1, write entry.2)).mapM
      (fun entry => do some (entry.1, ← read entry.2)) =
        some (values.entries.map fun entry => (entry.1, f entry.2)) :=
    mapM_map fun entry _ => by simp [isRead]
  exact Option.bind_eq_some_iff.2 ⟨_, entries, congrArg some (values.map f).ofList_entries⟩

end Json

/-! ## Parts of a configuration -/

open Json

namespace PoolSettings

theorem seconds_read (n : UInt64) : uint64? (seconds n) = some n :=
  uint64?_toNat n

theorem nullable_seconds (value : Option UInt64) :
    nullable? uint64? (ofOption seconds value) = some value :=
  nullable?_ofOption (fun n => by rw [seconds]; exact Json.noConfusion) seconds_read value

theorem ofJson_toJson (settings : PoolSettings) : ofJson? settings.toJson = some settings := by
  rw [ofJson?, toJson]
  refine Option.bind_eq_some_iff.2 ⟨_, record?_of_sublist (List.Sublist.refl _) (by decide), ?_⟩
  refine Option.bind_eq_some_iff.2 ⟨_, Record.defaulted_of_lookup (by simp)
    (uint32?_toNat settings.maxConnections), ?_⟩
  refine Option.bind_eq_some_iff.2 ⟨_, Record.defaulted_of_lookup (by simp [List.lookup_cons])
    (seconds_read settings.poolTimeout), ?_⟩
  refine Option.bind_eq_some_iff.2 ⟨_, Record.defaulted_of_lookup (by simp [List.lookup_cons])
    (nullable_seconds settings.idleTimeout), ?_⟩
  refine Option.bind_eq_some_iff.2 ⟨_, Record.defaulted_of_lookup (by simp [List.lookup_cons])
    (nullable_seconds settings.connectionLifetime), ?_⟩
  rfl

end PoolSettings

theorem FieldInfo.ofJson_toJson (info : FieldInfo) : ofJson? info.toJson = some info := by
  rw [ofJson?, toJson]
  refine Option.bind_eq_some_iff.2 ⟨_, record?_of_sublist
    (((map_fst_memberOf _ _ _).cons_cons _).cons_cons _) (by decide), ?_⟩
  refine Option.bind_eq_some_iff.2 ⟨_, Record.required_of_lookup (by simp)
    (keyword?_of_lookup .outside (ScalarType.lookup_name info.type)), ?_⟩
  refine Option.bind_eq_some_iff.2 ⟨_, Record.defaulted_of_lookup (by simp [List.lookup_cons])
    (rfl : bool? (.bool info.nullable) = _), ?_⟩
  refine Option.bind_eq_some_iff.2 ⟨_, Record.optional_of_memberOf .string info.description
    (by simp [List.lookup_cons])
    (fun _ _ => Json.noConfusion) (fun _ _ => rfl), ?_⟩
  rfl

theorem Command.ofJson_toJson (command : Command) : ofJson? command.toJson = some command := by
  rw [ofJson?, toJson]
  refine Option.bind_eq_some_iff.2 ⟨_, record?_of_sublist (List.Sublist.refl _) (by decide), ?_⟩
  refine Option.bind_eq_some_iff.2 ⟨_, Record.required_of_lookup (by simp)
    (keyword?_of_lookup .outside (Region.spelling_read command.region)), ?_⟩
  refine Option.bind_eq_some_iff.2 ⟨_, Record.required_of_lookup (by simp [List.lookup_cons])
    (rfl : string? (.string command.sql) = _), ?_⟩
  rfl

namespace NativeQuery

/-- The query with its file, if its SQL is in one, not read. -/
def unread (query : NativeQuery) : NativeQuery :=
  { query with sql := query.sql.withContents none }

theorem sourceOfJson_sourceToJson (sql : SqlSource) :
    sourceOfJson? (sourceToJson sql) = some (sql.withContents none) := by
  cases sql <;> rfl

theorem ofJson_toJson (query : NativeQuery) : ofJson? query.toJson = some query.unread := by
  have fields := dictionary?_ofDictionary (f := id) FieldInfo.ofJson_toJson query.fields
  have mappings := dictionary?_ofDictionary (f := id) Mappings.column_roundtrip query.mappings
  rw [Dictionary.map_id] at fields mappings
  have commands := list?_map fun command (_ : command ∈ query.commands) => command.ofJson_toJson
  have mapped : query.allColumnsMapped = true →
      bool? (.bool true) = some query.allColumnsMapped := fun given => congrArg some given.symm
  have noMappings : (!query.mappings.isEmpty) = false → query.mappings = .empty :=
    fun absent => Dictionary.eq_empty_of_isEmpty (by simpa using absent)
  have noCommands : (!query.commands.isEmpty) = false → query.commands = [] :=
    fun absent => List.isEmpty_iff.1 (by simpa using absent)
  rw [ofJson?, toJson]
  refine Option.bind_eq_some_iff.2 ⟨_, record?_of_sublist (.cons_cons _ (.cons_cons _
    (map_fst_append (map_fst_append (map_fst_append (map_fst_memberIf _ _ _)
      (map_fst_memberIf _ _ _)) (map_fst_memberIf _ _ _)) (map_fst_memberOf _ _ _))))
    (by decide), ?_⟩
  refine Option.bind_eq_some_iff.2 ⟨_, Record.required_of_lookup (by simp)
    (sourceOfJson_sourceToJson query.sql), ?_⟩
  refine Option.bind_eq_some_iff.2 ⟨_, Record.defaulted_of_lookup (by simp [List.lookup_cons])
    fields, ?_⟩
  refine Option.bind_eq_some_iff.2 ⟨_, Record.defaulted_of_memberIf (!query.mappings.isEmpty)
    (by simp [List.lookup_cons, List.lookup_append]) (fun _ => mappings) noMappings, ?_⟩
  refine Option.bind_eq_some_iff.2 ⟨_, Record.defaulted_of_memberIf query.allColumnsMapped
    (by simp [List.lookup_cons, List.lookup_append]) mapped id, ?_⟩
  refine Option.bind_eq_some_iff.2 ⟨_, Record.defaulted_of_memberIf (!query.commands.isEmpty)
    (by simp [List.lookup_cons, List.lookup_append]) (fun _ => commands) noCommands, ?_⟩
  refine Option.bind_eq_some_iff.2 ⟨_, Record.optional_of_memberOf .string query.description
    (by simp [List.lookup_cons, List.lookup_append]) (fun _ _ => Json.noConfusion)
    (fun _ _ => rfl), ?_⟩
  rfl

end NativeQuery

namespace Configuration

theorem metadataOfJson_queries {queries : Dictionary NativeQuery} (isSorted : queries.IsSorted) :
    metadataOfJson? (.object [("nativeQueries", ofDictionary NativeQuery.toJson queries)]) =
      some (queries.map NativeQuery.unread) := by
  have read := dictionary?_ofDictionary NativeQuery.ofJson_toJson queries
  have stillSorted : (queries.map NativeQuery.unread).IsSorted := by
    rw [Dictionary.IsSorted, Dictionary.map, Dictionary.names_mapWithName]
    exact isSorted
  rw [metadataOfJson?]
  refine Option.bind_eq_some_iff.2 ⟨_, record?_of_sublist (List.Sublist.refl _) (by decide), ?_⟩
  refine Option.bind_eq_some_iff.2 ⟨_, Record.defaulted_of_lookup (by simp) read, ?_⟩
  exact congrArg some stillSorted.sorted_eq

/-- Written and read, a configuration is the same but for its files, which are not read. -/
theorem ofJson_toJson {configuration : Configuration}
    (isSorted : configuration.nativeQueries.IsSorted) :
    ofJson? configuration.toJson = some (configuration.withTexts []) := by
  have settings : (!configuration.pool.isDefault) = true →
      PoolSettings.ofJson? configuration.pool.toJson = some configuration.pool :=
    fun _ => configuration.pool.ofJson_toJson
  have noSettings : (!configuration.pool.isDefault) = false → configuration.pool = .default :=
    fun absent => by simpa [PoolSettings.isDefault] using absent
  rw [ofJson?, toJson]
  refine Option.bind_eq_some_iff.2 ⟨_, record?_of_sublist (.cons_cons _ (.cons_cons _
    (map_fst_append (map_fst_memberIf _ _ _) (List.Sublist.refl _)))) (by decide), ?_⟩
  refine Option.bind_eq_some_iff.2 ⟨_, Record.required_of_lookup (by simp)
    (uint32?_toNat configuration.version), ?_⟩
  refine Option.bind_eq_some_iff.2 ⟨_, Record.required_of_lookup (by simp [List.lookup_cons])
    configuration.connectionUri.ofJson_toJson, ?_⟩
  refine Option.bind_eq_some_iff.2 ⟨_, Record.defaulted_of_memberIf (!configuration.pool.isDefault)
    (by simp [List.lookup_cons, List.lookup_append]) settings noSettings, ?_⟩
  refine Option.bind_eq_some_iff.2 ⟨_, Record.defaulted_of_lookup
    (by simp [List.lookup_cons, List.lookup_append]) (metadataOfJson_queries isSorted), ?_⟩
  rfl

end Configuration

/-! ## What can be printed and read -/

namespace Json

/-- Legible, and nested no deeper than this. -/
def Fits (deepest : Nat) (value : Json) : Prop :=
  value.IsLegible ∧ value.depth ≤ deepest

section

variable {α : Type} {deepest : Nat}

theorem fits_object {members : List (String × Json)}
    (fit : ∀ member ∈ members, Fits deepest member.2) : Fits (deepest + 1) (.object members) := by
  rw [Fits, IsLegible, depth, membersAreLegible_iff]
  exact ⟨fun member mem => (fit member mem).1,
    Nat.succ_le_succ (depthOfMembers_le_iff.2 fun member mem => (fit member mem).2)⟩

theorem fits_array {items : List Json} (fit : ∀ item ∈ items, Fits deepest item) :
    Fits (deepest + 1) (.array items) := by
  rw [Fits, IsLegible, depth, areLegible_iff]
  exact ⟨fun item mem => (fit item mem).1,
    Nat.succ_le_succ (depthOfItems_le_iff.2 fun item mem => (fit item mem).2)⟩

theorem fits_null : Fits deepest .null := by
  simp [Fits, IsLegible, depth]

theorem fits_string (text : String) : Fits deepest (.string text) := by
  simp [Fits, IsLegible, depth]

theorem fits_bool (b : Bool) : Fits deepest (.bool b) := by
  simp [Fits, IsLegible, depth]

theorem fits_natural {n : Nat} (fits : n < Nat.pow 2 64) : Fits deepest (.integer n) := by
  simp [Fits, IsLegible, depth, isInteger_natural fits]

theorem fits_memberIf {given : Bool} {name : String} {value : Json} (fits : Fits deepest value) :
    ∀ member ∈ memberIf given name value, Fits deepest member.2 := by
  cases given with
  | false => exact nofun
  | true => exact List.forall_mem_singleton.2 fits

theorem fits_memberOf {name : String} {write : α → Json} {value : Option α}
    (fits : ∀ given, Fits deepest (write given)) :
    ∀ member ∈ memberOf name write value, Fits deepest member.2 := by
  cases value with
  | none => exact nofun
  | some given => exact List.forall_mem_singleton.2 (fits given)

theorem fits_ofDictionary {write : α → Json} {values : Dictionary α}
    (fits : ∀ value, Fits deepest (write value)) :
    Fits (deepest + 1) (ofDictionary write values) := by
  refine fits_object fun member mem => ?_
  obtain ⟨entry, -, rfl⟩ := List.mem_map.1 mem
  exact fits entry.2

end

end Json

section

variable {deepest : Nat}

theorem PoolSettings.fits_toJson (settings : PoolSettings) :
    settings.toJson.Fits (deepest + 1) := by
  have isNumber (n : UInt64) : (seconds n).Fits deepest := fits_natural n.toNat_lt
  have isOptional (value : Option UInt64) : (ofOption seconds value).Fits deepest := by
    cases value with
    | none => exact fits_null
    | some n => exact isNumber n
  have isCount : (Json.integer settings.maxConnections.toNat).Fits deepest :=
    fits_natural (Nat.lt_trans settings.maxConnections.toNat_lt (by decide))
  refine fits_object ?_
  simp only [List.forall_mem_cons]
  exact ⟨isCount, isNumber _, isOptional _, isOptional _, nofun⟩

theorem Secret.fits_toJson (secret : Secret) : secret.toJson.Fits (deepest + 1) := by
  cases secret with
  | plain value => exact fits_string value
  | fromVariable name => exact fits_object (List.forall_mem_singleton.2 (fits_string name))

theorem FieldInfo.fits_toJson (info : FieldInfo) : info.toJson.Fits (deepest + 1) := by
  refine fits_object ?_
  rw [List.forall_mem_cons, List.forall_mem_cons]
  exact ⟨fits_string _, fits_bool _, fits_memberOf fits_string⟩

theorem Mappings.fits_columnToJson (column : Sql.Column) :
    (columnToJson column).Fits (deepest + 1) := by
  cases column with
  | named name => exact fits_object (List.forall_mem_singleton.2 (fits_string name))
  | mapped fragment => exact fits_object (List.forall_mem_singleton.2 (fits_string fragment))

theorem Command.fits_toJson (command : Command) : command.toJson.Fits (deepest + 1) := by
  refine fits_object ?_
  rw [List.forall_mem_cons, List.forall_mem_singleton]
  exact ⟨fits_string _, fits_string _⟩

theorem NativeQuery.fits_sourceToJson (sql : SqlSource) :
    (sourceToJson sql).Fits (deepest + 1) := by
  cases sql with
  | inline text => exact fits_string text
  | file path contents => exact fits_object (List.forall_mem_singleton.2 (fits_string path))

theorem NativeQuery.fits_toJson (query : NativeQuery) : query.toJson.Fits (deepest + 3) := by
  have commands : (Json.array (query.commands.map Command.toJson)).Fits (deepest + 2) := by
    refine fits_array fun item mem => ?_
    obtain ⟨command, -, rfl⟩ := List.mem_map.1 mem
    exact command.fits_toJson
  refine fits_object ?_
  rw [List.forall_mem_cons, List.forall_mem_cons, List.forall_mem_append, List.forall_mem_append,
    List.forall_mem_append]
  exact ⟨fits_sourceToJson _, fits_ofDictionary FieldInfo.fits_toJson,
    ⟨⟨fits_memberIf (fits_ofDictionary Mappings.fits_columnToJson), fits_memberIf (fits_bool _)⟩,
      fits_memberIf commands⟩, fits_memberOf fits_string⟩

theorem Configuration.fits_toJson (configuration : Configuration) :
    configuration.toJson.Fits (deepest + 6) := by
  have version : (Json.integer configuration.version.toNat).Fits (deepest + 5) :=
    fits_natural (Nat.lt_trans configuration.version.toNat_lt (by decide))
  have metadata : (Json.object [("nativeQueries",
      ofDictionary NativeQuery.toJson configuration.nativeQueries)]).Fits (deepest + 5) :=
    fits_object (List.forall_mem_singleton.2 (fits_ofDictionary NativeQuery.fits_toJson))
  refine fits_object ?_
  rw [List.forall_mem_cons, List.forall_mem_cons, List.forall_mem_append, List.forall_mem_singleton]
  exact ⟨version, Secret.fits_toJson _, fits_memberIf (PoolSettings.fits_toJson _), metadata⟩

end

namespace Configuration

theorem ofText_ok {file : Files.Path} {text : String} {configuration : Configuration} :
    ofText file text = .ok configuration ↔
      ∃ json, Json.read text = .ok json ∧ ofJson? json = some configuration ∧
        configuration.version = currentVersion := by
  unfold ofText
  cases Json.read text with
  | error error => simp
  | ok json =>
    cases isConfiguration : ofJson? json with
    | none => simp [isConfiguration]
    | some read =>
      by_cases isCurrent : read.version = currentVersion
      · simp only [isCurrent, if_true, Except.ok.injEq, exists_eq_left', isConfiguration,
          Option.some.injEq]
        exact ⟨fun same => ⟨same, same ▸ isCurrent⟩, And.left⟩
      · simp only [isCurrent, if_false, reduceCtorEq, Except.ok.injEq, exists_eq_left',
          isConfiguration, Option.some.injEq, false_iff]
        exact fun both => isCurrent (both.1 ▸ both.2)

/-- The queries that are read are put in the order of their names. -/
theorem isSorted_ofJson {json : Json} {configuration : Configuration}
    (isRead : ofJson? json = some configuration) : configuration.nativeQueries.IsSorted := by
  obtain ⟨record, -, isRead⟩ := Option.bind_eq_some_iff.1 isRead
  obtain ⟨version, -, isRead⟩ := Option.bind_eq_some_iff.1 isRead
  obtain ⟨connectionUri, -, isRead⟩ := Option.bind_eq_some_iff.1 isRead
  obtain ⟨pool, -, isRead⟩ := Option.bind_eq_some_iff.1 isRead
  obtain ⟨queries, areQueries, same⟩ := Option.bind_eq_some_iff.1 isRead
  cases same
  unfold Record.defaulted at areQueries
  split at areQueries
  · cases areQueries
    exact List.Pairwise.nil
  · obtain ⟨members, -, areQueries⟩ := Option.bind_eq_some_iff.1 areQueries
    obtain ⟨unsorted, -, same⟩ := Option.bind_eq_some_iff.1 areQueries
    cases same
    exact unsorted.isSorted_sorted

/-- **The text of a configuration is read as the configuration**, with its files not read. -/
theorem ofText_fileText {configuration : Configuration} (file : Files.Path)
    (isSorted : configuration.nativeQueries.IsSorted)
    (isCurrent : configuration.version = currentVersion) :
    ofText file (fileText configuration.toJson) = .ok (configuration.withTexts []) := by
  have fits : configuration.toJson.Fits 6 := configuration.fits_toJson
  have read := read_pretty fits.1 (Nat.le_trans fits.2 (by decide))
  exact ofText_ok.2 ⟨_, read, ofJson_toJson isSorted, isCurrent⟩

end Configuration

end PlanCompiler
