/-
# Dictionary -- values by name, in the order of their first mention

Giving a name a new value keeps the place that the name has.  No name occurs
twice, so the order in which entries are looked through does not matter.
-/

namespace PlanCompiler

set_option autoImplicit false

structure Dictionary (α : Type) where
  entries : List (String × α)
  distinct : (entries.map Prod.fst).Nodup
deriving DecidableEq

namespace Dictionary

variable {α : Type}

/-- Entries with one of them put in: over the one of that name, or else at the end. -/
def put (name : String) (value : α) : List (String × α) → List (String × α)
  | [] => [(name, value)]
  | (other, old) :: rest =>
    if other = name then (name, value) :: rest else (other, old) :: put name value rest

theorem map_fst_put (name : String) (value : α) (entries : List (String × α)) :
    (put name value entries).map Prod.fst =
      if name ∈ entries.map Prod.fst then entries.map Prod.fst
      else entries.map Prod.fst ++ [name] := by
  induction entries with
  | nil => simp [put]
  | cons entry rest ih =>
    obtain ⟨other, old⟩ := entry
    by_cases h : other = name
    · simp [put, h]
    · have h' : ¬ name = other := fun e => h e.symm
      simp only [put, h, if_false, List.map_cons, ih, List.mem_cons, h', false_or]
      split <;> simp

theorem put_distinct (name : String) (value : α) {entries : List (String × α)}
    (distinct : (entries.map Prod.fst).Nodup) :
    ((put name value entries).map Prod.fst).Nodup := by
  rw [map_fst_put]
  split
  · exact distinct
  · rename_i absent
    rw [List.nodup_append]
    exact ⟨distinct, by simp, fun a mem b eq => by
      rw [List.mem_singleton.1 eq]
      exact fun e => absent (e ▸ mem)⟩

def empty : Dictionary α := ⟨[], by simp⟩

instance : Inhabited (Dictionary α) := ⟨empty⟩

def insert (name : String) (value : α) (d : Dictionary α) : Dictionary α :=
  ⟨put name value d.entries, put_distinct name value d.distinct⟩

/-- The dictionary of a list in which later entries replace earlier ones. -/
def ofList (entries : List (String × α)) : Dictionary α :=
  entries.foldl (fun d (name, value) => d.insert name value) empty

def lookup (name : String) (d : Dictionary α) : Option α :=
  d.entries.lookup name

def names (d : Dictionary α) : List String :=
  d.entries.map Prod.fst

def isEmpty (d : Dictionary α) : Bool :=
  d.entries.isEmpty

@[ext] theorem ext {a b : Dictionary α} (entries : a.entries = b.entries) : a = b := by
  cases a; cases b; cases entries; rfl

/-- Change every value as its name tells, leaving the names. -/
def mapWithName {β : Type} (f : String → α → β) (d : Dictionary α) : Dictionary β :=
  ⟨d.entries.map fun (name, value) => (name, f name value), by
    simpa [List.map_map, Function.comp_def] using d.distinct⟩

/-- Change every value, leaving the names. -/
def map {β : Type} (f : α → β) (d : Dictionary α) : Dictionary β :=
  d.mapWithName fun _ value => f value

/-! ## Alphabetical order -/

/-- The entries in the order of their names. -/
def sorted (d : Dictionary α) : Dictionary α :=
  ⟨d.entries.mergeSort fun a b => a.1 ≤ b.1,
    ((List.mergeSort_perm d.entries _).map Prod.fst).nodup_iff.2 d.distinct⟩

end Dictionary

end PlanCompiler
