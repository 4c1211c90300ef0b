/-
# Proofs.SortedRows -- an ordering means sorting by one chain after another

The chains of a sequence of sort operations can be run on rows: the rows are sorted
by the first chain, the result by the second one, and so on (`SortStep.run`).  The
ordering that is compiled does it at once: it sorts by the keys of the last chain,
then by those of the chain before it, and so on, where each field is a key only once.

Both give the same rows, in the same order (`SortKey.ordering_sorts`).  Sorting in
turn is sorting by all keys of all chains, the last chain first
(`foldl_stableSort`), and a key that was given up for a later operation on its field
stands behind that one's key, which has found every difference that it could find
(`lexicographic_filter`).  For this no chain may sort by a field twice: in a chain
the later of two keys for a field is the redundant one, but it is the one that is
kept.
-/
import Mathlib.Data.List.SplitBy
import PlanCompiler.Proofs.SortKeys
import PlanCompiler.Proofs.StableSorting

namespace PlanCompiler

set_option autoImplicit false

variable {Row Value : Type}

/-! ## Rows that can be sorted -/

/-- How the fields of a row are read, and how the values of each field are ordered.  The case of
letters in the name of a field does not matter. -/
structure RowOrder (Row Value : Type) where
  read : String → Row → Value
  compare : String → Value → Value → Ordering
  total : ∀ field, Std.TransCmp (compare field)
  caseless : ∀ {a b}, Text.sameName a b = true → read a = read b ∧ compare a = compare b

namespace RowOrder

variable (order : RowOrder Row Value)

/-- Rows compared by one field. -/
def byField (field : String) : Direction → Row → Row → Ordering
  | .ascending => fun a b => order.compare field (order.read field a) (order.read field b)
  | .descending => fun a b => order.compare field (order.read field b) (order.read field a)

/-- Rows compared by the field of a key. -/
def byKey (key : SortKey) : Row → Row → Ordering :=
  order.byField key.field key.direction

/-- Rows compared as one operation says. -/
def byStep (step : SortStep) : Row → Row → Ordering :=
  match step.key with
  | .field field => order.byField field step.direction
  | _ => fun _ _ => .eq

instance byField_total (field : String) (direction : Direction) :
    Std.TransCmp (order.byField field direction) := by
  have total := order.total field
  cases direction with
  | ascending => exact { eq_swap := total.eq_swap, isLE_trans := total.isLE_trans }
  | descending =>
    exact { eq_swap := total.eq_swap, isLE_trans := fun ab bc => total.isLE_trans bc ab }

/-- Rows that one direction finds no difference between are equal in the other one too. -/
theorem byField_eq_iff {field : String} {direction : Direction} {a b : Row} :
    order.byField field direction a b = .eq ↔
      order.compare field (order.read field a) (order.read field b) = .eq := by
  have := order.total field
  cases direction with
  | ascending => exact Iff.rfl
  | descending => exact Std.OrientedCmp.eq_comm

theorem byKey_eq_of_sameName {key other : SortKey} {a b : Row}
    (same : Text.sameName key.field other.field = true) (equal : order.byKey key a b = .eq) :
    order.byKey other a b = .eq := by
  obtain ⟨sameRead, sameCompare⟩ := order.caseless same
  rw [byKey, byField_eq_iff] at *
  rwa [← sameRead, ← sameCompare]

end RowOrder

/-! ## Chains of operations -/

namespace SortStep

/-- The chains of a sequence of operations, each from one that begins it up to the next. -/
def chains (steps : List SortStep) : List (List SortStep) :=
  steps.splitBy fun _ next => !next.begins

/-- Whether no field occurs twice in a chain. -/
def NamesApart (chain : List SortStep) : Prop :=
  chain.Pairwise fun a b => ∀ f g, a.key = .field f → b.key = .field g → Text.sameName f g = false

/-- The rows sorted by each chain in turn. -/
def run (order : RowOrder Row Value) (steps : List SortStep) (rows : List Row) : List Row :=
  (chains steps).foldl
    (fun sorted chain => stableSort (lexicographic (chain.map order.byStep)) sorted) rows

end SortStep

namespace SortKey

variable {env : Environment} {steps : List SortStep}

/-- The operation that a key comes from. -/
def toStep (pair : SortKey × Bool) : SortStep :=
  ⟨.field pair.1.field, pair.1.direction, pair.2⟩

theorem map_toStep_of_ofSteps : ∀ {index : Nat} {pairs : List (SortKey × Bool)},
    ofSteps env index steps = .ok pairs → pairs.map toStep = steps := by
  induction steps with
  | nil =>
    intro index pairs arePairs
    cases arePairs
    rfl
  | cons step rest ih =>
    intro index pairs arePairs
    obtain ⟨key, later, rfl, isKey, areLater⟩ := ofSteps_cons_eq_ok.1 arePairs
    obtain ⟨isField, -, isDirection, -⟩ := ofStep_eq_ok.1 isKey
    rw [List.map_cons, ih areLater, toStep, ← isField, ← isDirection]

/-- The first of these begins a chain, and no other one does. -/
def IsChain (group : List (SortKey × Bool)) : Prop :=
  ∃ first rest, group = (first, true) :: rest ∧ ∀ pair ∈ rest, pair.2 = false

/-- The chains of keys divide the operations that they come from. -/
theorem exists_groups (pairs : List (SortKey × Bool)) :
    ∃ (orphans : List (SortKey × Bool)) (groups : List (List (SortKey × Bool))),
      pairs = orphans ++ groups.flatten ∧
      (chains pairs).1 = orphans.map Prod.fst ∧ (chains pairs).2 = groups.map (List.map Prod.fst) ∧
      (∀ pair ∈ orphans, pair.2 = false) ∧ ∀ group ∈ groups, IsChain group := by
  induction pairs with
  | nil => exact ⟨[], [], rfl, rfl, rfl, nofun, nofun⟩
  | cons pair rest ih =>
    obtain ⟨orphans, groups, rfl, areOrphans, areChains, refines, begun⟩ := ih
    obtain ⟨key, begins⟩ := pair
    cases begins with
    | true =>
      refine ⟨[], ((key, true) :: orphans) :: groups, rfl, ?_, ?_, nofun, ?_⟩
      · simp [chains]
      · simp [chains, areOrphans, areChains]
      · exact List.forall_mem_cons.2 ⟨⟨key, orphans, rfl, refines⟩, begun⟩
    | false =>
      refine ⟨(key, false) :: orphans, groups, rfl, ?_, ?_, ?_, begun⟩
      · simp [chains, areOrphans]
      · simp [chains, areChains]
      · exact List.forall_mem_cons.2 ⟨rfl, refines⟩

/-- Operations that are made of chains are divided into these. -/
theorem chains_flatten_toStep {groups : List (List (SortKey × Bool))}
    (areChains : ∀ group ∈ groups, IsChain group) :
    SortStep.chains (groups.flatten.map toStep) = groups.map (List.map toStep) := by
  rw [List.map_flatten]
  refine List.splitBy_flatten ?_ ?_ ?_
  · intro mem
    obtain ⟨group, isGroup, empty⟩ := List.mem_map.1 mem
    obtain ⟨first, rest, rfl, -⟩ := areChains group isGroup
    cases empty
  · intro chain mem
    obtain ⟨group, isGroup, rfl⟩ := List.mem_map.1 mem
    obtain ⟨first, rest, rfl, refines⟩ := areChains group isGroup
    refine List.Pairwise.isChain ?_
    rw [List.pairwise_map, List.pairwise_cons]
    refine ⟨fun pair inRest => by simp [toStep, refines pair inRest], ?_⟩
    exact List.pairwise_of_forall_mem_list fun _ _ pair inRest => by
      simp [toStep, refines pair inRest]
  · refine List.Pairwise.isChain ?_
    rw [List.pairwise_map]
    refine List.pairwise_of_forall_mem_list fun group isGroup next isNext => ?_
    obtain ⟨first, rest, rfl, -⟩ := areChains group isGroup
    obtain ⟨first', rest', rfl, -⟩ := areChains next isNext
    exact ⟨List.cons_ne_nil _ _, List.cons_ne_nil _ _, rfl⟩

/-! ## What is given up -/

/-- In the ordering of all keys, a key that is given up stands behind one for its field. -/
theorem exists_decisive {keys before after : List SortKey} {key : SortKey}
    (apart : keys.Pairwise fun a b => a.index < b.index → Text.sameName a.field b.field = false)
    (split : keys = before ++ key :: after) (givenUp : isLatest keys key = false) :
    ∃ decisive ∈ before, Text.sameName decisive.field key.field = true := by
  rw [Bool.eq_false_iff, ne_eq, isLatest_iff] at givenUp
  push Not at givenUp
  obtain ⟨other, mem, later, same⟩ := givenUp
  rw [ne_eq, Bool.not_eq_false] at same
  subst split
  rcases List.mem_append.1 mem with inFront | behind
  · exact ⟨other, inFront, same⟩
  · rcases List.mem_cons.1 behind with rfl | behind
    · exact absurd later (Nat.lt_irrefl _)
    · obtain ⟨-, rest, -⟩ := List.pairwise_append.1 apart
      have differ := (List.pairwise_cons.1 rest).1 other behind later
      rw [Text.sameName_comm, same] at differ
      cases differ

/-- Keys for one field are in different chains, so the later operation comes first. -/
theorem names_apart {groups : List (List (SortKey × Bool))}
    (increases : (groups.flatten.map Prod.fst).Pairwise fun a b => a.index < b.index)
    (apart : ∀ group ∈ groups, SortStep.NamesApart (group.map toStep)) :
    (groups.map (List.map Prod.fst)).reverse.flatten.Pairwise
      fun a b => a.index < b.index → Text.sameName a.field b.field = false := by
  rw [List.map_flatten, List.pairwise_flatten] at increases
  rw [List.pairwise_flatten, List.pairwise_reverse]
  constructor
  · intro chain mem
    obtain ⟨group, isGroup, rfl⟩ := List.mem_map.1 (List.mem_reverse.1 mem)
    have names := apart group isGroup
    rw [SortStep.NamesApart, List.pairwise_map] at names
    rw [List.pairwise_map]
    exact names.imp fun differ _ => differ _ _ rfl rfl
  · refine increases.2.imp fun before a inA b inB later => ?_
    exact absurd later (Nat.lt_asymm (before b inB a inA))

/-- **An ordering means sorting by each chain in turn.**  Where no chain sorts by a field twice,
sorting rows once by the compiled keys gives the same list as sorting them by the first chain, then
by the second one, and so on. -/
theorem ordering_sorts (order : RowOrder Row Value) {keys : List SortKey}
    (ordered : ordering env steps = .ok keys)
    (apart : ∀ chain ∈ SortStep.chains steps, SortStep.NamesApart chain) (rows : List Row) :
    stableSort (lexicographic (keys.map order.byKey)) rows = SortStep.run order steps rows := by
  obtain ⟨pairs, arePairs, noOrphans, rfl⟩ := ordering_eq_ok.1 ordered
  obtain ⟨orphans, groups, rfl, areOrphans, areChains, -, begun⟩ := exists_groups pairs
  obtain rfl : orphans = [] := List.map_eq_nil_iff.1 (areOrphans.symm.trans noOrphans)
  rw [List.nil_append] at arePairs areChains
  have steps_eq := map_toStep_of_ofSteps arePairs
  have chains_eq : SortStep.chains steps = groups.map (List.map toStep) := by
    rw [← steps_eq, chains_flatten_toStep begun]
  rw [chains_eq, List.forall_mem_map] at apart
  have namesApart := names_apart (index_increases arePairs) apart
  rw [List.nil_append, areChains]
  have allKeys : lexicographic ((((groups.map (List.map Prod.fst)).reverse.flatten).filter
      (isLatest (groups.map (List.map Prod.fst)).reverse.flatten)).map order.byKey) =
      lexicographic ((groups.map (List.map Prod.fst)).reverse.flatten.map order.byKey) := by
    refine lexicographic_filter order.byKey _ fun before key after split givenUp => ?_
    obtain ⟨decisive, mem, same⟩ := exists_decisive namesApart split givenUp
    exact ⟨decisive, mem, fun a b equal => order.byKey_eq_of_sameName same equal⟩
  rw [allKeys, SortStep.run, chains_eq, List.foldl_map]
  have compares : ∀ group : List (SortKey × Bool),
      (group.map toStep).map order.byStep = (group.map Prod.fst).map order.byKey := by
    intro group
    simp only [List.map_map]
    rfl
  have total : ∀ group ∈ groups.map fun group => (group.map Prod.fst).map order.byKey,
      ∀ compare ∈ group, Std.TransCmp compare := by
    intro group mem compare inGroup
    obtain ⟨group, -, rfl⟩ := List.mem_map.1 mem
    obtain ⟨key, -, rfl⟩ := List.mem_map.1 inGroup
    exact order.byField_total _ _
  have inTurn := foldl_stableSort total rows
  rw [List.foldl_map] at inTurn
  simp only [compares]
  rw [inTurn, List.map_flatten, List.map_reverse, List.map_map]
  rfl

/-- Rows of numbers, whatever the case of letters in the names of their fields. -/
def numbered : RowOrder (List Char → Int) Int where
  read field row := row (Text.caseKey field)
  compare _ := compare
  total _ := inferInstance
  caseless same := ⟨by rw [Text.sameName_iff.1 same], rfl⟩

/-- A row of three numbers. -/
def visit (name id insertedAt : Int) (field : List Char) : Int :=
  if field = Text.caseKey "Name" then name
  else if field = Text.caseKey "Id" then id
  else insertedAt

/-- `Id` is sorted by in both chains, downwards in the first one and upwards in the last. -/
theorem ordering_sorts_latestFirst :
    stableSort (lexicographic ([
      ⟨"InsertedAt", .named "InsertedAt", .descending, 2⟩,
      ⟨"id", .named "id", .ascending, 3⟩,
      ⟨"Name", .named "Name", .ascending, 0⟩].map numbered.byKey))
        [visit 2 1 5, visit 1 2 7, visit 1 1 5] =
    SortStep.run numbered latestFirst [visit 2 1 5, visit 1 2 7, visit 1 1 5] := by
  have accepted : ordering ⟨.empty, .empty, true⟩ latestFirst = .ok [
      ⟨"InsertedAt", .named "InsertedAt", .descending, 2⟩,
      ⟨"id", .named "id", .ascending, 3⟩,
      ⟨"Name", .named "Name", .ascending, 0⟩] := rfl
  refine ordering_sorts numbered accepted ?_ _
  have isChains : SortStep.chains latestFirst = [latestFirst.take 2, latestFirst.drop 2] := rfl
  rw [isChains, List.forall_mem_cons, List.forall_mem_singleton]
  constructor
  · refine List.pairwise_pair.2 ?_
    rintro _ _ ⟨⟩ ⟨⟩
    decide
  · refine List.pairwise_pair.2 ?_
    rintro _ _ ⟨⟩ ⟨⟩
    decide

end SortKey

end PlanCompiler
