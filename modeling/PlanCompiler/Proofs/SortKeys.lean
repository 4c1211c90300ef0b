/-
# Proofs.SortKeys -- the keys that sort operations add up to

A sequence of sort operations is accepted exactly when every key is a field of the
row and the first operation begins a chain; otherwise the refused key that comes
last is reported, or else that no chain was begun (`SortKey.ordering_contents`).

What an accepted sequence adds up to is said without chains being built.  An
operation belongs to the chain that begins at `chainStart`, the last position up to
it at which a chain begins.  One key precedes another if its chain begins later, or
if it comes first in the same chain (`Precedes`), and of the keys for one field only
that of the last operation is kept (`SortKey.IsLatestOf`).

The chains that are built are settled by induction on the operations, from the last
to the first (`SortKey.chains_placed`): those before the first chain of a rest belong
to the chain of the operation in front of it.
-/
import Mathlib.Logic.ExistsUnique
import PlanCompiler.Compile.Order
import PlanCompiler.Proofs.Results

namespace PlanCompiler

set_option autoImplicit false

/-! ## Operations -/

namespace SortStep

/-- Why the key of an operation is refused, none where it is a field of the row. -/
def refusal? (env : Environment) (step : SortStep) : Option CompileError :=
  match step.key with
  | .field field =>
    match env.column field with
    | .ok _ => none
    | .error e => some e
  | key => some (.unsupportedSortKey (Draft.display key))

/-- The position at which the chain of an operation begins. -/
def chainStart (steps : List SortStep) : Nat → Nat
  | 0 => 0
  | i + 1 => if (steps[i + 1]?).any (·.begins) then i + 1 else chainStart steps i

/-- Whether the key of one operation comes before that of another, given their positions. -/
def Precedes (steps : List SortStep) (i j : Nat) : Prop :=
  chainStart steps j < chainStart steps i ∨
    chainStart steps i = chainStart steps j ∧ i < j

variable {env : Environment} {steps : List SortStep} {step : SortStep}

theorem chainStart_of_begins {i : Nat} (isStep : steps[i]? = some step)
    (begins : step.begins = true) : chainStart steps i = i := by
  cases i with
  | zero => rfl
  | succ i => simp [chainStart, isStep, begins]

/-- An operation that begins no chain goes on with that of the one before it. -/
theorem chainStart_of_refines {i : Nat} (isStep : steps[i]? = some step)
    (refines : step.begins = false) : chainStart steps i = chainStart steps (i - 1) := by
  cases i with
  | zero => rfl
  | succ i => simp [chainStart, isStep, refines]

theorem Precedes.asymm {i j : Nat} (first : Precedes steps i j) : ¬ Precedes steps j i := by
  unfold Precedes at *
  omega

theorem not_precedes_self (i : Nat) : ¬ Precedes steps i i := fun first => first.asymm first

theorem refusal?_eq_none : step.refusal? env = none ↔
    ∃ field column, step.key = .field field ∧ env.column field = .ok column := by
  unfold refusal?
  split
  · rename_i field isField
    cases isColumn : env.column field with
    | ok column => simp [isField, isColumn]
    | error e => simp [isField, isColumn]
  · rename_i noField
    simp only [reduceCtorEq, false_iff]
    rintro ⟨field, column, isField, -⟩
    exact noField field isField

end SortStep

namespace SortKey

open SortStep

variable {env : Environment} {steps : List SortStep}

/-! ## Keys of operations -/

/-- The key is that of the operation at its index. -/
structure IsKeyOf (env : Environment) (steps : List SortStep) (key : SortKey) : Prop where
  step : ∃ step, steps[key.index]? = some step ∧ step.key = .field key.field ∧
    step.direction = key.direction
  column : env.column key.field = .ok key.column

theorem ofStep_eq_error {step : SortStep} {index : Nat} {error : CompileError} :
    ofStep env step index = .error error ↔ step.refusal? env = some error := by
  unfold ofStep refusal?
  cases step.key with
  | field field =>
    cases isColumn : env.column field with
    | ok column => simp [isColumn, bind, Except.bind, pure, Except.pure]
    | error e => simp [isColumn, bind, Except.bind]
  | _ => simp

theorem ofStep_eq_ok {step : SortStep} {index : Nat} {key : SortKey} :
    ofStep env step index = .ok key ↔ step.key = .field key.field ∧
      env.column key.field = .ok key.column ∧ step.direction = key.direction ∧
      index = key.index := by
  unfold ofStep
  split
  · rename_i field isField
    rw [Except.bind_eq_ok]
    constructor
    · rintro ⟨column, isColumn, same⟩
      cases same
      exact ⟨isField, isColumn, rfl, rfl⟩
    · rintro ⟨same, isColumn, isDirection, rfl⟩
      cases isField.symm.trans same
      exact ⟨key.column, isColumn, by rw [isDirection]; rfl⟩
  · rename_i noField
    simp only [reduceCtorEq, false_iff]
    rintro ⟨isField, -⟩
    exact noField _ isField

theorem ofSteps_cons_eq_ok {step : SortStep} {index : Nat} {pairs : List (SortKey × Bool)} :
    ofSteps env index (step :: steps) = .ok pairs ↔ ∃ key later,
      pairs = (key, step.begins) :: later ∧ ofStep env step index = .ok key ∧
        ofSteps env (index + 1) steps = .ok later := by
  simp only [ofSteps, Except.bind_eq_ok]
  constructor
  · rintro ⟨later, areLater, key, isKey, same⟩
    cases same
    exact ⟨key, later, rfl, isKey, areLater⟩
  · rintro ⟨key, later, rfl, isKey, areLater⟩
    exact ⟨later, areLater, key, isKey, rfl⟩

theorem exists_ofSteps_iff : ∀ (index : Nat),
    (∃ pairs, ofSteps env index steps = .ok pairs) ↔ ∀ step ∈ steps, step.refusal? env = none := by
  induction steps with
  | nil => simp [ofSteps]
  | cons step rest ih =>
    intro index
    rw [List.forall_mem_cons, ← ih (index + 1)]
    constructor
    · rintro ⟨pairs, arePairs⟩
      obtain ⟨key, later, -, isKey, areLater⟩ := ofSteps_cons_eq_ok.1 arePairs
      obtain ⟨isField, isColumn, -⟩ := ofStep_eq_ok.1 isKey
      exact ⟨refusal?_eq_none.2 ⟨key.field, key.column, isField, isColumn⟩, later, areLater⟩
    · rintro ⟨accepted, later, areLater⟩
      obtain ⟨field, column, isField, isColumn⟩ := refusal?_eq_none.1 accepted
      have isKey : ofStep env step index = .ok ⟨field, column, step.direction, index⟩ :=
        ofStep_eq_ok.2 ⟨isField, isColumn, rfl, rfl⟩
      exact ⟨_, ofSteps_cons_eq_ok.2 ⟨_, later, rfl, isKey, areLater⟩⟩

/-- The error is that of the last operation whose key is refused. -/
def IsLastRefusal (env : Environment) (steps : List SortStep) (error : CompileError) : Prop :=
  ∃ before step after, steps = before ++ step :: after ∧ step.refusal? env = some error ∧
    ∀ later ∈ after, later.refusal? env = none

theorem ofSteps_eq_error {error : CompileError} : ∀ {index : Nat},
    ofSteps env index steps = .error error ↔ IsLastRefusal env steps error := by
  induction steps with
  | nil => simp [ofSteps, IsLastRefusal]
  | cons step rest ih =>
    intro index
    simp only [ofSteps, Except.bind_eq_error, ih, ofStep_eq_error]
    constructor
    · rintro (⟨before, refused, after, rfl, isError, accepted⟩ |
        ⟨later, areLater, isError | impossible⟩)
      · exact ⟨step :: before, refused, after, rfl, isError, accepted⟩
      · exact ⟨[], step, rest, rfl, isError, (exists_ofSteps_iff _).1 ⟨later, areLater⟩⟩
      · obtain ⟨key, -, impossible⟩ := impossible
        cases impossible
    · rintro ⟨before, refused, after, split, isError, accepted⟩
      cases before with
      | nil =>
        obtain ⟨rfl, rfl⟩ := List.cons.inj split
        obtain ⟨later, areLater⟩ := (exists_ofSteps_iff _).2 accepted
        exact .inr ⟨later, areLater, .inl isError⟩
      | cons first before =>
        obtain ⟨rfl, rfl⟩ := List.cons.inj split
        exact .inl ⟨before, refused, after, rfl, isError, accepted⟩

/-- Each operation gives a key with its own position. -/
theorem getElem?_ofSteps : ∀ {index i : Nat} {pairs : List (SortKey × Bool)}
    {pair : SortKey × Bool}, ofSteps env index steps = .ok pairs → (pairs[i]? = some pair ↔
      ∃ step, steps[i]? = some step ∧ ofStep env step (index + i) = .ok pair.1 ∧
        step.begins = pair.2) := by
  induction steps with
  | nil =>
    intro index i pairs pair arePairs
    cases arePairs
    simp
  | cons step rest ih =>
    intro index i pairs pair arePairs
    obtain ⟨key, later, rfl, isKey, areLater⟩ := ofSteps_cons_eq_ok.1 arePairs
    cases i with
    | zero => simp [isKey, Prod.ext_iff]
    | succ i =>
      simp only [List.getElem?_cons_succ, ih areLater]
      rw [show index + 1 + i = index + (i + 1) by omega]

/-! ## Chains -/

/-- Chains are made of all keys, in their order. -/
theorem chains_flatten (pairs : List (SortKey × Bool)) :
    (chains pairs).1 ++ (chains pairs).2.flatten = pairs.map Prod.fst := by
  induction pairs with
  | nil => rfl
  | cons pair rest ih =>
    obtain ⟨key, begins⟩ := pair
    cases begins <;> simp [chains, ← ih]

theorem chains_orphans_eq_nil {pairs : List (SortKey × Bool)} :
    (chains pairs).1 = [] ↔ ∀ first ∈ pairs.head?, first.2 = true := by
  cases pairs with
  | nil => simp [chains]
  | cons pair rest =>
    obtain ⟨key, begins⟩ := pair
    cases begins <;> simp [chains]

/-- How the chains of the keys from this position on lie among the chains of all operations. -/
structure Placed (steps : List SortStep) (index : Nat) (orphans : List SortKey)
    (chains : List (List SortKey)) : Prop where
  /-- What begins no chain goes on with the one before this position. -/
  orphans : ∀ key ∈ orphans, chainStart steps key.index = chainStart steps (index - 1)
  begun : ∀ chain ∈ chains, ∀ key ∈ chain, index ≤ chainStart steps key.index
  together : ∀ chain ∈ chains, ∀ a ∈ chain, ∀ b ∈ chain,
    chainStart steps a.index = chainStart steps b.index
  apart : chains.Pairwise fun earlier later => ∀ a ∈ earlier, ∀ b ∈ later,
    chainStart steps a.index < chainStart steps b.index

theorem chains_placed : ∀ {pairs : List (SortKey × Bool)} {index : Nat},
    (∀ i pair, pairs[i]? = some pair → pair.1.index = index + i ∧
      ∃ step, steps[index + i]? = some step ∧ step.begins = pair.2) →
    Placed steps index (chains pairs).1 (chains pairs).2 := by
  intro pairs
  induction pairs with
  | nil => exact fun _ => ⟨nofun, nofun, nofun, .nil⟩
  | cons pair rest ih =>
    intro index placed
    obtain ⟨key, begins⟩ := pair
    have ⟨own, step, isStep, isBegin⟩ := placed 0 _ rfl
    rw [Nat.add_zero] at own isStep
    subst isBegin
    have after : Placed steps (index + 1) (chains rest).1 (chains rest).2 := by
      refine ih fun i pair isPair => ?_
      rw [Nat.add_assoc, Nat.add_comm 1 i]
      exact placed (i + 1) pair isPair
    have goesOn : ∀ orphan ∈ (chains rest).1,
        chainStart steps orphan.index = chainStart steps index := after.orphans
    have later : ∀ chain ∈ (chains rest).2, ∀ orphan ∈ chain,
        index < chainStart steps orphan.index := after.begun
    cases begun : step.begins with
    | true =>
      have start : chainStart steps index = index := chainStart_of_begins isStep begun
      -- the new chain starts here, and so do its keys
      have starts : ∀ a ∈ key :: (chains rest).1, chainStart steps a.index = index :=
        List.forall_mem_cons.2
          ⟨by rw [own, start], fun orphan mem => (goesOn orphan mem).trans start⟩
      exact {
        orphans := nofun
        begun := List.forall_mem_cons.2
          ⟨fun a mem => Nat.le_of_eq (starts a mem).symm,
            fun chain mem a inChain => Nat.le_of_lt (later chain mem a inChain)⟩
        together := List.forall_mem_cons.2
          ⟨fun a inA b inB => (starts a inA).trans (starts b inB).symm, after.together⟩
        apart := List.pairwise_cons.2
          ⟨fun chain mem a inA b inB => (starts a inA).symm ▸ later chain mem b inB, after.apart⟩ }
    | false =>
      have start : chainStart steps index = chainStart steps (index - 1) :=
        chainStart_of_refines isStep begun
      exact {
        orphans := List.forall_mem_cons.2
          ⟨by rw [own, start], fun orphan mem => (goesOn orphan mem).trans start⟩
        begun := fun chain mem a inChain => Nat.le_of_lt (later chain mem a inChain)
        together := after.together
        apart := after.apart }

theorem placed_of_ofSteps {pairs : List (SortKey × Bool)}
    (arePairs : ofSteps env 0 steps = .ok pairs) :
    Placed steps 0 (chains pairs).1 (chains pairs).2 := by
  refine chains_placed fun i pair isPair => ?_
  obtain ⟨step, isStep, isKey, isBegin⟩ := (getElem?_ofSteps arePairs).1 isPair
  rw [← (ofStep_eq_ok.1 isKey).2.2.2]
  refine ⟨rfl, step, ?_, isBegin⟩
  rw [Nat.zero_add]
  exact isStep

/-- Keys stand in the order of their operations. -/
theorem index_increases {pairs : List (SortKey × Bool)}
    (arePairs : ofSteps env 0 steps = .ok pairs) :
    (pairs.map Prod.fst).Pairwise fun a b => a.index < b.index := by
  rw [List.pairwise_map, List.pairwise_iff_getElem]
  intro i j hi hj lt
  have place : ∀ k (hk : k < pairs.length), pairs[k].1.index = k := by
    intro k hk
    obtain ⟨step, -, isKey, -⟩ := (getElem?_ofSteps arePairs).1 (List.getElem?_eq_getElem hk)
    rw [← (ofStep_eq_ok.1 isKey).2.2.2, Nat.zero_add]
  rw [place i hi, place j hj]
  exact lt

theorem mem_keys_iff {pairs : List (SortKey × Bool)} (arePairs : ofSteps env 0 steps = .ok pairs)
    {key : SortKey} : key ∈ pairs.map Prod.fst ↔ key.IsKeyOf env steps := by
  rw [List.mem_map]
  constructor
  · rintro ⟨pair, mem, rfl⟩
    obtain ⟨i, isPair⟩ := List.mem_iff_getElem?.1 mem
    obtain ⟨step, isStep, isKey, -⟩ := (getElem?_ofSteps arePairs).1 isPair
    obtain ⟨isField, isColumn, isDirection, isIndex⟩ := ofStep_eq_ok.1 isKey
    rw [Nat.zero_add] at isIndex
    exact ⟨⟨step, isIndex ▸ isStep, isField, isDirection⟩, isColumn⟩
  · rintro ⟨⟨step, isStep, isField, isDirection⟩, isColumn⟩
    have isKey : ofStep env step (0 + key.index) = .ok key :=
      ofStep_eq_ok.2 ⟨isField, isColumn, isDirection, Nat.zero_add _⟩
    have isPair : pairs[key.index]? = some (key, step.begins) :=
      (getElem?_ofSteps arePairs).2 ⟨step, isStep, isKey, rfl⟩
    exact ⟨_, List.mem_of_getElem? isPair, rfl⟩

/-- The chains from the last to the first have their keys in the order of precedence. -/
theorem pairwise_precedes {pairs : List (SortKey × Bool)}
    (arePairs : ofSteps env 0 steps = .ok pairs) :
    (chains pairs).2.reverse.flatten.Pairwise fun a b => Precedes steps a.index b.index := by
  have placed := placed_of_ofSteps arePairs
  have increases := index_increases arePairs
  rw [← chains_flatten, List.pairwise_append, List.pairwise_flatten] at increases
  rw [List.pairwise_flatten, List.pairwise_reverse]
  constructor
  · intro chain mem
    rw [List.mem_reverse] at mem
    refine (increases.2.1.1 chain mem).imp_of_mem fun inA inB lt => .inr ⟨?_, lt⟩
    exact placed.together chain mem _ inA _ inB
  · exact placed.apart.imp fun before a inA b inB => .inl (before b inB a inA)

/-! ## Orderings -/

/-- The key of the last operation that sorts by its field. -/
structure IsLatestOf (env : Environment) (steps : List SortStep) (key : SortKey) : Prop
    extends key.IsKeyOf env steps where
  latest : ∀ i step field, key.index < i → steps[i]? = some step → step.key = .field field →
    Text.sameName field key.field = false

/-- What an accepted sequence of operations adds up to. -/
structure IsOrderingOf (env : Environment) (steps : List SortStep) (keys : List SortKey) :
    Prop where
  mem_iff : ∀ key, key ∈ keys ↔ key.IsLatestOf env steps
  once : keys.Nodup
  /-- Every field that is sorted by has one key. -/
  fields : ∀ step ∈ steps, ∀ field, step.key = .field field →
    ∃! key, key ∈ keys ∧ Text.sameName key.field field = true
  order : ∀ (i j : Nat) (a b : SortKey), keys[i]? = some a → keys[j]? = some b →
    (i < j ↔ Precedes steps a.index b.index)

/-- Every key is a field of the row, and the first operation begins a chain. -/
def IsAccepted (env : Environment) (steps : List SortStep) : Prop :=
  (∀ step ∈ steps, ∃ field column, step.key = .field field ∧ env.column field = .ok column) ∧
    ∀ first ∈ steps.head?, first.begins = true

/-- What a sequence is refused with: the last refused key, or else the missing chain. -/
def IsRefusedWith (env : Environment) (steps : List SortStep) (error : CompileError) : Prop :=
  IsLastRefusal env steps error ∨
    (∀ step ∈ steps, step.refusal? env = none) ∧
      ∃ first rest field, steps = first :: rest ∧ first.begins = false ∧
        first.key = .field field ∧ error = .thenSortWithoutSort field

/-- What the ordering of accepted operations is taken from. -/
theorem ordering_eq_ok {keys : List SortKey} :
    ordering env steps = .ok keys ↔ ∃ pairs, ofSteps env 0 steps = .ok pairs ∧
      (chains pairs).1 = [] ∧
      keys = (chains pairs).2.reverse.flatten.filter
        (isLatest (chains pairs).2.reverse.flatten) := by
  unfold ordering
  rw [Except.bind_eq_ok]
  refine exists_congr fun pairs => and_congr_right fun _ => ?_
  rcases chains pairs with ⟨_ | ⟨orphan, orphans⟩, later⟩
  · simp [pure, Except.pure, eq_comm]
  · simp

theorem ordering_eq_error {error : CompileError} :
    ordering env steps = .error error ↔ ofSteps env 0 steps = .error error ∨
      ∃ pairs orphan, ofSteps env 0 steps = .ok pairs ∧ (chains pairs).1.head? = some orphan ∧
        error = .thenSortWithoutSort orphan.field := by
  unfold ordering
  rw [Except.bind_eq_error]
  refine or_congr_right (exists_congr fun pairs => ?_)
  rcases chains pairs with ⟨_ | ⟨orphan, orphans⟩, later⟩
  · simp [pure, Except.pure]
  · simp [eq_comm]

theorem isLatest_iff {keys : List SortKey} {key : SortKey} : isLatest keys key = true ↔
    ∀ other ∈ keys, key.index < other.index → Text.sameName other.field key.field = false := by
  simp [isLatest]

/-- Two keys of one position are the same. -/
theorem IsKeyOf.eq_of_index {a b : SortKey} (isA : a.IsKeyOf env steps) (isB : b.IsKeyOf env steps)
    (same : a.index = b.index) : a = b := by
  obtain ⟨⟨step, isStep, isField, isDirection⟩, isColumn⟩ := isA
  obtain ⟨⟨step', isStep', isField', isDirection'⟩, isColumn'⟩ := isB
  rw [same, isStep'] at isStep
  cases isStep
  have fields : a.field = b.field := Term.field.inj (isField.symm.trans isField')
  have columns : a.column = b.column := by
    rw [fields, isColumn'] at isColumn
    exact (Except.ok.inj isColumn).symm
  have directions : a.direction = b.direction := isDirection.symm.trans isDirection'
  cases a
  cases b
  simp_all

/-- Some operation on a field is the last one. -/
theorem exists_latest (accepted : ∀ step ∈ steps, step.refusal? env = none) (rest : Nat) :
    ∀ {i : Nat} {step : SortStep} {field : String}, steps.length - i ≤ rest →
      steps[i]? = some step → step.key = .field field →
        ∃ key : SortKey, key.IsLatestOf env steps ∧ Text.sameName key.field field = true := by
  induction rest with
  | zero =>
    intro i step field beyond isStep
    obtain ⟨inside, -⟩ := List.getElem?_eq_some_iff.1 isStep
    omega
  | succ rest ih =>
    intro i step field near isStep isField
    by_cases again : ∃ j later field', i < j ∧ steps[j]? = some later ∧ later.key = .field field' ∧
        Text.sameName field' field = true
    · obtain ⟨j, later, field', behind, isLater, isField', same⟩ := again
      obtain ⟨inside, -⟩ := List.getElem?_eq_some_iff.1 isLater
      obtain ⟨key, isLatest, same'⟩ := ih (by omega) isLater isField'
      exact ⟨key, isLatest, Text.sameName_trans same' same⟩
    · obtain ⟨field', column, isField', isColumn⟩ :=
        refusal?_eq_none.1 (accepted step (List.mem_of_getElem? isStep))
      cases isField.symm.trans isField'
      refine ⟨⟨field, column, step.direction, i⟩, ⟨⟨⟨step, isStep, isField, rfl⟩, isColumn⟩, ?_⟩,
        Text.sameName_refl field⟩
      intro j later field' behind isLater isField'
      rw [Bool.eq_false_iff]
      exact fun same => again ⟨j, later, field', behind, isLater, isField', same⟩

theorem mem_ordering_iff {pairs : List (SortKey × Bool)}
    (arePairs : ofSteps env 0 steps = .ok pairs) (noOrphans : (chains pairs).1 = [])
    {key : SortKey} :
    key ∈ (chains pairs).2.reverse.flatten.filter (isLatest (chains pairs).2.reverse.flatten) ↔
      key.IsLatestOf env steps := by
  have all : ∀ key, key ∈ (chains pairs).2.reverse.flatten ↔ key.IsKeyOf env steps := by
    intro key
    rw [← mem_keys_iff arePairs, ← chains_flatten, noOrphans]
    simp
  rw [List.mem_filter, all, isLatest_iff]
  constructor
  · rintro ⟨isKey, latest⟩
    refine ⟨isKey, fun i step field behind isStep isField => ?_⟩
    have accepted := (exists_ofSteps_iff _).1 ⟨pairs, arePairs⟩ step (List.mem_of_getElem? isStep)
    obtain ⟨field', column, isField', isColumn⟩ := refusal?_eq_none.1 accepted
    cases isField.symm.trans isField'
    have other : IsKeyOf env steps ⟨field, column, step.direction, i⟩ :=
      ⟨⟨step, isStep, isField, rfl⟩, isColumn⟩
    exact latest _ ((all _).2 other) behind
  · rintro ⟨isKey, latest⟩
    refine ⟨isKey, fun other mem behind => ?_⟩
    obtain ⟨⟨step, isStep, isField, -⟩, -⟩ := (all other).1 mem
    exact latest other.index step other.field behind isStep isField

theorem ordering_isOrderingOf {keys : List SortKey} (ordered : ordering env steps = .ok keys) :
    IsOrderingOf env steps keys := by
  obtain ⟨pairs, arePairs, noOrphans, rfl⟩ := ordering_eq_ok.1 ordered
  have precedes := (pairwise_precedes arePairs).filter (isLatest (chains pairs).2.reverse.flatten)
  have mem_iff := fun key => @mem_ordering_iff env steps pairs arePairs noOrphans key
  revert precedes mem_iff
  generalize (chains pairs).2.reverse.flatten.filter _ = keys
  intro precedes mem_iff
  refine ⟨mem_iff, ?_, ?_, ?_⟩
  · refine List.nodup_iff_pairwise_ne.2 (precedes.imp fun {a b} first same => ?_)
    subst same
    exact not_precedes_self _ first
  · intro step mem field isField
    obtain ⟨i, isStep⟩ := List.mem_iff_getElem?.1 mem
    have accepted := (exists_ofSteps_iff _).1 ⟨pairs, arePairs⟩
    obtain ⟨key, isLatest, same⟩ := exists_latest accepted _ (Nat.le_refl _) isStep isField
    refine ⟨key, ⟨(mem_iff key).2 isLatest, same⟩, fun other ⟨inKeys, same'⟩ => ?_⟩
    have isLatest' := (mem_iff other).1 inKeys
    have names : Text.sameName other.field key.field = true :=
      Text.sameName_trans same' (Text.sameName_comm _ _ ▸ same)
    -- of two operations on one field the earlier one is not the last
    rcases Nat.lt_trichotomy other.index key.index with before | level | after
    · obtain ⟨step', isStep', isField', -⟩ := isLatest.step
      have differ := isLatest'.latest _ _ _ before isStep' isField'
      rw [Text.sameName_comm, names] at differ
      cases differ
    · exact isLatest'.toIsKeyOf.eq_of_index isLatest.toIsKeyOf level
    · obtain ⟨step', isStep', isField', -⟩ := isLatest'.step
      rw [isLatest.latest _ _ _ after isStep' isField'] at names
      cases names
  · intro i j a b isA isB
    obtain ⟨hi, rfl⟩ := List.getElem?_eq_some_iff.1 isA
    obtain ⟨hj, rfl⟩ := List.getElem?_eq_some_iff.1 isB
    rw [List.pairwise_iff_getElem] at precedes
    refine ⟨precedes i j hi hj, fun first => ?_⟩
    rcases Nat.lt_trichotomy i j with lt | rfl | gt
    · exact lt
    · exact absurd first (not_precedes_self _)
    · exact absurd first (precedes j i hj hi gt).asymm

theorem head?_ofSteps {pairs : List (SortKey × Bool)} (arePairs : ofSteps env 0 steps = .ok pairs) :
    (chains pairs).1 = [] ↔ ∀ first ∈ steps.head?, first.begins = true := by
  rw [chains_orphans_eq_nil]
  cases steps with
  | nil =>
    cases arePairs
    simp
  | cons step rest =>
    obtain ⟨key, later, rfl, -⟩ := ofSteps_cons_eq_ok.1 arePairs
    simp

theorem exists_ordering_iff : (∃ keys, ordering env steps = .ok keys) ↔ IsAccepted env steps := by
  simp only [IsAccepted, ← refusal?_eq_none, ← exists_ofSteps_iff 0, ordering_eq_ok]
  constructor
  · rintro ⟨_, pairs, arePairs, noOrphans, rfl⟩
    exact ⟨⟨pairs, arePairs⟩, (head?_ofSteps arePairs).1 noOrphans⟩
  · rintro ⟨⟨pairs, arePairs⟩, begun⟩
    exact ⟨_, pairs, arePairs, (head?_ofSteps arePairs).2 begun, rfl⟩

theorem ordering_refused_iff {error : CompileError} :
    ordering env steps = .error error ↔ IsRefusedWith env steps error := by
  rw [ordering_eq_error, ofSteps_eq_error, IsRefusedWith, ← exists_ofSteps_iff 0]
  refine or_congr_right ⟨?_, ?_⟩
  · rintro ⟨pairs, orphan, arePairs, isOrphan, rfl⟩
    refine ⟨⟨pairs, arePairs⟩, ?_⟩
    cases steps with
    | nil =>
      cases arePairs
      cases isOrphan
    | cons first rest =>
      obtain ⟨key, later, rfl, isKey, -⟩ := ofSteps_cons_eq_ok.1 arePairs
      cases begun : first.begins with
      | true => simp [chains, begun] at isOrphan
      | false =>
        obtain rfl : key = orphan := by simpa [chains, begun] using isOrphan
        exact ⟨first, rest, key.field, rfl, begun, (ofStep_eq_ok.1 isKey).1, rfl⟩
  · rintro ⟨⟨pairs, arePairs⟩, first, rest, field, rfl, begun, isField, rfl⟩
    obtain ⟨key, later, rfl, isKey, -⟩ := ofSteps_cons_eq_ok.1 arePairs
    refine ⟨_, key, arePairs, by simp [chains, begun], ?_⟩
    cases isField.symm.trans (ofStep_eq_ok.1 isKey).1
    rfl

/-- **What sort operations add up to.**  They are accepted exactly when every key is a field of
the row and the first of them begins a chain.  The keys are then those of the last operation on
each field, a later chain before an earlier one and each chain in its order.  Otherwise the last
refused key is reported, and where none is refused the first operation, which begins no chain. -/
theorem ordering_contents (env : Environment) (steps : List SortStep) :
    ((∃ keys, ordering env steps = .ok keys) ↔ IsAccepted env steps) ∧
      (∀ keys, ordering env steps = .ok keys → IsOrderingOf env steps keys) ∧
      ∀ error, ordering env steps = .error error ↔ IsRefusedWith env steps error :=
  ⟨exists_ordering_iff, fun _ => ordering_isOrderingOf, fun _ => ordering_refused_iff⟩

/-- By `Name` and then `Id` downwards, later by `InsertedAt` downwards and then `id`. -/
def latestFirst : List SortStep := [
  ⟨.field "Name", .ascending, true⟩,
  ⟨.field "Id", .descending, false⟩,
  ⟨.field "InsertedAt", .descending, true⟩,
  ⟨.field "id", .ascending, false⟩]

theorem ordering_latestFirst :
    IsOrderingOf ⟨.empty, .empty, true⟩ latestFirst [
      ⟨"InsertedAt", .named "InsertedAt", .descending, 2⟩,
      ⟨"id", .named "id", .ascending, 3⟩,
      ⟨"Name", .named "Name", .ascending, 0⟩] := by
  refine (ordering_contents ⟨.empty, .empty, true⟩ latestFirst).2.1 _ ?_
  rfl

end SortKey

end PlanCompiler
