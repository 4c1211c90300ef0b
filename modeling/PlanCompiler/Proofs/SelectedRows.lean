/-
# Proofs.SelectedRows -- the rows that a plan selects, step by step and at once

A plan of filters, skips and takes can be run on rows one step after the other
(`Query.run`).  The compiled statement does it at once: of the rows on which all
conditions hold it keeps those of one window (`Clauses.select`).

Skips and takes compose in the order of the plan: the window that a step leaves is
the step on what the window left before (`Limit.window_skip`, `Limit.window_take`), as
long as there are fewer rows than the largest count.  Filters have no place in that
order.  All conditions come before the window, wherever their filters stand, so the
statement is the plan with its filters moved to the front (`compile_rows`).  A filter
that stands behind a skip or a take sees other rows in the plan than in the statement
(`firstAdult_reordered`).
-/
import PlanCompiler.Compile.Statement
import PlanCompiler.Proofs.ExpressionMeaning
import PlanCompiler.Proofs.ParameterNumbering

namespace PlanCompiler

set_option autoImplicit false

variable {Row α : Type}

/-! ## Windows -/

namespace Sql.Limit

/-- The rows that the clause keeps, as it is written: no clause keeps all of them, and an offset
without a limit is written with the largest one. -/
def window (limit : Limit) (rows : List α) : List α :=
  match limit.limit, limit.offset.filter (0 < ·) with
  | .none, .none => rows
  | some count, .none => rows.take count.toNat
  | count, some offset => (rows.drop offset.toNat).take (count.getD maxRows).toNat

/-- As many rows as the limit allows, all of them without a limit. -/
def upTo : Option UInt64 → List α → List α
  | .none, rows => rows
  | some count, rows => rows.take count.toNat

theorem toNat_addCounts (a b : UInt64) :
    (addCounts a b).toNat = min (a.toNat + b.toNat) (UInt64.size - 1) := by
  have small : min (a.toNat + b.toNat) (UInt64.size - 1) < UInt64.size :=
    Nat.lt_of_le_of_lt (Nat.min_le_right _ _) (by decide)
  exact UInt64.toNat_ofNat_of_lt' small

theorem toNat_subtractCounts (a b : UInt64) : (subtractCounts a b).toNat = a.toNat - b.toNat := by
  have small : a.toNat - b.toNat < UInt64.size := Nat.lt_of_le_of_lt (Nat.sub_le _ _) a.toNat_lt_size
  exact UInt64.toNat_ofNat_of_lt' small

/-- The window is what the offset leaves, up to the limit. -/
theorem window_eq {limit : Limit} {rows : List α} (few : rows.length < UInt64.size) :
    limit.window rows = upTo limit.limit (rows.drop (limit.offset.getD 0).toNat) := by
  have all : (rows.drop (limit.offset.getD 0).toNat).take maxRows.toNat =
      rows.drop (limit.offset.getD 0).toNat := by
    rw [show maxRows.toNat = UInt64.size - 1 from rfl]
    refine List.take_of_length_le ?_
    rw [List.length_drop]
    omega
  obtain ⟨count, offset⟩ := limit
  cases offset with
  | none => cases count <;> rfl
  | some offset =>
    by_cases positive : 0 < offset
    · have written : (some offset).filter (0 < ·) = some offset := by simp [positive]
      cases count with
      | none =>
        simp only [window, written]
        exact all
      | some count => simp only [window, written, Option.getD_some, upTo]
    · have zero : offset = 0 := by
        rw [UInt64.lt_iff_toNat_lt] at positive
        exact UInt64.toNat_inj.1 (Nat.eq_zero_of_not_pos positive)
      subst zero
      cases count <;> rfl

theorem upTo_drop (limit : Option UInt64) (count : UInt64) (rows : List α) :
    (upTo limit rows).drop count.toNat =
      upTo (limit.map (subtractCounts · count)) (rows.drop count.toNat) := by
  cases limit with
  | none => rfl
  | some limit => simp only [upTo, Option.map_some, toNat_subtractCounts, List.drop_take]

/-- Skipping rows of a window moves it on. -/
theorem window_skip {limit : Limit} {rows : List α} (few : rows.length < UInt64.size) (count : UInt64) :
    (limit.skip count).window rows = (limit.window rows).drop count.toNat := by
  have moved : rows.drop (addCounts (limit.offset.getD 0) count).toNat =
      (rows.drop (limit.offset.getD 0).toNat).drop count.toNat := by
    rw [toNat_addCounts, List.drop_drop]
    rcases Nat.le_total ((limit.offset.getD 0).toNat + count.toNat) (UInt64.size - 1) with fits | exceeds
    · rw [Nat.min_eq_left fits]
    · -- an offset that exceeds the counts is beyond the last row
      rw [Nat.min_eq_right exceeds, List.drop_eq_nil_of_le (by omega),
        List.drop_eq_nil_of_le (by omega)]
  rw [window_eq few, window_eq few, upTo_drop, ← moved]
  rfl

/-- Taking rows of a window shortens it. -/
theorem window_take {limit : Limit} {rows : List α} (few : rows.length < UInt64.size) (count : UInt64) :
    (limit.take count).window rows = (limit.window rows).take count.toNat := by
  rw [window_eq few, window_eq few]
  cases given : limit.limit with
  | none => simp only [take, given, upTo, Option.map_none, Option.getD_none]
  | some old =>
    have smaller : (min old count).toNat = min count.toNat old.toNat := by
      change (if old ≤ count then old else count).toNat = _
      split
      · rename_i le
        rw [UInt64.le_iff_toNat_le] at le
        omega
      · rename_i lt
        rw [UInt64.le_iff_toNat_le] at lt
        omega
    simp only [take, given, upTo, Option.map_some, Option.getD_some, List.take_take, smaller]

end Sql.Limit

/-! ## Steps -/

/-- Operations that leave out rows and keep the others in their order. -/
inductive Restriction
  | filter (predicate : Predicate)
  | skip (count : UInt64)
  | take (count : UInt64)

namespace Restriction

def operation : Restriction → Operation
  | .filter predicate => .filter predicate
  | .skip count => .skip count
  | .take count => .take count

def isFilter : Restriction → Bool
  | .filter _ => true
  | _ => false

/-- The same steps with the filters moved to the front. -/
def filtersFirst (steps : List Restriction) : List Restriction :=
  steps.filter isFilter ++ steps.filter fun step => !step.isFilter

end Restriction

/-- The rows on which a condition holds, all of them without one. -/
def selectWhere (holds : Sql.Expression → α → Bool) : Option Sql.Expression → List α → List α
  | none, rows => rows
  | some condition, rows => rows.filter (holds condition)

namespace Query

/-- The rows that a step leaves, given on which rows a condition holds. -/
def restrict (query : Query Row) (holds : Sql.Expression → α → Bool) (rows : List α) :
    Restriction → Except CompileError (List α)
  | .filter predicate => do return selectWhere holds (← query.filterCondition predicate) rows
  | .skip count => .ok (rows.drop count.toNat)
  | .take count => .ok (rows.take count.toNat)

/-- The rows that are left when the steps have been run one after the other. -/
def run (query : Query Row) (holds : Sql.Expression → α → Bool) (steps : List Restriction)
    (rows : List α) : Except CompileError (List α) :=
  steps.foldlM (query.restrict holds) rows

/-- Whether a step leaves all rows that a filter could leave out. -/
def AddsNoCondition (query : Query Row) : Restriction → Prop
  | .filter predicate => query.filterCondition predicate = .ok none
  | _ => True

/-- Behind a skip or a take there is no filter that adds a condition. -/
def FiltersLead (query : Query Row) (steps : List Restriction) : Prop :=
  steps.Pairwise fun first later => first.isFilter = true ∨ query.AddsNoCondition later

end Query

/-- The rows that the clauses select at once: of those on which all conditions hold, the window. -/
def Clauses.select (clauses : Clauses) (holds : Sql.Expression → α → Bool) (rows : List α) :
    List α :=
  clauses.limit.window (rows.filter fun row => clauses.conditions.all (holds · row))

theorem selectWhere_filter (holds : Sql.Expression → α → Bool) (condition : Option Sql.Expression)
    (also : α → Bool) (rows : List α) :
    (selectWhere holds condition rows).filter also =
      rows.filter fun row => condition.toList.all (holds · row) && also row := by
  cases condition with
  | none => rfl
  | some condition =>
    rw [selectWhere, List.filter_filter]
    refine List.filter_congr fun row _ => ?_
    rw [Option.toList_some, List.all_cons, List.all_nil, Bool.and_true, Bool.and_comm]

/-! ## Filters and pages apart -/

namespace Query

variable {query : Query Row} {holds : Sql.Expression → α → Bool}

theorem run_cons (step : Restriction) (rest : List Restriction) (rows : List α) :
    query.run holds (step :: rest) rows = query.restrict holds rows step >>= query.run holds rest :=
  List.foldlM_cons

theorem run_append (first second : List Restriction) (rows : List α) :
    query.run holds (first ++ second) rows =
      query.run holds first rows >>= query.run holds second :=
  List.foldlM_append

/-- The filters of the steps, run alone, keep the rows on which the conditions hold that the steps
add. -/
theorem run_filters (holds : Sql.Expression → α → Bool) {steps : List Restriction} :
    ∀ {before after : Progress Row},
      (steps.map Restriction.operation).foldlM query.advance before = .ok after →
      ∃ added, after.conditions = before.conditions ++ added ∧
        ∀ rows : List α, query.run holds (steps.filter Restriction.isFilter) rows =
          .ok (rows.filter fun row => added.all (holds · row)) := by
  induction steps with
  | nil =>
    intro before after advanced
    cases advanced
    refine ⟨[], (List.append_nil _).symm, fun rows => ?_⟩
    rw [show (rows.filter fun row => [].all (holds · row)) = rows from List.filter_true rows]
    rfl
  | cons step rest ih =>
    intro before after advanced
    rw [List.map_cons, List.foldlM_cons] at advanced
    obtain ⟨next, first, advanced⟩ := Except.bind_eq_ok.1 advanced
    obtain ⟨added, conditions, selects⟩ := ih advanced
    cases step with
    | filter predicate =>
      cases advance_eq_ok.1 first
      rename_i condition isCondition
      refine ⟨condition.toList ++ added, by rw [conditions, List.append_assoc], fun rows => ?_⟩
      have step : query.restrict holds rows (.filter predicate) =
          .ok (selectWhere holds condition rows) := by
        rw [restrict, show query.filterCondition predicate = .ok condition from isCondition]
        rfl
      calc query.run holds (.filter predicate :: rest.filter Restriction.isFilter) rows
        _ = query.run holds (rest.filter Restriction.isFilter)
              (selectWhere holds condition rows) := by
          rw [run_cons, step]
          rfl
        _ = .ok ((selectWhere holds condition rows).filter fun row => added.all (holds · row)) :=
          selects _
        _ = _ := by simp only [selectWhere_filter, List.all_append]
    | skip count | take count =>
      cases first
      exact ⟨added, conditions, selects⟩

/-- The skips and takes, run alone on the rows of a window, leave those of the window that the
steps move it to. -/
theorem run_pages {steps : List Restriction} {rows : List α} (few : rows.length < UInt64.size) :
    ∀ {before after : Progress Row},
      (steps.map Restriction.operation).foldlM query.advance before = .ok after →
        query.run holds (steps.filter fun step => !step.isFilter) (before.limit.window rows) =
          .ok (after.limit.window rows) := by
  induction steps with
  | nil =>
    intro before after advanced
    cases advanced
    rfl
  | cons step rest ih =>
    intro before after advanced
    rw [List.map_cons, List.foldlM_cons] at advanced
    obtain ⟨next, first, advanced⟩ := Except.bind_eq_ok.1 advanced
    have moved := ih advanced
    cases step with
    | filter predicate =>
      cases advance_eq_ok.1 first
      exact moved
    | skip count =>
      cases first
      rw [Sql.Limit.window_skip few] at moved
      exact moved
    | take count =>
      cases first
      rw [Sql.Limit.window_take few] at moved
      exact moved

/-- The clauses are the steps with the filters moved to the front. -/
theorem run_filtersFirst {steps : List Restriction} {progress : Progress Row} {rows : List α}
    (compiled : (steps.map Restriction.operation).foldlM query.advance .start = .ok progress)
    (few : rows.length < UInt64.size) :
    query.run holds (Restriction.filtersFirst steps) rows = .ok (progress.limit.window
      (rows.filter fun row => progress.conditions.all (holds · row))) := by
  obtain ⟨added, conditions, selects⟩ := run_filters holds compiled
  rw [show Progress.start.conditions = [] from rfl, List.nil_append] at conditions
  have fewer : (rows.filter fun row => added.all (holds · row)).length < UInt64.size :=
    Nat.lt_of_le_of_lt (List.length_filter_le _ _) few
  rw [Restriction.filtersFirst, run_append, selects, conditions]
  exact run_pages fewer compiled

/-! ## Steps in the order of the plan -/

/-- Filters that add no condition may be left out. -/
theorem run_idle {steps : List Restriction} (idle : ∀ step ∈ steps, query.AddsNoCondition step) :
    ∀ rows : List α, query.run holds (steps.filter Restriction.isFilter) rows = .ok rows ∧
      query.run holds steps rows =
        query.run holds (steps.filter fun step => !step.isFilter) rows := by
  induction steps with
  | nil => exact fun _ => ⟨rfl, rfl⟩
  | cons step rest ih =>
    rw [List.forall_mem_cons] at idle
    have others := ih idle.2
    intro rows
    cases step with
    | filter predicate =>
      have kept : query.restrict holds rows (.filter predicate) = .ok rows := by
        rw [restrict, show query.filterCondition predicate = .ok none from idle.1]
        rfl
      constructor
      · calc query.run holds (.filter predicate :: rest.filter Restriction.isFilter) rows
          _ = query.run holds (rest.filter Restriction.isFilter) rows := by
            rw [run_cons, kept]
            rfl
          _ = .ok rows := (others rows).1
      · calc query.run holds (.filter predicate :: rest) rows
          _ = query.run holds rest rows := by
            rw [run_cons, kept]
            rfl
          _ = _ := (others rows).2
    | skip count | take count => exact ⟨(others rows).1, (others _).2⟩

/-- Filters that lead may as well be moved to the front. -/
theorem run_of_filtersLead {steps : List Restriction} (lead : query.FiltersLead steps) :
    ∀ rows : List α,
      query.run holds steps rows = query.run holds (Restriction.filtersFirst steps) rows := by
  induction steps with
  | nil => exact fun _ => rfl
  | cons step rest ih =>
    obtain ⟨behind, leadRest⟩ := List.pairwise_cons.1 lead
    intro rows
    cases step with
    | filter predicate =>
      calc query.run holds (.filter predicate :: rest) rows
        _ = query.restrict holds rows (.filter predicate) >>= query.run holds rest :=
          run_cons _ _ _
        _ = query.restrict holds rows (.filter predicate) >>=
              query.run holds (Restriction.filtersFirst rest) := by rw [funext (ih leadRest)]
        _ = query.run holds (Restriction.filtersFirst (.filter predicate :: rest)) rows :=
          (run_cons _ _ _).symm
    | skip count | take count =>
      have idle : ∀ step ∈ rest, query.AddsNoCondition step := fun later mem =>
        (behind later mem).resolve_left nofun
      rw [Restriction.filtersFirst, run_append]
      change _ = query.run holds (rest.filter Restriction.isFilter) rows >>= _
      rw [(run_idle idle rows).1]
      exact (run_idle idle _).2

/-! ## Statements -/

/-- **A statement selects what the plan does with its filters moved to the front.**  That is what
the plan selects step by step, unless a filter that adds a condition stands behind a skip or a
take. -/
theorem compile_rows {query : Query Row} {steps : List Restriction} {statement : Statement}
    {transform : ItemTransform Row}
    (compiled : (query.withPlan (steps.map Restriction.operation)).compile =
      .ok (statement, transform)) :
    ∃ clauses, (query.withPlan (steps.map Restriction.operation)).clauses =
        .ok (clauses, transform) ∧
      statement.filterSql =
        Sql.text (Sql.Filter.pieces ⟨query.environment.filterClause, clauses.conditions⟩) ∧
      statement.limitSql = Sql.text clauses.limit.pieces ∧
      ∀ (α : Type) (holds : Sql.Expression → α → Bool) (rows : List α), rows.length < UInt64.size →
        query.run holds (Restriction.filtersFirst steps) rows =
          .ok (clauses.select holds rows) ∧
        (query.FiltersLead steps →
          query.run holds steps rows = .ok (clauses.select holds rows)) := by
  obtain ⟨clauses, areClauses, isStatement⟩ := compile_eq_ok.1 compiled
  have assembled := (statement_assembly isStatement).1
  refine ⟨clauses, areClauses, by rw [assembled]; rfl, by rw [assembled]; rfl, ?_⟩
  intro α holds rows few
  obtain ⟨progress, order, isProgress, -, rfl, -⟩ := clauses_eq_ok.1 areClauses
  have moved : query.run holds (Restriction.filtersFirst steps) rows = _ :=
    run_filtersFirst isProgress few
  exact ⟨moved, fun lead => (run_of_filtersLead lead rows).trans moved⟩

/-- Whether a condition holds of a person, of whom only the age is known. -/
def holdsOfAge (condition : Sql.Expression) (age : Int) : Bool :=
  condition.meaning (fun _ => .integer age) == some (.bool true)

def people : Query Nat :=
  Query.ofSql "SELECT * FROM people"

def isAdult : Predicate :=
  .greaterThan (.field "Age") (.literal (.int 17))

/-- Three adults after the first one, and then a filter that always holds. -/
def nextAdults : List Restriction :=
  [.filter isAdult, .skip 1, .take 3, .filter (.equals (.literal (.int 1)) (.literal (.int 1)))]

theorem compile_nextAdults :
    ∃ statement transform clauses,
      (people.withPlan (nextAdults.map Restriction.operation)).compile =
        .ok (statement, transform) ∧
      (people.withPlan (nextAdults.map Restriction.operation)).clauses =
        .ok (clauses, transform) ∧
      people.FiltersLead nextAdults ∧
      people.run holdsOfAge nextAdults [12, 18, 40, 7, 60] =
        .ok (clauses.select holdsOfAge [12, 18, 40, 7, 60]) ∧
      clauses.select holdsOfAge [12, 18, 40, 7, 60] = [40, 60] := by
  have lead : people.FiltersLead nextAdults := by
    have behind : ∀ later ∈ [Restriction.take 3,
        .filter (.equals (.literal (.int 1)) (.literal (.int 1)))], people.AddsNoCondition later := by
      rw [List.forall_mem_cons, List.forall_mem_singleton]
      exact ⟨trivial, rfl⟩
    have behindTake := (List.forall_mem_cons.1 behind).2
    exact .cons (fun _ _ => .inl rfl) (.cons (fun later mem => .inr (behind later mem))
      (.cons (fun later mem => .inr (behindTake later mem)) (.cons nofun .nil)))
  have selected : (people.run holdsOfAge nextAdults [12, 18, 40, 7, 60]).toOption =
      some [40, 60] := by decide +kernel
  have accepted : (people.withPlan (nextAdults.map Restriction.operation)).compile.toOption.isSome =
      true := by decide +kernel
  obtain ⟨⟨statement, transform⟩, succeeded⟩ := Option.isSome_iff_exists.1 accepted
  have compiled := Except.toOption_eq_some.1 succeeded
  obtain ⟨clauses, areClauses, -, -, selects⟩ := compile_rows compiled
  have same := (selects Int holdsOfAge [12, 18, 40, 7, 60] (by decide)).2 lead
  refine ⟨statement, transform, clauses, compiled, areClauses, lead, same, ?_⟩
  rw [same] at selected
  exact Option.some.inj selected

/-- The adults among the first person. -/
def firstAdult : List Restriction :=
  [.take 1, .filter isAdult]

/-- The statement selects the first adult, where the plan selects nobody. -/
theorem firstAdult_reordered :
    ∃ statement transform clauses,
      (people.withPlan (firstAdult.map Restriction.operation)).compile =
        .ok (statement, transform) ∧
      (people.withPlan (firstAdult.map Restriction.operation)).clauses =
        .ok (clauses, transform) ∧
      statement.statementSql = "SELECT * FROM people\nHAVING (`Age` > @P1000)\nLIMIT 1;" ∧
      people.run holdsOfAge firstAdult [12, 18] = .ok [] ∧
      clauses.select holdsOfAge [12, 18] = [18] := by
  refine ⟨_, _, _, rfl, rfl, ?_, rfl, ?_⟩
  · decide +kernel
  · decide +kernel

end Query

end PlanCompiler
