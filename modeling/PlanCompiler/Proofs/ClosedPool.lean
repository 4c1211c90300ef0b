/-
# Proofs.ClosedPool -- what is answered and recorded when no connection is given

A call fails before it asks for a connection when its plan does not compile, or when a
placeholder of its statement has no value that can be bound; the first such placeholder
is reported (`boundValues_eq_error_iff`), and nothing is recorded.  Any other call is
timed, and recorded at most once (`Performs.recorded_le`).  On a pool that gives no
connection it is recorded as an error, which shows its statement and repeats the
reason of the pool, whatever that is (`runAll_refused`).  A closed pool is one of
these, with a reason of its own (`runAll_closed`).
-/
import Mathlib.Data.List.Forall2
import PlanCompiler.Execute.Fetch
import PlanCompiler.Proofs.Binding

namespace PlanCompiler

set_option autoImplicit false

variable {Record Row Result : Type}

/-! ## Values of the placeholders -/

namespace Statement

/-- The name has a value, and it is no collection. -/
def Binds (statement : Statement) (name : String) : Prop :=
  ∃ value, statement.parameter? name = some value ∧ ∀ items, value ≠ .array items

/-- The first of the placeholders that cannot be bound. -/
def FirstFault (statement : Statement) (name : String) : Prop :=
  ∃ before after, (Placeholder.ofStatement statement).names = before ++ name :: after ∧
    (∀ earlier ∈ before, statement.Binds earlier) ∧ ¬ statement.Binds name

end Statement

def ExecutionError.isQuery : ExecutionError → Bool
  | .query .. => true
  | _ => false

/-- How many executions have been recorded, as answered or as refused. -/
def Metrics.recorded (metrics : Metrics) : Nat :=
  metrics.queries + metrics.counts + metrics.errors

/-- So many executions have been timed and have failed. -/
def Metrics.recordErrors (metrics : Metrics) (number : Nat) : Metrics :=
  { metrics with
    errors := metrics.errors + number
    executions := metrics.executions + number }

theorem Metrics.recordErrors_add (metrics : Metrics) (first second : Nat) :
    metrics.recordErrors (second + first) =
      (metrics.recordErrors first).recordErrors second := by
  simp only [recordErrors, Nat.add_assoc, Nat.add_comm first]

namespace Execution

/-- The errors that are found before a connection is asked for. -/
inductive FailsEarly : Except CompileError Statement → ExecutionError → Prop
  | compilation {error : CompileError} : FailsEarly (.error error) (.compilation error)
  | unbound {statement : Statement} {name : String} (first : statement.FirstFault name)
      (valueless : statement.parameter? name = none) :
      FailsEarly (.ok statement) (.unboundParameter name)
  | unsupported {statement : Statement} {name : String} {items : List Literal}
      (first : statement.FirstFault name)
      (collection : statement.parameter? name = some (.array items)) :
      FailsEarly (.ok statement) (.unsupportedParameter name collectionReason)

section

variable {statement : Statement}

theorem exists_valueOf_iff {name : String} :
    (∃ value, valueOf statement name = .ok value) ↔ statement.Binds name := by
  unfold valueOf Statement.Binds
  cases statement.parameter? name with
  | none => simp
  | some value => cases value <;> simp

/-- The first placeholder that cannot be bound is reported. -/
theorem boundValues_eq_error_iff {e : ExecutionError} :
    boundValues statement = .error e ↔ FailsEarly (.ok statement) e := by
  rw [boundValues, Except.mapM_eq_error_iff]
  simp only [exists_valueOf_iff]
  constructor
  · rintro ⟨before, name, after, names, bound, failed⟩
    -- the name at which binding stops cannot be bound, and all names before it can
    have fault : statement.FirstFault name := by
      refine ⟨before, after, names, bound, fun binds => ?_⟩
      obtain ⟨value, succeeded⟩ := exists_valueOf_iff.2 binds
      rw [failed] at succeeded
      cases succeeded
    rcases valueOf_eq_error_iff.1 failed with ⟨valueless, rfl⟩ | ⟨items, collection, rfl⟩
    · exact .unbound fault valueless
    · exact .unsupported fault collection
  · rintro (_ | ⟨⟨before, after, names, bound, -⟩, valueless⟩ |
      ⟨⟨before, after, names, bound, -⟩, collection⟩)
    · exact ⟨before, _, after, names, bound, valueOf_eq_error_iff.2 (.inl ⟨valueless, rfl⟩)⟩
    · exact ⟨before, _, after, names, bound,
        valueOf_eq_error_iff.2 (.inr ⟨_, collection, rfl⟩)⟩

theorem FailsEarly.unique {compiled : Except CompileError Statement}
    {first second : ExecutionError} (isFirst : FailsEarly compiled first)
    (isSecond : FailsEarly compiled second) : first = second := by
  cases compiled with
  | error e =>
    cases isFirst
    cases isSecond
    rfl
  | ok statement =>
    have failed := boundValues_eq_error_iff.2 isFirst
    rw [boundValues_eq_error_iff.2 isSecond] at failed
    cases failed
    rfl

theorem FailsEarly.not_binds {e : ExecutionError} (found : FailsEarly (.ok statement) e) :
    ¬ ∀ name ∈ (Placeholder.ofStatement statement).names, statement.Binds name := by
  have fault : ∃ name, statement.FirstFault name := by
    cases found with
    | unbound first valueless => exact ⟨_, first⟩
    | unsupported first collection => exact ⟨_, first⟩
  obtain ⟨name, before, after, names, -, unbound⟩ := fault
  intro bound
  refine unbound (bound name ?_)
  rw [names]
  exact List.mem_append_right _ List.mem_cons_self

/-- Where values are bound, every placeholder has one. -/
theorem binds_of_boundValues {values : List Literal} (bound : boundValues statement = .ok values) :
    ∀ name ∈ (Placeholder.ofStatement statement).names, statement.Binds name := by
  intro name mem
  obtain ⟨value, -, isValue⟩ := Except.exists_result_of_mapM bound name mem
  exact exists_valueOf_iff.1 ⟨value, isValue⟩

end

/-! ## One execution -/

section

variable (complaint : String) (record : Metrics → Metrics)
  (compiled : Except CompileError (Statement × Reader Record Result)) (pool : Acquisition Record)
  (metrics : Metrics)

/-- What an execution may come to, and the metrics after it. -/
inductive Performs : Except ExecutionError Result → Metrics → Prop
  | early {error : ExecutionError} (found : FailsEarly (Prod.fst <$> compiled) error) :
      Performs (.error error) metrics
  | refused {statement : Statement} {read : Reader Record Result} {values : List Literal}
      {inner : String} (compiles : compiled = .ok (statement, read))
      (bound : boundValues statement = .ok values)
      (refusal : fetched pool statement values = .error inner) :
      Performs (.error (failure statement "Could not fetch rows" inner))
        metrics.recordTime.recordFailure
  | misread {statement : Statement} {read : Reader Record Result} {values : List Literal}
      {records : List Record} {inner : String} (compiles : compiled = .ok (statement, read))
      (bound : boundValues statement = .ok values)
      (fetches : fetched pool statement values = .ok records)
      (unreadable : read records = .error inner) :
      Performs (.error (failure statement complaint inner)) metrics.recordTime
  | answered {statement : Statement} {read : Reader Record Result} {values : List Literal}
      {records : List Record} {result : Result} (compiles : compiled = .ok (statement, read))
      (bound : boundValues statement = .ok values)
      (fetches : fetched pool statement values = .ok records)
      (reads : read records = .ok result) :
      Performs (.ok result) (record metrics.recordTime)

theorem perform_performs :
    Performs complaint record compiled pool metrics
      (perform complaint record compiled pool metrics).1
      (perform complaint record compiled pool metrics).2 := by
  unfold perform execute
  rcases compiled with error | ⟨statement, read⟩
  · exact .early .compilation
  · simp only
    cases bound : boundValues statement with
    | error e => exact .early (boundValues_eq_error_iff.1 bound)
    | ok values =>
      simp only
      cases fetches : fetched pool statement values with
      | error inner => exact .refused rfl bound fetches
      | ok records =>
        simp only
        cases reads : read records with
        | error inner => exact .misread rfl bound fetches reads
        | ok result => exact .answered rfl bound fetches reads

end

section

variable {complaint : String} {record : Metrics → Metrics}
  {compiled : Except CompileError (Statement × Reader Record Result)} {pool : Acquisition Record}
  {metrics after : Metrics} {result : Except ExecutionError Result}

/-- What is recorded as answered or refused has been timed. -/
theorem Performs.recorded_le
    (performs : Performs complaint record compiled pool metrics result after)
    (records : ∀ before, (record before).recorded = before.recorded + 1 ∧
      (record before).executions = before.executions)
    (timed : metrics.recorded ≤ metrics.executions) : after.recorded ≤ after.executions := by
  cases performs with
  | early found => exact timed
  | refused compiles bound refusal =>
    simp only [Metrics.recorded, Metrics.recordFailure, Metrics.recordTime] at timed ⊢
    omega
  | misread compiles bound fetches unreadable => exact Nat.le_succ_of_le timed
  | answered compiles bound fetches reads =>
    obtain ⟨one, same⟩ := records metrics.recordTime
    rw [one, same]
    exact Nat.succ_le_succ timed

/-! ### Pools that give no connection -/

/-- How a call is answered by a pool that gives no connection for this reason, by what its plan
compiles to. -/
inductive Refused (reason : String) : Except CompileError Statement → ExecutionError → Prop
  | early {compiled : Except CompileError Statement} {error : ExecutionError}
      (found : FailsEarly compiled error) : Refused reason compiled error
  | late {statement : Statement}
      (bound : ∀ name ∈ (Placeholder.ofStatement statement).names, statement.Binds name) :
      Refused reason (.ok statement)
        (.query "Could not fetch rows" statement.finalSql statement.plan reason)

variable {reason : String}

theorem FailsEarly.isQuery_eq_false {compiled : Except CompileError Statement}
    {error : ExecutionError} (found : FailsEarly compiled error) : error.isQuery = false := by
  cases found <;> rfl

/-- What a call is answered is decided by its plan and the reason of the pool. -/
theorem Refused.unique {compiled : Except CompileError Statement} {first second : ExecutionError}
    (isFirst : Refused reason compiled first) (isSecond : Refused reason compiled second) :
    first = second := by
  cases isFirst with
  | early found =>
    cases isSecond with
    | early found' => exact found.unique found'
    | late bound => exact absurd bound found.not_binds
  | late bound =>
    cases isSecond with
    | early found => exact absurd bound found.not_binds
    | late bound' => rfl

/-- Without a connection there are errors only, and those that were found early are not recorded. -/
theorem Performs.refused_of_error
    (performs : Performs complaint record compiled (.error reason) metrics result after) :
    ∃ e, result = .error e ∧ Refused reason (Prod.fst <$> compiled) e ∧
      after = metrics.recordErrors (if e.isQuery then 1 else 0) := by
  cases performs with
  | early found =>
    refine ⟨_, rfl, .early found, ?_⟩
    rw [found.isQuery_eq_false]
    rfl
  | refused compiles bound refusal =>
    cases compiles
    cases refusal
    exact ⟨_, rfl, .late (binds_of_boundValues bound), rfl⟩
  -- no connection is given, so nothing has been fetched
  | misread compiles bound fetches unreadable => cases fetches
  | answered compiles bound fetches reads => cases fetches

theorem perform_refused :
    ∃ e, perform complaint record compiled (.error reason) metrics =
        (.error e, metrics.recordErrors (if e.isQuery then 1 else 0)) ∧
      Refused reason (Prod.fst <$> compiled) e := by
  obtain ⟨e, isError, refused, recorded⟩ :=
    (perform_performs complaint record compiled (.error reason) metrics).refused_of_error
  exact ⟨e, Prod.ext isError recorded, refused⟩

/-- The closed pool is what `onClosedPool` describes. -/
theorem perform_onClosedPool {statement : Statement} {read : Reader Record Result} :
    perform complaint record (.ok (statement, read)) .closed metrics =
      (.error (onClosedPool statement metrics).1, (onClosedPool statement metrics).2) := by
  rw [perform, execute, onClosedPool]
  cases boundValues statement <;> rfl

end

end Execution

namespace Query

theorem fetch_closed (query : Query Row) (read : Record → Except String Row) (metrics : Metrics) :
    query.fetch read .closed metrics =
      (.error (query.fetchFromClosedPool metrics).1, (query.fetchFromClosedPool metrics).2) := by
  rw [fetch, fetching, fetchFromClosedPool]
  cases query.compile with
  | error e => rfl
  | ok compiled => exact Execution.perform_onClosedPool

theorem count_closed (query : Query Row) (read : Record → Except String Int64)
    (metrics : Metrics) :
    query.count read .closed metrics =
      (.error (query.countOnClosedPool metrics).1, (query.countOnClosedPool metrics).2) := by
  rw [count, counting, countOnClosedPool]
  cases query.compileCount with
  | error e => rfl
  | ok statement => exact Execution.perform_onClosedPool

theorem fst_fetching (query : Query Row) (read : Record → Except String Row) :
    Prod.fst <$> query.fetching read = query.compileAs .rows := by
  rw [fetching, compileAs]
  cases query.compile <;> rfl

theorem fst_counting (query : Query Row) (read : Record → Except String Int64) :
    Prod.fst <$> query.counting read = query.compileAs .count := by
  rw [counting, compileAs]
  cases query.compileCount <;> rfl

end Query

/-! ## Sequences of calls -/

namespace Execution

def Answer.isQueryError (answer : Answer) : Bool :=
  answer.error?.any ExecutionError.isQuery

namespace Call

/-- What the plan of a call compiles to. -/
def statement : Call Record → Except CompileError Statement
  | .fetch query _ => query.compileAs .rows
  | .count query _ => query.compileAs .count

/-- A call on a pool that gives no connection. -/
theorem run_refused (reason : String) (call : Call Record) (metrics : Metrics) :
    ∃ e, call.run (.error reason) metrics =
        (.failed e, metrics.recordErrors (if e.isQuery then 1 else 0)) ∧
      Refused reason call.statement e := by
  cases call with
  | fetch query read =>
    obtain ⟨e, fails, refused⟩ := perform_refused
    rw [query.fst_fetching read] at refused
    refine ⟨e, ?_, refused⟩
    rw [run, Query.fetch, fails]
    rfl
  | count query read =>
    obtain ⟨e, fails, refused⟩ := perform_refused
    rw [query.fst_counting read] at refused
    refine ⟨e, ?_, refused⟩
    rw [run, Query.count, fails]
    rfl

/-- A call that does not come as far as the pool changes no metric. -/
theorem run_unrecorded {reason : String} (call : Call Record) {metrics : Metrics}
    (unrecorded : (call.run (.error reason) metrics).1.isQueryError = false) :
    (call.run (.error reason) metrics).2 = metrics := by
  obtain ⟨e, fails, -⟩ := call.run_refused reason metrics
  rw [fails] at unrecorded ⊢
  have early : e.isQuery = false := unrecorded
  rw [early]
  rfl

/-- No call on any pool is recorded without being timed. -/
theorem run_recorded_le {pool : Acquisition Record} (call : Call Record) {metrics : Metrics}
    (timed : metrics.recorded ≤ metrics.executions) :
    (call.run pool metrics).2.recorded ≤ (call.run pool metrics).2.executions := by
  cases call with
  | fetch query read =>
    refine (perform_performs _ _ _ _ _).recorded_le (fun before => ⟨?_, rfl⟩) timed
    simp only [Metrics.recorded, Metrics.recordQuery]
    omega
  | count query read =>
    refine (perform_performs _ _ _ _ _).recorded_le (fun before => ⟨?_, rfl⟩) timed
    simp only [Metrics.recorded, Metrics.recordCount]
    omega

theorem runAll_recorded_le {pool : Acquisition Record} {calls : List (Call Record)} :
    ∀ {metrics : Metrics}, metrics.recorded ≤ metrics.executions →
      (runAll pool calls metrics).2.recorded ≤ (runAll pool calls metrics).2.executions := by
  induction calls with
  | nil => exact id
  | cons call rest ih => exact fun timed => ih (call.run_recorded_le timed)

/-- The answers of a pool that gives no connection, and the metrics after them. -/
theorem runAll_refused (reason : String) (calls : List (Call Record)) :
    ∀ start : Metrics, ∃ answers,
      runAll (.error reason) calls start =
        (answers, start.recordErrors (answers.countP Answer.isQueryError)) ∧
      List.Forall₂ (fun call answer => ∃ e, answer = .failed e ∧ Refused reason call.statement e)
        calls answers := by
  induction calls with
  | nil => exact fun start => ⟨[], rfl, .nil⟩
  | cons call rest ih =>
    intro start
    obtain ⟨e, first, refused⟩ := call.run_refused reason start
    -- the others begin with what the first call has recorded
    obtain ⟨answers, others, allRefused⟩ :=
      ih (start.recordErrors (if e.isQuery then 1 else 0))
    refine ⟨.failed e :: answers, ?_, .cons ⟨e, rfl, refused⟩ allRefused⟩
    rw [runAll, first]
    simp only [others, List.countP_cons, Metrics.recordErrors_add]
    rfl

/-- **Calls on a closed pool.**  Each of them fails: with the error of its plan, else with the first
of its placeholders that cannot be bound, else with the error of the pool, which shows its
statement and plan.  Only the last kind is recorded, as an error that has been timed. -/
theorem runAll_closed (calls : List (Call Record)) (start : Metrics) :
    ∃ answers after, runAll .closed calls start = (answers, after) ∧
      List.Forall₂ (fun call answer =>
        ∃ e, answer = .failed e ∧ Refused closedPool call.statement e) calls answers ∧
      after.errors = start.errors + answers.countP Answer.isQueryError ∧
      after.executions = start.executions + answers.countP Answer.isQueryError ∧
      after.queries = start.queries ∧ after.counts = start.counts ∧
      ∀ call ∈ calls, ∀ before, (call.run .closed before).1.isQueryError = false →
        (call.run .closed before).2 = before := by
  obtain ⟨answers, run, refused⟩ := runAll_refused closedPool calls start
  refine ⟨answers, _, run, refused, rfl, rfl, rfl, rfl, ?_⟩
  intro call _ before unrecorded
  exact call.run_unrecorded unrecorded

/-- A further order of rows that have none. -/
def unsorted : Call String :=
  .fetch (.thenSortBy (.field "Total") .ascending (.ofSql "SELECT * FROM orders") : Query Nat)
    fun _ => .ok 0

/-- Calls that come too late.  Nothing else is wrong with the last two of them. -/
def lateCalls : List (Call String) :=
  let two : Query Nat := .ofSql "SELECT @Id, @P7"
  let one : Query Nat := .ofSql "SELECT @Id"
  [ unsorted,
    .count (two.bindParameter "Id" (.int 7)) fun _ => .ok 0,
    .fetch (two.bindParameter "id" (.array [.int 7, .int 8])) fun _ => .ok 0,
    .fetch (one.bindParameter "Id" (.int 7)) fun _ => .ok 0,
    .count (one.bindParameter "Id" (.int 8)) fun _ => .ok 0 ]

def lateErrors : List ExecutionError :=
  [ .compilation (.thenSortWithoutSort "Total"),
    .unboundParameter "@P7",
    .unsupportedParameter "@Id" collectionReason,
    .query "Could not fetch rows" "SELECT @Id;" "source" closedPool,
    .query "Could not fetch rows" "SELECT COUNT(*) FROM (SELECT @Id) AS \x60t0\x60;" "source"
      closedPool ]

theorem runAll_lateCalls :
    ∃ answers, runAll .closed lateCalls .zero = (answers, ⟨0, 0, 2, 2⟩) ∧
      answers.map Answer.error? = lateErrors.map some ∧
      (unsorted.run .closed .zero).2 = .zero := by
  obtain ⟨answers, ⟨queries, counts, errors, executions⟩, run, -, isErrors, isExecutions, rfl, rfl,
    unrecorded⟩ := runAll_closed lateCalls .zero
  have isFirst : answers = (runAll .closed lateCalls .zero).1 := by rw [run]
  have failures : answers.map Answer.error? = lateErrors.map some := by
    rw [isFirst]
    decide +kernel
  have two : answers.countP Answer.isQueryError = 2 := by
    have counted : Answer.isQueryError = Option.any ExecutionError.isQuery ∘ Answer.error? := rfl
    rw [counted, ← List.countP_map, failures]
    rfl
  rw [two] at isErrors isExecutions
  cases isErrors
  cases isExecutions
  have notQuery : (unsorted.run .closed .zero).1.isQueryError = false := by decide +kernel
  exact ⟨answers, run, failures, unrecorded unsorted List.mem_cons_self .zero notQuery⟩

end Call

end Execution

end PlanCompiler
