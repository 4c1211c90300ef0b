/-
# Execute.Metrics -- counters of executions
-/

namespace PlanCompiler

set_option autoImplicit false

structure Metrics where
  queries : Nat
  counts : Nat
  errors : Nat
  /-- How many executions have been timed. -/
  executions : Nat
deriving DecidableEq, Repr

namespace Metrics

def zero : Metrics := ⟨0, 0, 0, 0⟩

def recordQuery (metrics : Metrics) : Metrics :=
  { metrics with queries := metrics.queries + 1 }

def recordCount (metrics : Metrics) : Metrics :=
  { metrics with counts := metrics.counts + 1 }

def recordFailure (metrics : Metrics) : Metrics :=
  { metrics with errors := metrics.errors + 1 }

def recordTime (metrics : Metrics) : Metrics :=
  { metrics with executions := metrics.executions + 1 }

/-- A metric as it is exposed. -/
structure Sample where
  name : String
  help : String
  value : Nat
deriving DecidableEq, Repr

/-- All metrics by name. -/
def samples (metrics : Metrics) : List Sample := [
  ⟨"sql_queryable_count_total", "Total successful count queries.", metrics.counts⟩,
  ⟨"sql_queryable_error_total", "Total queries that failed in the database.", metrics.errors⟩,
  ⟨"sql_queryable_query_execution_time", "Time taken to execute a statement, in seconds.",
    metrics.executions⟩,
  ⟨"sql_queryable_query_total", "Total successful queries.", metrics.queries⟩]

end Metrics

/-- A registry holds each metric at most once. -/
abbrev Registry := Option Metrics

/-- Register the metrics, unless they are registered already. -/
def Registry.register? : Registry → Option Registry
  | none => some (some Metrics.zero)
  | some _ => none

end PlanCompiler
