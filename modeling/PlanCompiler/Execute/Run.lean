/-
# Execute.Run -- executing a query on a pool of connections

A query is compiled, its placeholders are made positional, and the values are
bound in the order of the placeholders.  Only then is a connection acquired and the
execution timed.  What the pool does after that is not described here except for a
pool that has been closed, which refuses every connection.
-/
import PlanCompiler.Execute.Metrics
import PlanCompiler.Execute.Placeholder

namespace PlanCompiler

set_option autoImplicit false

inductive ExecutionError
  | compilation (error : CompileError)
  | unboundParameter (name : String)
  | unsupportedParameter (name reason : String)
  | query (message sql plan inner : String)
deriving DecidableEq, Repr

namespace ExecutionError

def message : ExecutionError → String
  | .compilation error => error.message
  | .unboundParameter name =>
    "Parameter '" ++ name ++ "' is used by the statement but has no value."
  | .unsupportedParameter name reason => "Parameter '" ++ name ++ "' cannot be bound: " ++ reason
  | .query message sql plan inner =>
    message ++ "\n---Error in plan:\n" ++ plan ++ "\n---Generated query:\n" ++ sql
      ++ "\n---Inner error:\n" ++ inner

end ExecutionError

namespace Execution

/-- Why collections are not bound. -/
def collectionReason : String := "collections can only be bound as an IN list"

/-- The value to bind for a name. -/
def valueOf (statement : Statement) (name : String) : Except ExecutionError Literal :=
  match statement.parameter? name with
  | none => .error (.unboundParameter name)
  | some (.array _) => .error (.unsupportedParameter name collectionReason)
  | some value => .ok value

/-- The values to bind, in the order of the placeholders. -/
def boundValues (statement : Statement) : Except ExecutionError (List Literal) :=
  (Placeholder.ofStatement statement).names.mapM (valueOf statement)

/-- What a closed pool says.  Any other reason is repeated alike (`Call.runAll_refused`). -/
def closedPool : String := "attempted to acquire a connection on a closed pool"

/-- Execute a statement on a closed pool. -/
def onClosedPool (statement : Statement) (metrics : Metrics) : ExecutionError × Metrics :=
  match boundValues statement with
  | .error e => (e, metrics)
  | .ok _ =>
    (.query "Could not fetch rows" statement.finalSql statement.plan closedPool,
      metrics.recordTime.recordFailure)

end Execution

namespace Query

variable {Row : Type}

/-- Fetch the rows from a closed pool, which always fails. -/
def fetchFromClosedPool (query : Query Row) (metrics : Metrics) : ExecutionError × Metrics :=
  match query.compile with
  | .error e => (.compilation e, metrics)
  | .ok (statement, _) => Execution.onClosedPool statement metrics

/-- Count the rows on a closed pool, which always fails. -/
def countOnClosedPool (query : Query Row) (metrics : Metrics) : ExecutionError × Metrics :=
  match query.compileCount with
  | .error e => (.compilation e, metrics)
  | .ok statement => Execution.onClosedPool statement metrics

end Query

end PlanCompiler
