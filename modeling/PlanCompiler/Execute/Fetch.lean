/-
# Execute.Fetch -- fetching rows and counting them

A query is fetched or counted on a pool of connections.  Once its values are bound a
connection is acquired, on which the headers run one after the other and then the
statement itself.  All of this is timed, whatever comes of it, and it is recorded as
an error when the pool or the database refuses it.  Rows that cannot be read are
reported without being recorded.

What a pool and a connection answer is left open.
-/
import PlanCompiler.Execute.Run

namespace PlanCompiler

set_option autoImplicit false

variable {Record Row Result : Type}

/-- A connection, by what it answers to a text with values.  This may depend on the texts that it
has been sent before. -/
structure Connection (Record : Type) where
  send (sent : List String) (sql : String) (values : List Literal) : Except String (List Record)

/-- Run the headers one after the other, and then the statement with its values. -/
def Connection.run (connection : Connection Record) (sql : String) (values : List Literal) :
    (sent headers : List String) → Except String (List Record)
  | sent, [] => connection.send sent sql values
  | sent, header :: rest => do
    let _ ← connection.send sent header []
    connection.run sql values (sent ++ [header]) rest

/-- What a pool answers to those who ask for a connection. -/
abbrev Acquisition (Record : Type) := Except String (Connection Record)

def Acquisition.closed : Acquisition Record := .error Execution.closedPool

namespace Execution

/-- A failure that shows the statement and its plan. -/
def failure (statement : Statement) (message inner : String) : ExecutionError :=
  .query message statement.finalSql statement.plan inner

/-- What a statement fetches on a connection of the pool. -/
def fetched (pool : Acquisition Record) (statement : Statement) (values : List Literal) :
    Except String (List Record) := do
  let connection ← pool
  connection.run (Placeholder.ofStatement statement).sql values [] statement.headerSql

/-- Execute a statement. -/
def execute (pool : Acquisition Record) (statement : Statement) (metrics : Metrics) :
    Except ExecutionError (List Record) × Metrics :=
  match boundValues statement with
  | .error e => (.error e, metrics)
  | .ok values =>
    match fetched pool statement values with
    | .error inner =>
      (.error (failure statement "Could not fetch rows" inner), metrics.recordTime.recordFailure)
    | .ok records => (.ok records, metrics.recordTime)

/-- How the records that a statement fetches are read. -/
abbrev Reader (Record Result : Type) := List Record → Except String Result

/-- Execute a compiled statement and read what it fetches, with what is said when that cannot be
read, and what is recorded when it can. -/
def perform (complaint : String) (record : Metrics → Metrics)
    (compiled : Except CompileError (Statement × Reader Record Result))
    (pool : Acquisition Record) (metrics : Metrics) : Except ExecutionError Result × Metrics :=
  match compiled with
  | .error e => (.error (.compilation e), metrics)
  | .ok (statement, read) =>
    match execute pool statement metrics with
    | (.error e, after) => (.error e, after)
    | (.ok records, after) =>
      match read records with
      | .error inner => (.error (failure statement complaint inner), after)
      | .ok result => (.ok result, record after)

end Execution

namespace Query

open Execution

/-- The statement that fetches the rows.  Every record is read as a row, which is then mutated. -/
def fetching (query : Query Row) (read : Record → Except String Row) :
    Except CompileError (Statement × Reader Record (List Row)) := do
  let (statement, transform) ← query.compile
  return (statement, fun records => do return (← records.mapM read).map transform.apply)

/-- The statement that counts the rows.  Their number is in the first record. -/
def counting (query : Query Row) (read : Record → Except String Int64) :
    Except CompileError (Statement × Reader Record Int64) := do
  let first : Reader Record Int64
    | [] => .ok 0
    | record :: _ => read record
  return (← query.compileCount, first)

/-- Fetch the rows of a query. -/
def fetch (query : Query Row) (read : Record → Except String Row) :
    Acquisition Record → Metrics → Except ExecutionError (List Row) × Metrics :=
  perform "Could not read the fetched rows" .recordQuery (query.fetching read)

/-- Count the rows of a query. -/
def count (query : Query Row) (read : Record → Except String Int64) :
    Acquisition Record → Metrics → Except ExecutionError Int64 × Metrics :=
  perform "Could not read the count" .recordCount (query.counting read)

end Query

/-! ## Sequences of calls -/

namespace Execution

/-- A call, with how the records of the database are read. -/
inductive Call (Record : Type) : Type 1
  | fetch {Row : Type} (query : Query Row) (read : Record → Except String Row)
  | count {Row : Type} (query : Query Row) (read : Record → Except String Int64)

/-- What a call is answered with. -/
inductive Answer : Type 1
  | rows {Row : Type} (rows : List Row)
  | number (count : Int64)
  | failed (error : ExecutionError)

namespace Answer

def ofResult (succeeded : Result → Answer) : Except ExecutionError Result → Answer
  | .ok result => succeeded result
  | .error e => .failed e

def error? : Answer → Option ExecutionError
  | .failed error => some error
  | _ => none

end Answer

namespace Call

def run (pool : Acquisition Record) (metrics : Metrics) : Call Record → Answer × Metrics
  | .fetch query read =>
    let (result, after) := query.fetch read pool metrics
    (.ofResult .rows result, after)
  | .count query read =>
    let (result, after) := query.count read pool metrics
    (.ofResult .number result, after)

/-- The answers to calls that are made one after the other, and the metrics after the last. -/
def runAll (pool : Acquisition Record) : List (Call Record) → Metrics → List Answer × Metrics
  | [], metrics => ([], metrics)
  | call :: rest, metrics =>
    let (answer, next) := call.run pool metrics
    let (answers, after) := runAll pool rest next
    (answer :: answers, after)

end Call

end Execution

end PlanCompiler
