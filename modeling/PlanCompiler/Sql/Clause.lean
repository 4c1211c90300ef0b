/-
# Sql.Clause -- the clauses that are put around a base query

Each clause lists its pieces; a clause with nothing to say has none.
-/
import PlanCompiler.Direction
import PlanCompiler.Sql.Expression

namespace PlanCompiler.Sql

set_option autoImplicit false

/-- Texts of the caller, each after a space. -/
def trailing (texts : List String) : List Piece :=
  texts.flatMap fun text => [.words " ", .verbatim text]

/-! ## Select list -/

/-- `SELECT expression AS alias, ...`, and everything when nothing is listed. -/
structure SelectList where
  columns : List (String × Expression)
  after : List String

def SelectList.pieces (list : SelectList) : List Piece :=
  let items := list.columns.map fun (label, e) => e.pieces ++ [.words " AS ", .name label]
  .words "SELECT " :: (if items.isEmpty then [.words "*"] else separated (.words ", ") items)
    ++ trailing list.after

/-! ## Conditions -/

inductive FilterClause
  | where
  | having
deriving DecidableEq, Repr

def FilterClause.word : FilterClause → String
  | .where => "WHERE "
  | .having => "HAVING "

/-- Conditions that must all hold. -/
structure Filter where
  clause : FilterClause
  conditions : List Expression

def Filter.pieces (filter : Filter) : List Piece :=
  if filter.conditions.isEmpty then []
  else .words filter.clause.word ::
    separated (.words " AND ") (filter.conditions.map Expression.pieces)

/-! ## Order -/

def orderByPieces (keys : List (Expression × Direction)) : List Piece :=
  if keys.isEmpty then []
  else .words "ORDER BY " ::
    separated (.words ", ") (keys.map fun (e, d) => e.pieces ++ [.words (" " ++ d.keyword)])

/-! ## Pages -/

/-- How many rows to keep, and how many to drop before them. -/
structure Limit where
  limit : Option UInt64
  offset : Option UInt64
deriving DecidableEq, Repr

namespace Limit

def none : Limit := ⟨.none, .none⟩

/-- The largest limit, which stands for no limit where an offset needs one. -/
def maxRows : UInt64 := .ofNat (Nat.pow 2 64 - 1)

def numeral (n : UInt64) : Piece := .words (toString n.toNat)

def pieces (limit : Limit) : List Piece :=
  match limit.limit, limit.offset.filter (0 < ·) with
  | .none, .none => []
  | some rows, .none => [.words "LIMIT ", numeral rows]
  | rows, some offset =>
    [.words "LIMIT ", numeral (rows.getD maxRows), .words " OFFSET ", numeral offset]

end Limit

/-! ## A statement around a statement -/

inductive OuterList
  | columns (names : List String)
  | countStar

/-- `SELECT columns FROM (inner) AS alias`. -/
structure OuterSelect where
  list : OuterList
  after : List String
  inner : String
  table : String

def OuterSelect.pieces (select : OuterSelect) : List Piece :=
  let list := match select.list with
    | .columns names =>
      separated (.words ", ") (names.map fun name => [.name select.table, .words ".", .name name])
    | .countStar => [.words "COUNT(*)"]
  .words "SELECT " :: list ++ trailing select.after
    ++ [.words " FROM (", .verbatim select.inner, .words ") AS ", .name select.table]

end PlanCompiler.Sql
