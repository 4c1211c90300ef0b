/-
# NativeQuery.Command -- SQL of the caller at fixed places of the statement
-/
import PlanCompiler.Json.Record

namespace PlanCompiler

set_option autoImplicit false

inductive Region
  /-- Before the statement, as a statement of its own. -/
  | header
  /-- Before the `HAVING` clause or whatever comes next, usually a `GROUP BY`. -/
  | beforeGroupingOrHaving
  /-- After the generated select list. -/
  | afterSelectionColumns
deriving DecidableEq, Repr

structure Command where
  region : Region
  sql : String
deriving DecidableEq, Repr

namespace Region

def spellings : List (String × Region) := [
  ("header", .header),
  ("before_grouping_or_having", .beforeGroupingOrHaving),
  ("after_selection_columns", .afterSelectionColumns)]

def spelling : Region → String
  | .header => "header"
  | .beforeGroupingOrHaving => "before_grouping_or_having"
  | .afterSelectionColumns => "after_selection_columns"

theorem spelling_read (region : Region) : spellings.lookup region.spelling = some region := by
  cases region <;> rfl

end Region

namespace Command

def toJson (command : Command) : Json :=
  .object [("region", .string command.region.spelling), ("sql", .string command.sql)]

def ofJson? (json : Json) : Option Command := do
  let record ← json.record? ["region", "sql"]
  some {
    region := ← record.required "region" (Json.keyword? .outside Region.spellings)
    sql := ← record.required "sql" Json.string? }

/-- The texts of the commands of one region, in order. -/
def inRegion (region : Region) (commands : List Command) : List String :=
  (commands.filter (·.region == region)).map (·.sql)

end Command

end PlanCompiler
