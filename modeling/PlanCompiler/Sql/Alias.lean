/-
# Sql.Alias -- a table alias that a text does not use

Aliases are `t0`, `t1`, ...  One is free when it does not occur between backticks
in the text, whatever the case of its letter.  A text of `n` characters has fewer
than `n` occurrences of anything quoted, so among the first `n + 1` aliases one is
free and the search needs no more fuel than the length of the text.
-/
import PlanCompiler.Text.Casing
import PlanCompiler.Text.Search

namespace PlanCompiler.Sql

set_option autoImplicit false

def tableAlias (index : Nat) : String :=
  "t" ++ toString index

/-- Whether the alias occurs, quoted, in a text in small letters. -/
def aliasTaken (text : List Char) (index : Nat) : Bool :=
  Text.occursIn ('\x60' :: (tableAlias index).toList ++ ['\x60']) text

/-- The first index from `index` on that is free, looking at no more than `fuel` of them. -/
def firstFreeAlias (text : List Char) : Nat → Nat → Nat
  | 0, index => index
  | fuel + 1, index =>
    if aliasTaken text index then firstFreeAlias text fuel (index + 1) else index

/-- The first alias that does not occur, quoted, in the text. -/
def uniqueTableAlias (sql : String) : String :=
  let text := Text.lower sql.toList
  tableAlias (firstFreeAlias text text.length 0)

end PlanCompiler.Sql
