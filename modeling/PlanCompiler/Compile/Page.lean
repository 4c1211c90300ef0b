/-
# Compile.Page -- skipping and taking rows

Skipping moves the window on: rows that were taken before count from where they
were, so fewer of them are left.  Counts stay within 64 bits; an offset that would
exceed them is as far as any row.
-/
import PlanCompiler.Sql.Clause

namespace PlanCompiler.Sql.Limit

set_option autoImplicit false

/-- The sum, or the largest count if it is larger. -/
def addCounts (a b : UInt64) : UInt64 :=
  .ofNat (min (a.toNat + b.toNat) (Nat.pow 2 64 - 1))

/-- The difference, or zero if it is negative. -/
def subtractCounts (a b : UInt64) : UInt64 :=
  .ofNat (a.toNat - b.toNat)

/-- Drop this many more rows. -/
def skip (count : UInt64) (limit : Limit) : Limit where
  offset := some (addCounts (limit.offset.getD 0) count)
  limit := limit.limit.map (subtractCounts · count)

/-- Keep at most this many rows. -/
def take (count : UInt64) (limit : Limit) : Limit :=
  { limit with limit := some ((limit.limit.map (min · count)).getD count) }

end PlanCompiler.Sql.Limit
