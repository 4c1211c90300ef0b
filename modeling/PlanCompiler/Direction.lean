/-
# Direction -- which end of an order comes first
-/

namespace PlanCompiler

set_option autoImplicit false

inductive Direction
  | ascending
  | descending
deriving DecidableEq, Repr

namespace Direction

/-- The word that plans and SQL have for it. -/
def keyword : Direction → String
  | .ascending => "ASC"
  | .descending => "DESC"

def spellings : List (String × Direction) := [("asc", .ascending), ("desc", .descending)]

def spelling : Direction → String
  | .ascending => "asc"
  | .descending => "desc"

theorem spelling_read (d : Direction) : spellings.lookup d.spelling = some d := by
  cases d <;> rfl

end Direction

end PlanCompiler
