/-
# Literal.Order -- what the comparison operators mean between literals

`compare?` orders two values of one kind: booleans false before true, texts by
code point, identifiers by their bytes, times chronologically.  Numbers of any
kinds are ordered by value: two integers exactly, otherwise as floats, where NaN
is comparable with nothing.  No other pair is ordered.

`equal?` is the operator `==`.  Null equals null and differs from everything
else.  Arrays of different lengths differ; otherwise the items decide, from the
left and only as far as the first pair that is not equal.  All other pairs are as
equal as their order says, and not comparable when they have none.
-/
import PlanCompiler.Literal.Basic

namespace PlanCompiler.Literal

set_option autoImplicit false

/-- A number, exact when it is an integer. -/
inductive Number
  | integer (value : Int)
  | real (value : Float)

namespace Number

/-- The nearest float. -/
def toFloat : Number → Float
  | .integer value => Float.ofInt value
  | .real value => value

end Number

def number? : Literal → Option Number
  | .int value => some (.integer value.toInt)
  | .uint value => some (.integer value.toNat)
  | .float value => some (.real value)
  | _ => none

def compareFloats? (a b : Float) : Option Ordering :=
  if a < b then some .lt
  else if a == b then some .eq
  else if b < a then some .gt
  else none

def compareNumbers? : Number → Number → Option Ordering
  | .integer a, .integer b => some (compare a b)
  | a, b => compareFloats? a.toFloat b.toFloat

def compare? : Literal → Literal → Option Ordering
  | .bool a, .bool b => some (compare a b)
  | .string a, .string b => some (compare a b)
  | .uuid a, .uuid b => some (a.compare b)
  | .dateTime a, .dateTime b => some (a.compare b)
  | .dateTimeOffset a, .dateTimeOffset b => some (a.compare b)
  | .date a, .date b => some (a.compare b)
  | .time a, .time b => some (a.compare b)
  | a, b => do compareNumbers? (← a.number?) (← b.number?)

mutual

def equal? : Literal → Literal → Option Bool
  | .null, .null => some true
  | .null, _ => some false
  | _, .null => some false
  | .array a, .array b => if a.length = b.length then equalItems? a b else some false
  | a, b => (compare? a b).map Ordering.isEq

def equalItems? : List Literal → List Literal → Option Bool
  | a :: as, b :: bs =>
    match equal? a b with
    | none => none
    | some false => some false
    | some true => equalItems? as bs
  | _, _ => some true

end

/-- Whether an array holds an item equal to the value. -/
def holds (items : List Literal) (value : Literal) : Bool :=
  items.any fun item => equal? item value == some true

end PlanCompiler.Literal
