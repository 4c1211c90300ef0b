/-
# Literal.Basic -- values written in a plan or bound to a parameter

A literal is null, a scalar of one of ten kinds, or an array of literals.  Signed
and unsigned integers are different kinds, of 64 bits each.

`same` is the equality of literals as written, kind by kind: an `int` is never
the same as a `uint`.  Floats are compared as numbers and zoned times as instants,
so it is coarser than `=` on those two and nowhere else.  What the operator `==`
of a plan means is another matter (`Literal.Order`).
-/
import PlanCompiler.Calendar.Time
import PlanCompiler.ScalarType
import PlanCompiler.Uuid

namespace PlanCompiler

set_option autoImplicit false

inductive Literal
  | null
  | bool (value : Bool)
  | int (value : Int64)
  | uint (value : UInt64)
  | float (value : Float)
  | string (text : String)
  | uuid (value : Uuid)
  | dateTime (value : DateTime)
  | dateTimeOffset (value : ZonedDateTime)
  | date (value : Date)
  | time (value : TimeOfDay)
  | array (items : List Literal)

namespace Literal

instance : Inhabited Literal := ⟨.null⟩

def isNull : Literal → Bool
  | .null => true
  | _ => false

/-- The kind of the value, none for null. -/
def scalarType? : Literal → Option ScalarType
  | .null => none
  | .bool _ => some .boolean
  | .int _ => some .integer
  | .uint _ => some .unsignedInteger
  | .float _ => some .float
  | .string _ => some .string
  | .uuid _ => some .uuid
  | .dateTime _ => some .dateTime
  | .dateTimeOffset _ => some .dateTimeOffset
  | .date _ => some .date
  | .time _ => some .time
  | .array _ => some .array

/-! ## Sameness -/

mutual

/-- Whether two literals are written alike. -/
def same : Literal → Literal → Bool
  | .null, .null => true
  | .bool a, .bool b => a == b
  | .int a, .int b => a == b
  | .uint a, .uint b => a == b
  | .float a, .float b => a == b
  | .string a, .string b => a == b
  | .uuid a, .uuid b => a = b
  | .dateTime a, .dateTime b => a = b
  | .dateTimeOffset a, .dateTimeOffset b => a.same b
  | .date a, .date b => a = b
  | .time a, .time b => a = b
  | .array a, .array b => sameItems a b
  | _, _ => false

def sameItems : List Literal → List Literal → Bool
  | [], [] => true
  | a :: as, b :: bs => same a b && sameItems as bs
  | _, _ => false

end

/-! ## Integers that fit -/

/-- The signed literal of an integer, if it fits 64 bits. -/
def ofInt? (value : Int) : Option Literal :=
  if -Nat.pow 2 63 ≤ value ∧ value < Nat.pow 2 63 then some (.int (.ofInt value)) else none

/-- The unsigned literal of an integer, if it fits 64 bits. -/
def ofUInt? (value : Int) : Option Literal :=
  if 0 ≤ value ∧ value < Nat.pow 2 64 then some (.uint (.ofNat value.toNat)) else none

end Literal

end PlanCompiler
