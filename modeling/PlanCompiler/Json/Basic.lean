/-
# Json.Basic -- JSON values

The members of an object keep the order and the repetitions of the text they came
from.  A number is an integer when it is written without point and exponent and
fits 64 bits, signed or unsigned; every other number is a float, and so is `-0`.

A text can follow the grammar and still hold parts that stand for no value: a
number beyond the largest float, a text with half of a surrogate pair, an object
with such a name, or what is nested too deep.  Such a part is `unusable`.  It does
no harm where nobody looks at it.
-/

namespace PlanCompiler

set_option autoImplicit false

inductive Json
  | null
  | bool (value : Bool)
  | integer (value : Int)
  | real (value : Float)
  | string (text : String)
  | array (items : List Json)
  | object (members : List (String × Json))
  | unusable

namespace Json

/-- The integers that are kept as such: those of 64 bits, signed or unsigned. -/
def IsInteger (value : Int) : Prop :=
  -Nat.pow 2 63 ≤ value ∧ value < Nat.pow 2 64

instance (value : Int) : Decidable (IsInteger value) :=
  inferInstanceAs (Decidable (_ ∧ _))

mutual

/-- How deep arrays and objects are nested, 0 for a value that is neither. -/
def depth : Json → Nat
  | .array items => depthOfItems items + 1
  | .object members => depthOfMembers members + 1
  | _ => 0

def depthOfItems : List Json → Nat
  | [] => 0
  | item :: rest => max (depth item) (depthOfItems rest)

def depthOfMembers : List (String × Json) → Nat
  | [] => 0
  | (_, value) :: rest => max (depth value) (depthOfMembers rest)

end

/-- The deepest nesting at which arrays and objects are usable. -/
def maxDepth : Nat := 127

mutual

/-- Whether every part of the value is usable. -/
def isUsable : Json → Bool
  | .unusable => false
  | .array items => areUsable items
  | .object members => membersAreUsable members
  | _ => true

def areUsable : List Json → Bool
  | [] => true
  | item :: rest => isUsable item && areUsable rest

def membersAreUsable : List (String × Json) → Bool
  | [] => true
  | (_, value) :: rest => isUsable value && membersAreUsable rest

end

/-- The value of the last member with this name. -/
def member? (name : String) : Json → Option Json
  | .object members => members.reverse.lookup name
  | _ => none

end Json

end PlanCompiler
