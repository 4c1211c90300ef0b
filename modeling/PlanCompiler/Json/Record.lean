/-
# Json.Record -- records, choices and keywords in JSON

The shapes the domain's values take in JSON:

* a *record* is an object with named members, or an array of their values in the
  order in which the record declares them; members it does not declare are
  ignored, and none it declares may be given twice;
* a *choice* is a record whose `type` says which of several records it is;
* a *keyword* is a text out of a fixed list, or an object with that one member
  holding null.

A choice has to be usable in all its parts, whatever they are.  What stands inside
one may be spelled in two more ways: the kind of a choice by its number, and the
null of a keyword as an empty object.

Reading answers `none` for whatever does not fit.  A member may be *required*,
*defaulted* (absent means the default) or *optional* (absent and null mean none).
-/
import PlanCompiler.Dictionary
import PlanCompiler.Json.Basic

namespace PlanCompiler.Json

set_option autoImplicit false

/-- The members of a record that were given. -/
abbrev Record := List (String × Json)

/-- Read a value as the record that declares these names. -/
def record? (names : List String) : Json → Option Record
  | .object members =>
    let known := members.filter fun (name, _) => names.contains name
    if (known.map (·.1)).Nodup then some known else none
  | .array values => if values.length ≤ names.length then some (names.zip values) else none
  | _ => none

/-- Where a value stands. -/
inductive Place
  | outside
  | insideChoice
deriving DecidableEq, Repr

/-- One of several kinds, named or, inside a choice, numbered. -/
def kind? (place : Place) (kinds : List String) : Json → Option String
  | .string name => if kinds.contains name then some name else none
  | .integer number => if place = .insideChoice ∧ 0 ≤ number then kinds[number.toNat]? else none
  | _ => none

/-- The kind of a choice and what remains of its record. -/
def choice? (place : Place) (kinds : List String) : Json → Option (String × Json)
  | .object members =>
    match members.filter (·.1 == "type") with
    | [(_, kind)] => do
      some (← kind? place kinds kind, .object (members.filter (·.1 != "type")))
    | _ => none
  | .array (kind :: values) => do some (← kind? place kinds kind, .array values)
  | _ => none

/-- Read a value of which every part has to be usable. -/
def whole? {α : Type} (read : Json → Option α) (json : Json) : Option α :=
  if json.isUsable then read json else none

namespace Record

variable {α : Type}

def required (record : Record) (name : String) (read : Json → Option α) : Option α :=
  (record.lookup name).bind read

def defaulted (record : Record) (name : String) (default : α) (read : Json → Option α) :
    Option α :=
  match record.lookup name with
  | none => some default
  | some value => read value

def optional (record : Record) (name : String) (read : Json → Option α) : Option (Option α) :=
  match record.lookup name with
  | none | some .null => some none
  | some value => (read value).map some

end Record

/-! ## Scalars and collections -/

def bool? : Json → Option Bool
  | .bool value => some value
  | _ => none

def string? : Json → Option String
  | .string text => some text
  | _ => none

/-- An integer from `low` up to but not including `high`. -/
def integerIn? (low high : Int) : Json → Option Int
  | .integer value => if low ≤ value ∧ value < high then some value else none
  | _ => none

def int64? (value : Json) : Option Int64 :=
  (integerIn? (-Nat.pow 2 63) (Nat.pow 2 63) value).map Int64.ofInt

def uint64? (value : Json) : Option UInt64 :=
  (integerIn? 0 (Nat.pow 2 64) value).map fun n => UInt64.ofNat n.toNat

def uint32? (value : Json) : Option UInt32 :=
  (integerIn? 0 (Nat.pow 2 32) value).map fun n => UInt32.ofNat n.toNat

/-- A float, or an integer rounded to the nearest one. -/
def real? : Json → Option Float
  | .real value => some value
  | .integer value => some (Float.ofInt value)
  | _ => none

def nullable? {α : Type} (read : Json → Option α) : Json → Option (Option α)
  | .null => some none
  | value => (read value).map some

def list? {α : Type} (read : Json → Option α) : Json → Option (List α)
  | .array items => items.mapM read
  | _ => none

/-- A pair is an array of two. -/
def pair? {α β : Type} (readFirst : Json → Option α) (readSecond : Json → Option β) :
    Json → Option (α × β)
  | .array [first, second] => do some (← readFirst first, ← readSecond second)
  | _ => none

/-- The entries of an object. -/
def dictionary? {α : Type} (read : Json → Option α) : Json → Option (Dictionary α)
  | .object members => do
    some (.ofList (← members.mapM fun (name, value) => do some (name, ← read value)))
  | _ => none

/-- Read a keyword through its list of spellings. -/
def keyword? {α : Type} (place : Place) (spellings : List (String × α)) : Json → Option α
  | .string text => spellings.lookup text
  | .object [(text, .null)] => spellings.lookup text
  | .object [(text, .object [])] =>
    if place = .insideChoice then spellings.lookup text else none
  | _ => none

/-! ## Writing -/

/-- A member that is left out when there is nothing to write. -/
def memberIf (given : Bool) (name : String) (value : Json) : List (String × Json) :=
  if given then [(name, value)] else []

/-- A member that is left out when there is no value. -/
def memberOf {α : Type} (name : String) (write : α → Json) : Option α → List (String × Json)
  | none => []
  | some value => [(name, write value)]

def ofDictionary {α : Type} (write : α → Json) (values : Dictionary α) : Json :=
  .object (values.entries.map fun (name, value) => (name, write value))

def ofOption {α : Type} (write : α → Json) : Option α → Json
  | none => .null
  | some value => write value

end PlanCompiler.Json
