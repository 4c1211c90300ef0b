/-
# Json.Layout -- where a text stops being what was asked for

A text that is not JSON may go wrong before it breaks off: what was read by then
may already be a number where a text was asked for.  A layout says what was asked
for, and `Layout.trouble?` reads a text by its layout and tells where the first
trouble was noticed, be it with the layout or with JSON.

Most troubles are noticed at a place of their own.  A *general* trouble has none:
a member that is missing or given twice, or a value that is none of its forms.  It
is placed where the array or object around it would have been left.
-/
import PlanCompiler.Json.Reader

namespace PlanCompiler.Json

set_option autoImplicit false

inductive Layout
  | text
  | flag
  /-- An integer from 0 up to but not including a bound. -/
  | count (bound : Nat)
  | nullable (layout : Layout)
  | list (layout : Layout)
  | dictionary (layout : Layout)
  | keyword (names : List String)
  /-- An object with one member, a text under one of these names. -/
  | labelled (names : List String)
  /-- A value that is read as a whole before it is looked at. -/
  | whole (fits : Json → Bool)
  | record (members : List (String × Bool × Layout))

namespace Layout

open Reader (Failure skipSpace)

/-- What was unread when a trouble was noticed, and whether that is its place. -/
structure Trouble where
  unread : List Char
  placed : Bool

def placed {α : Type} (unread : List Char) : Except Trouble α :=
  .error ⟨unread, true⟩

def general {α : Type} (unread : List Char) : Except Trouble α :=
  .error ⟨unread, false⟩

def ofReader {α : Type} (result : Except Failure α) : Except Trouble α :=
  result.mapError fun failure => ⟨failure.unread, true⟩

/-! ## Scalars -/

/-- A text after its opening quote. -/
def quoted (unread : List Char) : Except Trouble (String × List Char) := do
  let (content, rest) ← ofReader (Reader.text .strict (Reader.fuelFor unread) (some []) unread)
  return (content.getD "", rest)

/-- The trouble with a value of the wrong kind: a scalar is read first, an array or object is not. -/
def mismatch {α : Type} (unread : List Char) : Except Trouble α :=
  match unread with
  | [] => placed []
  | c :: rest =>
    if c = '[' || c = '\x7b' then placed unread
    else if c = '\x22' then do placed (← quoted rest).2
    else do placed (← ofReader (Reader.value .strict (Reader.fuelFor unread) 1 unread)).2

/-- A text, asked for by name if there are names. -/
def textOf (names : Option (List String)) (unread : List Char) :
    Except Trouble (List Char) :=
  match skipSpace unread with
  | '\x22' :: rest => do
    let (content, rest) ← quoted rest
    if (names.map fun names => names.contains content).getD true then return rest
    else placed rest
  | rest => mismatch rest

def scalar (fits : Json → Bool) (starts : Char → Bool) (unread : List Char) :
    Except Trouble (List Char) :=
  match skipSpace unread with
  | [] => placed []
  | c :: rest =>
    if starts c then do
      let (value, after) ← ofReader (Reader.value .strict (Reader.fuelFor rest + 1) 1 (c :: rest))
      if fits value then return after else placed after
    else mismatch (c :: rest)

def isFlag : Json → Bool
  | .bool _ => true
  | _ => false

def isCount (bound : Nat) : Json → Bool
  | .integer value => 0 ≤ value && value < bound
  | _ => false

/-! ## Containers -/

/-- Leave an array or an object: a general trouble gets its place there, at the closing mark if
that is what follows. -/
def leaving (mark : Char) (result : Except Trouble (List Char)) : Except Trouble (List Char) :=
  match result with
  | .error ⟨unread, false⟩ =>
    match skipSpace unread with
    | ',' :: rest => if mark = ']' then placed (skipSpace rest) else placed (',' :: rest)
    | c :: rest => placed (if c = mark then rest else c :: rest)
    | [] => placed []
  | result => result

def colon (unread : List Char) : Except Trouble (List Char) :=
  match skipSpace unread with
  | ':' :: rest => return rest
  | rest => placed (rest.drop 1)

/-- The rest of an object after its only member. -/
def closeSingle (unread : List Char) : Except Trouble (List Char) :=
  match skipSpace unread with
  | '\x7d' :: rest => return rest
  | rest => placed rest

/-- The next item of an array, none at its end. -/
def nextItem (first : Bool) (unread : List Char) : Except Trouble (Option (List Char)) :=
  match skipSpace unread with
  | ']' :: _ => return none
  | rest =>
    if first then if rest.isEmpty then placed [] else return some rest
    else
      match rest with
      | ',' :: rest =>
        match skipSpace rest with
        | ']' :: rest => placed rest
        | [] => placed []
        | rest => return some rest
      | rest => placed (rest.drop 1)

/-- The name of the next member of an object, none at its end. -/
def nextName (first : Bool) (unread : List Char) :
    Except Trouble (Option (String × List Char)) :=
  match skipSpace unread with
  | '\x7d' :: _ => return none
  | rest =>
    let start : Except Trouble (List Char) :=
      if first then return rest
      else
        match rest with
        | ',' :: rest => return skipSpace rest
        | rest => placed (rest.drop 1)
    do
      match ← start with
      | '\x22' :: rest => return some (← quoted rest)
      | rest => placed (rest.drop 1)

/-- An array or object at which others may still nest `depth` deep, after its opening mark. -/
def opened (depth : Nat) (rest : List Char) (mark : Char)
    (inner : Except Trouble (List Char)) : Except Trouble (List Char) :=
  if depth = 0 then placed rest
  else
    match leaving mark inner with
    | .error trouble => .error trouble
    | .ok unread =>
      match skipSpace unread with
      | ',' :: rest => placed ((if mark = ']' then skipSpace rest else ',' :: rest).drop 1)
      | c :: rest => if c = mark then return rest else placed rest
      | [] => placed []

mutual

/-- What is unread after a value of this layout. -/
def check : Nat → Nat → Layout → List Char → Except Trouble (List Char)
  | 0, _, _, unread => placed unread
  | fuel + 1, depth, layout, unread =>
    match layout with
    | .text => textOf none unread
    | .flag => scalar isFlag (fun c => c = 't' || c = 'f') unread
    | .count bound => scalar (isCount bound) (fun c => c = '-' || c.isDigit) unread
    | .nullable layout =>
      match skipSpace unread with
      | 'n' :: rest => do return (← ofReader (Reader.word .null ['u', 'l', 'l'] rest)).2
      | rest => check fuel depth layout rest
    | .list layout =>
      match skipSpace unread with
      | '[' :: rest => opened depth rest ']' (checkItems fuel (depth - 1) layout true rest)
      | rest => mismatch rest
    | .dictionary layout =>
      match skipSpace unread with
      | '\x7b' :: rest => opened depth rest '\x7d' (checkEntries fuel (depth - 1) layout true rest)
      | rest => mismatch rest
    | .keyword names =>
      match skipSpace unread with
      | '\x22' :: rest => textOf (some names) ('\x22' :: rest)
      | '\x7b' :: rest => do
        if depth = 0 then placed rest
        else
          let rest ← colon (← textOf (some names) rest)
          closeSingle (← scalar (fun _ => true) (fun c => c = 'n') rest)
      | rest => placed (rest.drop 1)
    | .labelled names =>
      match skipSpace unread with
      | '\x22' :: rest => do general (← textOf (some names) ('\x22' :: rest))
      | '\x7b' :: rest => do
        if depth = 0 then placed rest
        else closeSingle (← textOf none (← colon (← textOf (some names) rest)))
      | rest => placed (rest.drop 1)
    | .whole fits => do
      let (value, rest) ← ofReader (Reader.value .strict (Reader.fuelFor unread) depth unread)
      if fits value then return rest else general rest
    | .record members =>
      match skipSpace unread with
      | '\x7b' :: rest =>
        opened depth rest '\x7d' (checkMembers fuel (depth - 1) members [] true rest)
      | '[' :: rest => opened depth rest ']' (checkInOrder fuel (depth - 1) members true rest)
      | rest => mismatch rest

def checkItems : Nat → Nat → Layout → Bool → List Char → Except Trouble (List Char)
  | 0, _, _, _, unread => placed unread
  | fuel + 1, depth, layout, first, unread => do
    match ← nextItem first unread with
    | none => return unread
    | some rest => checkItems fuel depth layout false (← check fuel depth layout rest)

def checkEntries : Nat → Nat → Layout → Bool → List Char → Except Trouble (List Char)
  | 0, _, _, _, unread => placed unread
  | fuel + 1, depth, layout, first, unread => do
    match ← nextName first unread with
    | none => return unread
    | some (_, rest) =>
      checkEntries fuel depth layout false (← check fuel depth layout (← colon rest))

/-- The members of a record, `seen` being the names of those given so far. -/
def checkMembers : Nat → Nat → List (String × Bool × Layout) → List String → Bool → List Char →
    Except Trouble (List Char)
  | 0, _, _, _, _, unread => placed unread
  | fuel + 1, depth, members, seen, first, unread => do
    match ← nextName first unread with
    | none =>
      if members.all fun (name, required, _) => !required || seen.contains name then return unread
      else general unread
    | some (name, rest) =>
      match members.lookup name with
      | none =>
        let rest ← colon rest
        let (_, rest) ← ofReader (Reader.value .lenient (Reader.fuelFor rest) 1 rest)
        checkMembers fuel depth members seen false rest
      | some (_, layout) =>
        if seen.contains name then general rest
        else
          checkMembers fuel depth members (name :: seen) false
            (← check fuel depth layout (← colon rest))

/-- The members of a record that is written as an array. -/
def checkInOrder : Nat → Nat → List (String × Bool × Layout) → Bool → List Char →
    Except Trouble (List Char)
  | 0, _, _, _, unread => placed unread
  | _, _, [], _, unread => return unread
  | fuel + 1, depth, (_, required, layout) :: members, first, unread => do
    match ← nextItem first unread with
    | none =>
      if required || members.any (·.2.1) then general unread else return unread
    | some rest => checkInOrder fuel depth members false (← check fuel depth layout rest)

end

/-- The line on which the first trouble is noticed in a text that was to have this layout. -/
def trouble? (layout : Layout) (text : String) : Option SyntaxError :=
  let chars := text.toList
  match check (Reader.fuelFor chars) maxDepth layout chars with
  | .error trouble => some (.at chars trouble.unread)
  | .ok rest =>
    match skipSpace rest with
    | [] => none
    | _ :: rest => some (.at chars rest)

end Layout

end PlanCompiler.Json
