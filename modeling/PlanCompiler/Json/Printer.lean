/-
# Json.Printer -- the text of a JSON value

Two layouts share their scalars: `compact` puts a value on one line without
blanks, and `pretty` gives each item and member its own line, indented by two
spaces per level, with nothing between the brackets of an empty container.  What
is unusable is written as null.

In a text only the quote, the backslash and the controls are escaped.  A float
has the fewest digits that read back; it is written positionally from `1e-5` up
to `1e16`, with `.0` when it is whole, and with an exponent outside.
-/
import PlanCompiler.Decimal.Shortest
import PlanCompiler.Json.Basic

namespace PlanCompiler.Json

set_option autoImplicit false

/-! ## Scalars -/

def escape (c : Char) : List Char :=
  match c.toNat with
  | 0x22 => ['\\', c]
  | 0x5c => ['\\', c]
  | 0x08 => ['\\', 'b']
  | 0x09 => ['\\', 't']
  | 0x0a => ['\\', 'n']
  | 0x0c => ['\\', 'f']
  | 0x0d => ['\\', 'r']
  | code =>
    if code < 0x20 then
      let digits := Nat.toDigits 16 code
      ['\\', 'u'] ++ List.replicate (4 - digits.length) '0' ++ digits
    else [c]

def quote (text : String) : String :=
  .ofList ('\x22' :: (text.toList.flatMap escape ++ ['\x22']))

/-- The shortest decimal, in the notation its size asks for. -/
def realText (x : Float) : String :=
  let b := Binary.ofFloat x
  let d := Decimal.shortest b
  let digits := Nat.toDigits 10 d.significand
  let point : Int := digits.length + d.exponent
  let magnitude : List Char :=
    if d.significand = 0 then ['0', '.', '0']
    else if 0 ≤ d.exponent ∧ point ≤ 16 then d.positional ++ ['.', '0']
    else if d.exponent < 0 ∧ -5 < point ∧ point ≤ 16 then d.positional
    else
      let fraction := digits.drop 1
      digits.take 1 ++ (if fraction.isEmpty then [] else '.' :: fraction)
        ++ 'e' :: (toString (point - 1)).toList
  .ofList (if b.negative then '-' :: magnitude else magnitude)

/-! ## Layouts -/

mutual

/-- The value on one line. -/
def compact : Json → String
  | .null | .unusable => "null"
  | .bool true => "true"
  | .bool false => "false"
  | .integer value => toString value
  | .real value => realText value
  | .string text => quote text
  | .array items => "[" ++ ",".intercalate (compactItems items) ++ "]"
  | .object members => "\x7b" ++ ",".intercalate (compactMembers members) ++ "\x7d"

def compactItems : List Json → List String
  | [] => []
  | item :: rest => item.compact :: compactItems rest

def compactMembers : List (String × Json) → List String
  | [] => []
  | (name, value) :: rest => (quote name ++ ":" ++ value.compact) :: compactMembers rest

end

/-- A line break and the indentation of a level. -/
def newline (level : Nat) : String :=
  .ofList ('\n' :: List.replicate (2 * level) ' ')

/-- The entries of a container, one to a line. -/
def block (opening closing : String) (level : Nat) : List String → String
  | [] => opening ++ closing
  | entries =>
    opening ++ newline (level + 1) ++ ("," ++ newline (level + 1)).intercalate entries
      ++ newline level ++ closing

mutual

/-- The value over several lines, standing at a level of indentation. -/
def prettyAt (level : Nat) : Json → String
  | .array items => block "[" "]" level (prettyItems (level + 1) items)
  | .object members => block "\x7b" "\x7d" level (prettyMembers (level + 1) members)
  | scalar => scalar.compact

def prettyItems (level : Nat) : List Json → List String
  | [] => []
  | item :: rest => item.prettyAt level :: prettyItems level rest

def prettyMembers (level : Nat) : List (String × Json) → List String
  | [] => []
  | (name, value) :: rest =>
    (quote name ++ ": " ++ value.prettyAt level) :: prettyMembers level rest

end

/-- The value over several lines. -/
def pretty (value : Json) : String :=
  value.prettyAt 0

end PlanCompiler.Json
