/-
# Json.Reader -- JSON values from text

The reader follows the grammar strictly: no leading zeros, no trailing commas, no
raw controls in texts, and nothing but blanks after the value.

What follows the grammar and stands for no value is met in one of two ways.  A
*lenient* reader takes note of it (`Json.unusable`) and goes on; a *strict* one
fails there.  Such are numbers beyond the largest float, texts with a surrogate
that has no partner, and arrays and objects nested more than `Json.maxDepth` deep.

A failure keeps the text that was still unread when it was noticed, which is
enough to say on which line that was (`SyntaxError.line`).  The fuel of the
recursion is the length of the text: every step reads at least one character.
-/
import PlanCompiler.Json.Number

namespace PlanCompiler.Json.Reader

set_option autoImplicit false

/-- What was unread when the text was found not to be JSON. -/
structure Failure where
  unread : List Char

/-- How to meet what stands for no value. -/
inductive Mode
  | lenient
  | strict
deriving DecidableEq, Repr

def isSpace (c : Char) : Bool :=
  c = ' ' || c = '\n' || c = '\t' || c = '\r'

def skipSpace (text : List Char) : List Char :=
  text.dropWhile isSpace

/-- The failure noticed at the first character of the text, which counts as read. -/
def unexpected {α : Type} (text : List Char) : Except Failure α :=
  .error ⟨text.drop 1⟩

/-! ## Words -/

/-- The rest of a word, letter by letter. -/
def word (value : Json) : List Char → List Char → Except Failure (Json × List Char)
  | [], text => .ok (value, text)
  | _ :: _, [] => .error ⟨[]⟩
  | c :: expected, d :: text => if c = d then word value expected text else .error ⟨text⟩

/-! ## Numbers -/

/-- The exponent of a number, after its `e`. -/
def exponent (text : List Char) : Except Failure (Int × List Char) :=
  let (negative, text) := match text with
    | '+' :: rest => (false, rest)
    | '-' :: rest => (true, rest)
    | rest => (false, rest)
  let digits := text.takeWhile Char.isDigit
  if digits.isEmpty then unexpected text
  else
    let size : Int := Nat.ofDigitChars 10 digits 0
    .ok (if negative then -size else size, text.drop digits.length)

/-- What follows the digits of a number: its exponent, if it has one. -/
def exponent? (text : List Char) : Except Failure (Option Int × List Char) :=
  match text with
  | 'e' :: rest | 'E' :: rest => do
    let (size, rest) ← exponent rest
    .ok (some size, rest)
  | rest => .ok (none, rest)

/-- A number after its sign. -/
def numeral (negative : Bool) (text : List Char) : Except Failure (Numeral × List Char) :=
  let whole := text.takeWhile Char.isDigit
  let rest := text.drop whole.length
  if whole.isEmpty then unexpected text
  else if whole.head? = some '0' && whole.length ≠ 1 then unexpected (text.drop 1)
  else
    match rest with
    | '.' :: rest =>
      let fraction := rest.takeWhile Char.isDigit
      if fraction.isEmpty then unexpected rest
      else do
        let (size, rest) ← exponent? (rest.drop fraction.length)
        .ok (⟨negative, whole, some fraction, size⟩, rest)
    | rest => do
      let (size, rest) ← exponent? rest
      .ok (⟨negative, whole, none, size⟩, rest)

def number (mode : Mode) (negative : Bool) (text : List Char) :
    Except Failure (Json × List Char) := do
  let (n, rest) ← numeral negative text
  let value := n.value
  if mode = .strict && !value.isUsable then .error ⟨rest⟩ else .ok (value, rest)

/-! ## Texts -/

def hexValue? (c : Char) : Option Nat :=
  if '0' ≤ c ∧ c ≤ '9' then some (c.toNat - '0'.toNat)
  else if 'a' ≤ c ∧ c ≤ 'f' then some (c.toNat - 'a'.toNat + 10)
  else if 'A' ≤ c ∧ c ≤ 'F' then some (c.toNat - 'A'.toNat + 10)
  else none

/-- The text without the characters that hold its first bytes, none if it has fewer. -/
def dropBytes? : Nat → List Char → Option (List Char)
  | 0, text => some text
  | _ + 1, [] => none
  | size + 1, c :: rest => dropBytes? (size + 1 - c.utf8Size) rest
termination_by _ text => text.length

/-- Four hexadecimal digits.  Whatever stands there, four bytes of it are read. -/
def hexUnit (text : List Char) : Except Failure (Nat × List Char) :=
  match dropBytes? 4 text with
  | none => .error ⟨[]⟩
  | some rest =>
    match (text.take 4).mapM hexValue? with
    | some values => .ok (values.foldl (fun n v => n * 16 + v) 0, text.drop 4)
    | none => .error ⟨rest⟩

def isLeadingSurrogate (unit : Nat) : Bool :=
  0xd800 ≤ unit && unit ≤ 0xdbff

def isTrailingSurrogate (unit : Nat) : Bool :=
  0xdc00 ≤ unit && unit ≤ 0xdfff

/-- The character of two surrogates. -/
def pairedSurrogates (leading trailing : Nat) : Char :=
  .ofNat (0x10000 + (leading - 0xd800) * 0x400 + (trailing - 0xdc00))

/-- Where a strict reader notices that a leading surrogate has no partner. -/
def unpaired : List Char → List Char
  | '\\' :: rest => rest.drop 1
  | rest => rest.drop 1

/-- The character of an escape, after its `\u`, or none for a surrogate without partner. -/
def unicodeEscape (mode : Mode) (text : List Char) :
    Except Failure (Option Char × List Char) := do
  let (unit, rest) ← hexUnit text
  let alone (noticed : List Char) : Except Failure (Option Char × List Char) :=
    if mode = .strict then .error ⟨noticed⟩ else .ok (none, rest)
  if isTrailingSurrogate unit then alone rest
  else if isLeadingSurrogate unit then
    match rest with
    | '\\' :: 'u' :: after =>
      match hexUnit after with
      | .error failure => .error failure
      | .ok (low, after) =>
        if isTrailingSurrogate low then .ok (some (pairedSurrogates unit low), after)
        else alone after
    | _ => alone (unpaired rest)
  else .ok (some (.ofNat unit), rest)

/-- One escaped character, after its backslash. -/
def escape (mode : Mode) : List Char → Except Failure (Option Char × List Char)
  | [] => .error ⟨[]⟩
  | c :: rest =>
    match c with
    | '\x22' => .ok (some '\x22', rest)
    | '\\' => .ok (some '\\', rest)
    | '/' => .ok (some '/', rest)
    | 'b' => .ok (some '\x08', rest)
    | 'f' => .ok (some '\x0c', rest)
    | 'n' => .ok (some '\n', rest)
    | 'r' => .ok (some '\r', rest)
    | 't' => .ok (some '\t', rest)
    | 'u' => unicodeEscape mode rest
    | _ => .error ⟨rest⟩

/-- A text after its opening quote, none if it is unusable; `read` holds what it contains so far,
last character first. -/
def text (mode : Mode) :
    Nat → Option (List Char) → List Char → Except Failure (Option String × List Char)
  | 0, _, unread => .error ⟨unread⟩
  | _ + 1, _, [] => .error ⟨[]⟩
  | fuel + 1, read, c :: rest =>
    if c = '\x22' then .ok (read.map fun chars => .ofList chars.reverse, rest)
    else if c = '\\' then do
      let (escaped, rest) ← escape mode rest
      text mode fuel (do some ((← escaped) :: (← read))) rest
    else if c.toNat < 0x20 then .error ⟨rest⟩
    else text mode fuel (read.map (c :: ·)) rest

/-! ## Values -/

/-- The items of an array, last one first. -/
abbrev Items := List Json

/-- The members of an object, last one first, none if a name among them is unusable. -/
abbrev Members := Option (List (String × Json))

/-- An array or an object that is read as `result`, where it may still nest `depth` deep. -/
def container (mode : Mode) (depth : Nat) (rest : List Char)
    (result : Except Failure (Json × List Char)) : Except Failure (Json × List Char) :=
  if depth ≠ 0 then result
  else if mode = .strict then .error ⟨rest⟩
  else result.map fun (_, rest) => (.unusable, rest)

mutual

/-- A value at which arrays and objects may nest `depth` deep. -/
def value (mode : Mode) : Nat → Nat → List Char → Except Failure (Json × List Char)
  | 0, _, unread => .error ⟨unread⟩
  | fuel + 1, depth, unread =>
    match skipSpace unread with
    | [] => .error ⟨[]⟩
    | c :: rest =>
      match c with
      | 'n' => word .null ['u', 'l', 'l'] rest
      | 't' => word (.bool true) ['r', 'u', 'e'] rest
      | 'f' => word (.bool false) ['a', 'l', 's', 'e'] rest
      | '-' => number mode true rest
      | '\x22' => do
        let (content, rest) ← text mode fuel (some []) rest
        .ok ((content.map Json.string).getD .unusable, rest)
      | '[' => container mode depth rest (items mode fuel (depth - 1) [] rest)
      | '\x7b' => container mode depth rest (members mode fuel (depth - 1) (some []) true rest)
      | _ => if c.isDigit then number mode false (c :: rest) else .error ⟨rest⟩

/-- The items of an array and its closing bracket. -/
def items (mode : Mode) :
    Nat → Nat → Items → List Char → Except Failure (Json × List Char)
  | 0, _, _, unread => .error ⟨unread⟩
  | fuel + 1, depth, read, unread =>
    match skipSpace unread with
    | ']' :: rest => .ok (.array read.reverse, rest)
    | ',' :: rest =>
      if read.isEmpty then .error ⟨rest⟩
      else
        match skipSpace rest with
        | ']' :: rest => .error ⟨rest⟩
        | rest => do
          let (item, rest) ← value mode fuel depth rest
          items mode fuel depth (item :: read) rest
    | rest =>
      if read.isEmpty then do
        let (item, rest) ← value mode fuel depth rest
        items mode fuel depth (item :: read) rest
      else unexpected rest

/-- The members of an object and its closing brace, `first` saying that none has been read. -/
def members (mode : Mode) :
    Nat → Nat → Members → Bool → List Char → Except Failure (Json × List Char)
  | 0, _, _, _, unread => .error ⟨unread⟩
  | fuel + 1, depth, read, first, unread =>
    match skipSpace unread with
    | '\x7d' :: rest => .ok ((read.map fun all => .object all.reverse).getD .unusable, rest)
    | ',' :: rest => if first then .error ⟨rest⟩ else member mode fuel depth read rest
    | rest => if first then member mode fuel depth read rest else unexpected rest

/-- One member and those after it. -/
def member (mode : Mode) :
    Nat → Nat → Members → List Char → Except Failure (Json × List Char)
  | 0, _, _, unread => .error ⟨unread⟩
  | fuel + 1, depth, read, unread =>
    match skipSpace unread with
    | '\x22' :: rest => do
      let (name, rest) ← text mode fuel (some []) rest
      match skipSpace rest with
      | ':' :: rest => do
        let (content, rest) ← value mode fuel depth rest
        members mode fuel depth (do some ((← name, content) :: (← read))) false rest
      | rest => unexpected rest
    | rest => unexpected rest

end

end PlanCompiler.Json.Reader

namespace PlanCompiler.Json

set_option autoImplicit false

/-- The line, counted from 1, on which a text stops being JSON. -/
structure SyntaxError where
  line : Nat
deriving DecidableEq, Repr

/-- The line that is reached once all but `unread` of the text is read. -/
def SyntaxError.at (text unread : List Char) : SyntaxError :=
  ⟨1 + (text.take (text.length - unread.length)).count '\n'⟩

/-- Enough fuel to read a text. -/
def Reader.fuelFor (text : List Char) : Nat :=
  3 * text.length + 3

/-- The value a text denotes. -/
def read (text : String) : Except SyntaxError Json :=
  let chars := text.toList
  match Reader.value .lenient (Reader.fuelFor chars) maxDepth chars with
  | .error failure => .error (.at chars failure.unread)
  | .ok (value, rest) =>
    match Reader.skipSpace rest with
    | [] => .ok value
    | _ :: rest => .error (.at chars rest)

def read? (text : String) : Option Json :=
  (read text).toOption

end PlanCompiler.Json
