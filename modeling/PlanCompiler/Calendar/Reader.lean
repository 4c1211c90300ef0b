/-
# Calendar.Reader -- dates and times from their texts

A reader takes what it needs from the front of a text and returns the rest.
Blanks may stand before a number, before a separator and at the end.  A number
may have fewer digits than the printer writes, never more; only a year with an
explicit sign may have any number of them.  Digits of a fraction beyond the ninth
are read and dropped.
-/
import PlanCompiler.Calendar.Time
import PlanCompiler.Text.Blank

namespace PlanCompiler

set_option autoImplicit false

namespace Calendar

open Text

/-- What a reader found, and the text after it. -/
abbrev Reader (α : Type) := List Char → Option (α × List Char)

/-- A number of one up to `most` digits. -/
def digits (most : Nat) : Reader Nat := fun text =>
  let found := (text.take most).takeWhile Char.isDigit
  if found.isEmpty then none
  else some (Nat.ofDigitChars 10 found 0, text.drop found.length)

/-- A number of one up to `most` digits, after blanks. -/
def number (most : Nat) : Reader Nat := fun text =>
  digits most (trimStart text)

/-- A year: up to four digits, or a sign and any number of them. -/
def year : Reader Int := fun text =>
  match trimStart text with
  | '-' :: rest => (digits rest.length rest).map fun (n, rest) => (-(n : Int), rest)
  | '+' :: rest => (digits rest.length rest).map fun (n, rest) => ((n : Int), rest)
  | rest => (digits 4 rest).map fun (n, rest) => ((n : Int), rest)

/-- The separator `mark`, after blanks. -/
def mark (mark : Char) : Reader Unit := fun text =>
  match trimStart text with
  | c :: rest => if c = mark then some ((), rest) else none
  | [] => none

/-- The digits after a decimal point, as nanoseconds. -/
def nanoseconds : Reader Nat := fun text => do
  let (value, rest) ← digits 9 text
  let count := text.length - rest.length
  some (value * Nat.pow 10 (9 - count), rest.dropWhile Char.isDigit)

/-- A fraction of a second, zero where the text has none. -/
def fraction : Reader Nat := fun text =>
  match text with
  | '.' :: rest => nanoseconds rest
  | _ => some (0, text)

/-- The fields of a date. -/
def dateFields : Reader (Int × Nat × Nat) := fun text => do
  let (y, text) ← year text
  let ((), text) ← mark '-' text
  let (m, text) ← number 2 text
  let ((), text) ← mark '-' text
  let (d, text) ← number 2 text
  some ((y, m, d), text)

/-- Seconds and their fraction, after a colon. -/
def secondFields : Reader (Nat × Nat) := fun text => do
  let ((), text) ← mark ':' text
  let (s, text) ← number 2 text
  let (f, text) ← fraction text
  some ((s, f), text)

/-- Hours and minutes. -/
def clockFields : Reader (Nat × Nat) := fun text => do
  let (h, text) ← number 2 text
  let ((), text) ← mark ':' text
  let (m, text) ← number 2 text
  some ((h, m), text)

/-- The offset from UTC, in minutes: `Z`, `UTC`, or a sign with two digits for the hours and two for
the minutes. -/
def offset : Reader Int := fun text =>
  match trimStart text with
  | 'Z' :: rest | 'z' :: rest => some (0, rest)
  | u :: t :: c :: rest =>
    if [u, t, c].map Char.toUpper = ['U', 'T', 'C'] then some (0, rest)
    else if u = '+' || u = '-' || u = '\u2212' then do
      let (hours, rest) ← two (t :: c :: rest)
      let (minutes, rest) ← two (rest.dropWhile fun c => c = ':' || isBlank c)
      if minutes < 60 then
        let total : Int := hours * 60 + minutes
        some (if u = '+' then total else -total, rest)
      else none
    else none
  | _ => none
where
  /-- Exactly two digits. -/
  two : Reader Nat
    | a :: b :: rest =>
      if a.isDigit && b.isDigit then some (Nat.ofDigitChars 10 [a, b] 0, rest) else none
    | _ => none

/-- What a reader found, if only blanks follow. -/
def whole {α : Type} (read : Reader α) (text : List Char) : Option α := do
  let (value, rest) ← read text
  if (trimStart rest).isEmpty then some value else none

end Calendar

open Calendar Text

def Date.read? (text : List Char) : Option Date := do
  let (y, m, d) ← whole dateFields text
  Date.of? y m d

/-- A time of day; its seconds may be left out. -/
def TimeOfDay.read? (text : List Char) : Option TimeOfDay := do
  let ((h, m), rest) ← clockFields text
  match secondFields rest with
  | some ((s, f), rest) => if (trimStart rest).isEmpty then TimeOfDay.of? h m s f else none
  | none => if (trimStart rest).isEmpty then TimeOfDay.of? h m 0 0 else none

/-- A date, the letter `T` and a time of day with seconds. -/
def DateTime.read? (text : List Char) : Option DateTime := do
  let ((y, mo, d), rest) ← dateFields text
  let ((), rest) ← mark 'T' rest
  let ((h, mi), rest) ← clockFields rest
  let (s, f) ← whole secondFields rest
  some ⟨← Date.of? y mo d, ← TimeOfDay.of? h mi s f⟩

/-- A date, a `T` or one space, a time of day with seconds, and an offset. -/
def ZonedDateTime.read? (text : List Char) : Option ZonedDateTime := do
  let ((y, mo, d), rest) ← dateFields text
  match rest with
  | separator :: rest =>
    if separator = 'T' || separator = 't' || separator = ' ' then
      let ((h, mi), rest) ← clockFields rest
      let ((s, f), rest) ← secondFields rest
      let minutes ← whole Calendar.offset rest
      ZonedDateTime.of? ⟨← Date.of? y mo d, ← TimeOfDay.of? h mi s f⟩ minutes
    else none
  | [] => none

end PlanCompiler
