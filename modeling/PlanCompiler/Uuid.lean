/-
# Uuid -- 128-bit identifiers and their texts

An identifier is written as 32 hexadecimal digits in five groups.  It may be read
without the hyphens, between braces, or after `urn:uuid:`, in either case; the
text is always the lower-case hyphenated one.
-/

namespace PlanCompiler

set_option autoImplicit false

structure Uuid where
  value : BitVec 128
deriving DecidableEq

namespace Uuid

def compare (a b : Uuid) : Ordering :=
  Ord.compare a.value.toNat b.value.toNat

/-- The lengths of the groups between hyphens. -/
def groups : List Nat := [8, 4, 4, 4, 12]

/-- Cut a text into pieces of the given lengths with hyphens between them. -/
def hyphenate : List Nat → List Char → List Char
  | [], text => text
  | [_], text => text
  | n :: rest, text => text.take n ++ '-' :: hyphenate rest (text.drop n)

def text (u : Uuid) : List Char :=
  let digits := Nat.toDigits 16 u.value.toNat
  hyphenate groups (List.replicate (32 - digits.length) '0' ++ digits)

def hexValue? (c : Char) : Option Nat :=
  if '0' ≤ c ∧ c ≤ '9' then some (c.toNat - '0'.toNat)
  else if 'a' ≤ c ∧ c ≤ 'f' then some (c.toNat - 'a'.toNat + 10)
  else if 'A' ≤ c ∧ c ≤ 'F' then some (c.toNat - 'A'.toNat + 10)
  else none

/-- The digits without the hyphens, which must stand exactly between the groups. -/
def unhyphenate? : List Nat → List Char → Option (List Char)
  | [], text => if text.isEmpty then some [] else none
  | [n], text => if text.length = n then some text else none
  | n :: rest, text =>
    match text.drop n with
    | '-' :: tail => (unhyphenate? rest tail).map (text.take n ++ ·)
    | _ => none

def ofDigits? (digits : List Char) : Option Uuid := do
  let values ← digits.mapM hexValue?
  some ⟨.ofNat 128 (values.foldl (fun n digit => n * 16 + digit) 0)⟩

def read? (text : List Char) : Option Uuid :=
  let hyphenated (text : List Char) := (unhyphenate? groups text).bind ofDigits?
  if text.length = 32 then ofDigits? text
  else if text.length = 36 then hyphenated text
  else if text.length = 38 then
    if text.head? = some '\x7b' && text.getLast? = some '\x7d' then
      hyphenated ((text.drop 1).dropLast)
    else none
  else if text.length = 45 && (text.take 9).map Char.toLower == "urn:uuid:".toList then
    hyphenated (text.drop 9)
  else none

end Uuid

end PlanCompiler
