/-
# Text.Punycode -- any characters written in ASCII

The ASCII characters of a text come first, then a hyphen, then the others, lowest
code point first.  Each of those is one number: how many steps it takes from the
one before, a step going to the next place in the text and, past its end, to the
next code point.

Numbers have letters and digits as their digits, the lowest first.  A digit below
its threshold ends the number, and thresholds follow the size of the numbers
before (`adapt`).
-/

namespace PlanCompiler.Punycode

set_option autoImplicit false

def base : Nat := 36

def digit? (c : Char) : Option Nat :=
  if 'a' ≤ c ∧ c ≤ 'z' then some (c.toNat - 'a'.toNat)
  else if 'A' ≤ c ∧ c ≤ 'Z' then some (c.toNat - 'A'.toNat)
  else if c.isDigit then some (c.toNat - '0'.toNat + 26)
  else none

/-- The threshold of the digit at a position, which is counted in steps of the base. -/
def threshold (position bias : Nat) : Nat :=
  min 26 (max 1 (position - bias))

/-- How often a number has to be divided by 35 until it is small, in steps of the base, and what is
left of it. -/
def shrink (number : Nat) : Nat × Nat :=
  if 455 < number then
    let (steps, left) := shrink (number / 35)
    (steps + base, left)
  else (0, number)
termination_by number
decreasing_by exact Nat.div_lt_self (by omega) (by omega)

/-- The bias after a number, the text having `length` characters since. -/
def adapt (number length : Nat) (isFirst : Bool) : Nat :=
  let number := if isFirst then number / 700 else number / 2
  let (steps, left) := shrink (number + number / length)
  steps + base * left / (left + 38)

/-- How far a text has been read. -/
structure Progress where
  text : List Char
  /-- the code point that is inserted next -/
  code : Nat := 128
  bias : Nat := 72
  /-- where the number that is being read began -/
  start : Nat := 0
  /-- the number so far, from the start of the text -/
  place : Nat := 0
  weight : Nat := 1
  position : Nat := base

namespace Progress

/-- Whether a number has been begun and not ended. -/
def isOpen (p : Progress) : Bool :=
  p.position != base

/-- Ends a number: a character is inserted. -/
def insert? (p : Progress) : Option Progress :=
  let length := p.text.length + 1
  let code := p.code + p.place / length
  let place := p.place % length
  if code.isValidChar then
    some {
      text := p.text.insertIdx place (.ofNat code)
      code := code
      bias := adapt (p.place - p.start) length (p.start == 0)
      start := place + 1
      place := place + 1 }
  else none

/-- Numbers have at most 32 bits. -/
def limit : Nat := Nat.pow 2 32

def read? (p : Progress) (c : Char) : Option Progress := do
  let digit ← digit? c
  let least := threshold p.position p.bias
  let weight := p.weight * (base - least)
  let p := { p with place := p.place + digit * p.weight }
  if limit ≤ p.place then none
  else if digit < least then p.insert?
  else if limit ≤ weight then none
  else some { p with weight := weight, position := p.position + base }

end Progress

/-- What is before the last hyphen and after it.  A hyphen at the beginning parts nothing. -/
def cutLastHyphen (text : List Char) : List Char × List Char :=
  let after := (text.reverse.takeWhile (· ≠ '-')).reverse
  let before := text.take (text.length - after.length)
  if 1 < before.length then (before.dropLast, after) else ([], text)

/-- The text that is written. -/
def decode? (text : List Char) : Option (List Char) := do
  let (plain, numbers) := cutLastHyphen text
  let progress ← numbers.foldlM Progress.read? { text := plain }
  if progress.isOpen then none else some progress.text

end PlanCompiler.Punycode
