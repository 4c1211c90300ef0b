/-
# Text.Composed -- one spelling for each letter with its marks

The same letter with the same marks can be spelled in several ways.  `composed`
gives the one with as few characters as can be: letters are taken apart, the
marks on each are put in the order of their classes, and then letter and marks
are joined again as far as they compose (`join`).

A character that Unicode does not let compose again has to be spelled otherwise
before; it is left as it is.
-/
import PlanCompiler.Text.CombiningClass
import PlanCompiler.Text.Composition

namespace PlanCompiler.Text

set_option autoImplicit false

/-- The letter of a character and its marks.  No letter is composed of more than four characters. -/
def takeApart : Nat → Char → List Char
  | 0, c => [c]
  | depth + 1, c =>
    match parts? c with
    | some (base, mark) => takeApart depth base ++ [mark]
    | none => [c]

/-- Puts a mark, in a text given last character first, before the marks of higher classes. -/
def insertMark (c : Char) : List Char → List Char
  | [] => [c]
  | d :: before =>
    if combiningClass c < combiningClass d then d :: insertMark c before else c :: d :: before

/-- The text with the marks on each letter in the order of their classes. -/
def orderMarks (text : List Char) : List Char :=
  (text.foldl (fun before c =>
    if combiningClass c = 0 then c :: before else insertMark c before) []).reverse

/-- Joins what follows to a letter as far as it composes.  `marks` are those that did not, last
first; a character is kept from the letter by a mark of its own class or a higher one. -/
def join (letter : Char) (marks : List Char) : List Char → List Char
  | [] => letter :: marks.reverse
  | c :: rest =>
    let meets := marks.head?.all fun last => combiningClass last < combiningClass c
    match if meets then compose? letter c else none with
    | some whole => join whole marks rest
    | none =>
      if combiningClass c = 0 then letter :: (marks.reverse ++ join c [] rest)
      else join letter (c :: marks) rest

def composed (text : List Char) : List Char :=
  match orderMarks (text.flatMap (takeApart 3)) with
  | [] => []
  | letter :: rest => join letter [] rest

end PlanCompiler.Text
