/-
# Text.Casing -- whole texts in capitals or in small letters

Both maps work character by character through the tables of `Text.CaseMap`, so
one character may become several.  The one letter that looks around is the
capital sigma: in small letters it is a final sigma where a word ends, that is
after a letter and not before one, passing over the marks a word may contain.
-/
import PlanCompiler.Text.CaseClass
import PlanCompiler.Text.CaseMap

namespace PlanCompiler.Text

set_option autoImplicit false

def upperChar (c : Char) : List Char :=
  if c.toNat < 0x80 then [c.toUpper]
  else (mapCode upperExpansions upperRuns c.toNat).map Char.ofNat

def lowerChar (c : Char) : List Char :=
  if c.toNat < 0x80 then [c.toLower]
  else (mapCode lowerExpansions lowerRuns c.toNat).map Char.ofNat

def upper (text : List Char) : List Char :=
  text.flatMap upperChar

def capitalSigma : Char := 'Σ'

def smallSigma : Char := 'σ'

def finalSigma : Char := 'ς'

/-- Whether the first character that does not merely extend a word is a letter. -/
def meetsLetter (text : List Char) : Bool :=
  match text.dropWhile isCaseIgnorable with
  | c :: _ => isCased c
  | [] => false

/-- The text in small letters, `before` being what has been passed, last character first. -/
def lowerAfter (before : List Char) : List Char → List Char
  | [] => []
  | c :: rest =>
    let here :=
      if c = capitalSigma then
        [if meetsLetter before && !meetsLetter rest then finalSigma else smallSigma]
      else lowerChar c
    here ++ lowerAfter (c :: before) rest

def lower (text : List Char) : List Char :=
  lowerAfter [] text

end PlanCompiler.Text
