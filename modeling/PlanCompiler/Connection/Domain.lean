/-
# Connection.Domain -- the names of hosts of the web

A name is written in ASCII characters or in others, which stand for ASCII ones or
are written in them after `xn--`.  First the characters are replaced by what names
have for them (`spelled?`); then each label, the part between two dots, is read
(`Label.read?`) and has to keep the rules: it does not begin with a mark, joiners
are where they matter, and where a label of the name runs from right to left all
labels keep the rule of `Direction`.

A host is such a name, and not the empty one.  When it ends in a number it has to
be an IPv4 address.
-/
import PlanCompiler.Connection.Direction
import PlanCompiler.Connection.Escape
import PlanCompiler.Connection.Joining
import PlanCompiler.Text.Composed
import PlanCompiler.Text.Punycode

namespace PlanCompiler

set_option autoImplicit false

/-! ## Labels -/

namespace Label

/-- What a label begins with that is written in ASCII for another. -/
def lead : List Char := ['x', 'n', '-', '-']

/-- No more than so many characters are read after the lead. -/
def longest : Nat := 2000

/-- No more than so many characters, not all ASCII, are written. -/
def longestWritten : Nat := 1000

def isAscii (label : List Char) : Bool :=
  label.all fun c => c.toNat < 0x80

/-- The characters that no label has. -/
def divides (c : Char) : Bool :=
  Host.dividesName c

/-- The label written after the lead, if it could not have been written without. -/
def decode? (written : List Char) : Option (List Char) :=
  if isAscii written && written.length ≤ longest && written.getLast?.any (· ≠ '-') then
    (Punycode.decode? written).bind fun label =>
      if label.all Spelling.isPlain && Text.composed label = label then some label else none
  else none

/-- The label that is meant. -/
def read? (written : List Char) : Option (List Char) :=
  if lead.isPrefixOf written then decode? (written.drop lead.length) else some written

/-- Whether a label keeps the rules that look at no other. -/
def fits (label : List Char) : Bool :=
  !label.any divides && !label.head?.any Text.isMark && Joining.fits [] label
    && (isAscii label || label.length ≤ longestWritten)

end Label

/-! ## Names -/

namespace Domain

/-- The name with the characters that names have. -/
def spelled? (name : List Char) : Option (List Char) :=
  (name.mapM Spelling.spell?).map fun parts => Text.composed parts.flatten

/-- Whether the labels keep the rule for those that run from right to left. -/
def directionsFit (labels : List (List Char)) : Bool :=
  let directions := labels.map (·.map Direction.ofChar)
  !directions.any (·.any Direction.turns) || directions.all Direction.fits

def isName (spelled : List Char) : Bool :=
  match (Text.split '.' spelled).mapM Label.read? with
  | none => false
  | some labels => labels.all Label.fits && directionsFit labels

/-- Whether a text is a host of the web. -/
def isHost (text : List Char) : Bool :=
  match (Escape.decode? text).bind fun name => spelled? name.toList with
  | none => false
  | some name =>
    !name.isEmpty && isName name && (!Host.endsInNumber name || Host.isIpv4 name)

end Domain

/-- Whether a text is an address in brackets or a host of the web. -/
def Host.isWeb (text : List Char) : Bool :=
  (Host.bracketed? text).getD (Domain.isHost text)

end PlanCompiler
