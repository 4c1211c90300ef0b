/-
# Text.Quoted -- the quoted form of a text

A quoted text stands between double quotes.  The quote and the backslash are
escaped with a backslash, four controls have a letter of their own, and every
other character that would not show (`Text.Printable`) is written as its code
point in hexadecimal.  The apostrophe is left alone.
-/
import PlanCompiler.Text.Printable

namespace PlanCompiler.Text.Quoted

set_option autoImplicit false

/-- One character as it stands between the quotes. -/
def escape (c : Char) : List Char :=
  match c.toNat with
  | 0x00 => ['\\', '0']
  | 0x09 => ['\\', 't']
  | 0x0a => ['\\', 'n']
  | 0x0d => ['\\', 'r']
  | 0x22 => ['\\', c]
  | 0x5c => ['\\', c]
  | code =>
    if isVisible c then [c]
    else ['\\', 'u', '\x7b'] ++ Nat.toDigits 16 code ++ ['\x7d']

def encode (text : List Char) : List Char :=
  '\x22' :: (text.flatMap escape ++ ['\x22'])

end PlanCompiler.Text.Quoted

namespace PlanCompiler.Text

/-- The quoted form of a text. -/
def quoted (text : String) : String :=
  .ofList (Quoted.encode text.toList)

end PlanCompiler.Text
