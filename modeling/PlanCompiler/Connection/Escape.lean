/-
# Connection.Escape -- bytes written as `%` and two hexadecimal digits

A `%` that no two digits follow stands for itself.  In the pairs of a query a `+`
is a blank.  What the bytes are must be text in UTF-8.
-/
import PlanCompiler.Connection.Host

namespace PlanCompiler.Escape

set_option autoImplicit false

/-- The byte of two hexadecimal digits. -/
def byte? (high low : Char) : Option UInt8 := do
  let high ← Host.hexDigit? high
  let low ← Host.hexDigit? low
  some (.ofNat (16 * high + low))

def bytes : List Char → List UInt8
  | [] => []
  | '%' :: high :: low :: rest =>
    match byte? high low with
    | some byte => byte :: bytes rest
    | none => '%'.toUInt8 :: bytes (high :: low :: rest)
  | c :: rest => (String.singleton c).toUTF8.toList ++ bytes rest

/-- The text that is written, unless its bytes are not UTF-8. -/
def decode? (text : List Char) : Option String :=
  String.fromUTF8? ⟨(bytes text).toArray⟩

/-- The names and values of a query. -/
def pairs (query : List Char) : List (Option String × Option String) :=
  let decoded (text : List Char) := decode? (text.map fun c => if c = '+' then ' ' else c)
  (((Text.split '&' query).filter (!·.isEmpty)).map fun pair =>
    (Text.cut? '=' pair).getD (pair, [])).map fun (name, value) => (decoded name, decoded value)

end PlanCompiler.Escape
