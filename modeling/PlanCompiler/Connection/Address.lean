/-
# Connection.Address -- the parts of a connection string

A connection string is an absolute URL.  Blanks and controls around it are
dropped, and so are tabs and line breaks in it.  It begins with a scheme and a
colon.  After two slashes comes the authority: who connects, up to the last `@`,
then the host and its port.  The rest is the path and, after a question mark, the
query.  A host may only be missing when nobody connects to it on any port.

Schemes of the web may have any number of slashes, of either kind, and must have
a host.
-/
import PlanCompiler.Connection.Domain

namespace PlanCompiler

set_option autoImplicit false

structure Address where
  scheme : String
  user : List Char
  password : List Char
  query : List Char

namespace Address

/-! ## Schemes -/

inductive Scheme
  | web
  | file
  | other
deriving DecidableEq, Repr

def Scheme.ofName (name : String) : Scheme :=
  if ["http", "https", "ws", "wss", "ftp"].contains name then .web
  else if name = "file" then .file
  else .other

def isSchemeChar (c : Char) : Bool :=
  c.isAlphanum || c == '+' || c == '-' || c == '.'

/-- The scheme in lower case and what follows its colon. -/
def scheme? (text : List Char) : Option (String × List Char) := do
  let (name, rest) ← Text.cut? ':' text
  if (name.head?.any Char.isAlpha) && name.all isSchemeChar then
    some (.ofList (name.map Char.toLower), rest)
  else none

/-- The text without what surrounds it and without its tabs and line breaks. -/
def strip (text : List Char) : List Char :=
  let outside (c : Char) : Bool := c.toNat ≤ 0x20
  (((text.dropWhile outside).reverse.dropWhile outside).reverse).filter
    fun c => !(c == '\t' || c == '\n' || c == '\r')

/-! ## The authority -/

/-- What ends the authority. -/
def endsAuthority (scheme : Scheme) (c : Char) : Bool :=
  c == '/' || c == '?' || c == '#' || (c == '\\' && scheme != .other)

/-- What stands before and after the last `@`. -/
def cutLastAt? (text : List Char) : Option (List Char × List Char) :=
  (Text.cut? '@' text.reverse).map fun (after, before) => (before.reverse, after.reverse)

/-- The host at the front of a text and what follows it; colons in brackets are in it. -/
def splitHost (inBrackets : Bool) : List Char → List Char × List Char
  | [] => ([], [])
  | c :: rest =>
    if c = ':' && !inBrackets then ([], c :: rest)
    else
      let inBrackets := if c = '[' then true else if c = ']' then false else inBrackets
      let (host, after) := splitHost inBrackets rest
      (c :: host, after)

/-- A port is a number of 16 bits or nothing.  A backslash ends it. -/
def isPort (text : List Char) : Bool :=
  let text := text.takeWhile (· ≠ '\\')
  text.all Char.isDigit && (Host.number? 10 text).any (· < Nat.pow 2 16)

/-- The user and the password.  The host may be missing when neither of them nor a port is
there; `more` says whether a path or a query follows. -/
def authority? (scheme : Scheme) (text : List Char) (more : Bool) :
    Option (List Char × List Char) :=
  let (login, rest) := (cutLastAt? text).getD ([], text)
  let (host, rest) := splitHost false rest
  let hostFits := if scheme = .web then Host.isWeb host else Host.isOpaque host
  let portFits :=
    match rest with
    | ':' :: port => isPort port && !host.isEmpty
    | _ => true
  let loginFits := !host.isEmpty || (login.isEmpty && !(text == ['@'] && more)) || login == [':']
  if hostFits && portFits && loginFits then some ((Text.cut? ':' login).getD (login, []))
  else none

/-! ## Addresses -/

/-- An address from its parts, of which the last are still one text. -/
def withRest (scheme : String) (user password rest : List Char) : Address where
  scheme := scheme
  user := user
  password := password
  query := ((rest.takeWhile (· ≠ '#')).dropWhile (· ≠ '?')).drop 1

/-- The address whose authority is at the front of a text. -/
def withAuthority? (name : String) (text : List Char) : Option Address := do
  let scheme := Scheme.ofName name
  let authority := text.takeWhile fun c => !endsAuthority scheme c
  let rest := text.drop authority.length
  let (user, password) ← authority? scheme authority (!rest.isEmpty)
  some (withRest name user password rest)

def isSlash (c : Char) : Bool :=
  c == '/' || c == '\\'

/-- A letter and a colon or a bar, which is the name of a disk and not of a host. -/
def isDisk : List Char → Bool
  | [letter, mark] => letter.isAlpha && (mark == ':' || mark == '|')
  | _ => false

def ofText? (text : String) : Option Address := do
  let (name, rest) ← scheme? (strip text.toList)
  match Scheme.ofName name, rest with
  | .web, _ => withAuthority? name (rest.dropWhile isSlash)
  | .other, '/' :: '/' :: rest => withAuthority? name rest
  | .other, _ => some (withRest name [] [] rest)
  | .file, a :: b :: more =>
    let host := more.takeWhile fun c => !endsAuthority .file c
    if isSlash a && isSlash b && !(host.isEmpty || isDisk host || Host.isWeb host) then none
    else some (withRest name [] [] rest)
  | .file, _ => some (withRest name [] [] rest)

end Address

end PlanCompiler
