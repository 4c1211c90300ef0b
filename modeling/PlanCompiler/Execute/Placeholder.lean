/-
# Execute.Placeholder -- positional placeholders

Statements name their parameters, `@P1000` or `@CustomerId`, but the database binds
values by position.  Every parameter is replaced by `?` and the names are kept in
the order in which they occur, so one parameter may be bound several times.

The text is scanned from its start, one character at a time.  Names are looked for
in code only, that is outside

* strings, in which a quote is escaped by doubling it or by a backslash,
* quoted identifiers, in which it is escaped by doubling it,
* comments: `#` or `--` to the end of the line, the dashes being followed by a
  blank or the end of the text, and `/*` to the next `*/`.

`@@` begins a system variable.  A name that is no parameter is a variable of the
user, and left alone.
-/
import PlanCompiler.Text.Blank
import PlanCompiler.Compile.Statement

namespace PlanCompiler

set_option autoImplicit false

namespace Placeholder

/-- Where the scanner is, after the characters it has read. -/
inductive State
  | code
  /-- After a dash. -/
  | dash
  /-- After two dashes or more. -/
  | dashes
  | slash
  | quoted (quote : Char)
  /-- After a backslash in a string. -/
  | escaped (quote : Char)
  /-- After a quote that closes, unless it is doubled. -/
  | closing (quote : Char)
  | lineComment
  | blockComment
  /-- After an asterisk in a comment. -/
  | asterisk
  /-- After `@` and these characters of a name. -/
  | name (read : List Char)
deriving DecidableEq, Repr

/-- A piece of a scanned text. -/
inductive Token
  | char (c : Char)
  /-- `@` and the longest name that follows it in code. -/
  | name (text : List Char)
deriving DecidableEq, Repr

def isNameChar (c : Char) : Bool :=
  c.isAlphanum || c == '_' || c == '$'

namespace State

/-- The state after a character in code. -/
def ofCode (c : Char) : State :=
  if c = '\x27' || c = '\x22' || c = '\x60' then .quoted c
  else if c = '-' then .dash
  else if c = '#' then .lineComment
  else if c = '/' then .slash
  else if c = '@' then .name []
  else .code

def next (state : State) (c : Char) : State :=
  match state with
  | .code => ofCode c
  | .dash => if c = '-' then .dashes else ofCode c
  | .dashes =>
    if c = '-' then .dashes
    else if c = '\n' then .code
    else if Text.isBlank c then .lineComment
    else ofCode c
  | .slash => if c = '*' then .blockComment else ofCode c
  | .quoted quote =>
    if c = '\\' && quote ≠ '\x60' then .escaped quote
    else if c = quote then .closing quote
    else .quoted quote
  | .escaped quote => .quoted quote
  | .closing quote => if c = quote then .quoted quote else ofCode c
  | .lineComment => if c = '\n' then .code else .lineComment
  | .blockComment => if c = '*' then .asterisk else .blockComment
  | .asterisk =>
    if c = '/' then .code else if c = '*' then .asterisk else .blockComment
  | .name read =>
    if isNameChar c then .name (read ++ [c])
    else if c = '@' && read.isEmpty then .code
    else ofCode c

def isName : State → Bool
  | .name _ => true
  | _ => false

/-- What is known of the text before a character once that character has been seen. -/
def finished (state : State) (c : Char) : List Token :=
  match state with
  | .name read =>
    if isNameChar c then []
    else if c = '@' && read.isEmpty then [.char '@']
    else [.name ('@' :: read)]
  | _ => []

/-- What the character adds to the pieces. -/
def emit (state : State) (c : Char) : List Token :=
  state.finished c ++ if (state.next c).isName then [] else [.char c]

/-- What is left to add at the end of the text. -/
def pending : State → List Token
  | .name read => [.name ('@' :: read)]
  | _ => []

end State

/-- The pieces of a text that is read in a state. -/
def tokens : State → List Char → List Token
  | state, [] => state.pending
  | state, c :: rest => state.emit c ++ tokens (state.next c) rest

end Placeholder

/-- A statement with positional placeholders. -/
structure Positional where
  sql : String
  /-- The parameter behind each placeholder. -/
  names : List String
deriving DecidableEq, Repr

namespace Placeholder

/-- The name of a parameter, if the piece is one. -/
def Token.parameter? (isParameter : String → Bool) : Token → Option String
  | .char _ => none
  | .name text => if 1 < text.length && isParameter (.ofList text) then some (.ofList text) else none

/-- The piece as it stands in the result. -/
def Token.positional (isParameter : String → Bool) (token : Token) : List Char :=
  match token.parameter? isParameter, token with
  | some _, _ => ['?']
  | none, .char c => [c]
  | none, .name text => text

/-- Replace every name that is a parameter. -/
def toPositional (isParameter : String → Bool) (sql : String) : Positional :=
  let pieces := tokens .code sql.toList
  { sql := .ofList (pieces.flatMap (Token.positional isParameter))
    names := pieces.filterMap (Token.parameter? isParameter) }

/-- Whether a name looks like a generated one: `@P` and digits. -/
def isGenerated (name : String) : Bool :=
  match name.toList with
  | '@' :: 'P' :: index => !index.isEmpty && index.all Char.isDigit
  | _ => false

/-- The positional form of a statement.  Names that look generated are taken for parameters even
when they have no value, so that this is noticed. -/
def ofStatement (statement : Statement) : Positional :=
  toPositional (fun name => isGenerated name || (statement.parameter? name).isSome)
    statement.statementSql

end Placeholder

end PlanCompiler
