/-
# Sql.Piece -- SQL as a sequence of pieces

Generated SQL is a list of pieces, each of which says where its text comes from:
words of the language, a name, a text that the caller wrote, or a value.  Only the
last binds anything: writing the pieces into a buffer puts a placeholder where the
value stands and the value into the buffer's table of parameters.

The table is the list of the bound values; the value at position `i` has the name
`@P` followed by `1000 + i`, so names are consecutive and are never used twice.
Positions are not bounded here.  An index that is counted in 32 bits names the first
`2 ^ 32 - 1000` values alike, and runs over when it is moved on behind the last of
them.
-/
import PlanCompiler.Literal.Basic

namespace PlanCompiler.Sql

set_option autoImplicit false

/-! ## Names -/

/-- A name as an identifier.  Names with a backtick are quoted already, names with a dot are
qualified, and both are left alone. -/
def quoteIdentifier (name : String) : String :=
  if name.toList.any fun c => c == '\x60' || c == '.' then name else "\x60" ++ name ++ "\x60"

/-! ## Parameters -/

def parameterStart : String := "@P"

def firstParameterIndex : Nat := 1000

/-- The name of the value at a position of the table. -/
def parameterName (position : Nat) : String :=
  parameterStart ++ toString (firstParameterIndex + position)

/-- The values bound so far, in order. -/
structure Parameters where
  values : List Literal

namespace Parameters

def empty : Parameters := ⟨[]⟩

def bind (value : Literal) (table : Parameters) : Parameters :=
  ⟨table.values ++ [value]⟩

/-- The name that the next value will get. -/
def next (table : Parameters) : String :=
  parameterName table.values.length

/-- Names with their values, starting at a position. -/
def entriesFrom (position : Nat) : List Literal → List (String × Literal)
  | [] => []
  | value :: rest => (parameterName position, value) :: entriesFrom (position + 1) rest

def entries (table : Parameters) : List (String × Literal) :=
  entriesFrom 0 table.values

def get? (name : String) (table : Parameters) : Option Literal :=
  table.entries.lookup name

end Parameters

/-! ## Pieces -/

inductive Piece
  | words (text : String)
  | name (name : String)
  | verbatim (text : String)
  | value (literal : Literal)

namespace Piece

def value? : Piece → Option Literal
  | .value literal => some literal
  | _ => none

end Piece

/-- The values among the pieces. -/
def values (pieces : List Piece) : List Literal :=
  pieces.filterMap Piece.value?

/-- Put one piece between each two of several sequences. -/
def separated (between : Piece) : List (List Piece) → List Piece
  | [] => []
  | [pieces] => pieces
  | pieces :: rest => pieces ++ between :: separated between rest

/-! ## Buffers -/

/-- A text under construction and the values bound by it. -/
structure Buffer where
  text : String
  parameters : Parameters

namespace Buffer

def empty : Buffer := ⟨"", .empty⟩

def append (text : String) (buffer : Buffer) : Buffer :=
  { buffer with text := buffer.text ++ text }

/-- Bind a value and write its placeholder. -/
def appendValue (value : Literal) (buffer : Buffer) : Buffer :=
  ⟨buffer.text ++ buffer.parameters.next, buffer.parameters.bind value⟩

def push (buffer : Buffer) : Piece → Buffer
  | .words text => buffer.append text
  | .name name => buffer.append (quoteIdentifier name)
  | .verbatim text => buffer.append text
  | .value literal => buffer.appendValue literal

def write (buffer : Buffer) (pieces : List Piece) : Buffer :=
  pieces.foldl push buffer

/-- Begin a new line, unless the text is empty or at the beginning of one. -/
def startLine (buffer : Buffer) : Buffer :=
  if buffer.text.isEmpty || buffer.text.toList.getLast? == some '\n' then buffer
  else buffer.append "\n"

/-- Take the text away and keep the parameters. -/
def takeText (buffer : Buffer) : String × Buffer :=
  (buffer.text, { buffer with text := "" })

end Buffer

/-- The pieces written on their own. -/
def text (pieces : List Piece) : String :=
  (Buffer.empty.write pieces).text

end PlanCompiler.Sql
