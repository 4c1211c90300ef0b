/-
# Proofs.Lexeme -- the words that a text of SQL is made of

The database sees a text as a sequence of lexemes.  Blanks separate them and mean
nothing else; names stand between backticks and strings between quotes, either of
which is doubled where it is meant itself; signs that follow each other make one
symbol.  Escapes, comments and numbers do not occur in generated expressions and
are not read here.

The text is scanned one character at a time.  A character that does not go on with
the lexeme being read ends it, so a text may be scanned in parts wherever one part
ends before something that cannot go on with it (`lexemes_of_ends`).
-/
import PlanCompiler.Proofs.WrittenPieces

namespace PlanCompiler.Sql

set_option autoImplicit false

inductive Lexeme
  /-- A name, without its backticks. -/
  | name (text : String)
  /-- A string, without its quotes. -/
  | quoted (text : String)
  /-- A variable, without its `@`. -/
  | variable (text : String)
  | word (text : String)
  | symbol (text : String)
  | opening
  | closing
  | comma
  /-- A character that begins no lexeme, or one that never ends. -/
  | unknown (c : Char)
deriving DecidableEq, Repr

namespace Lexeme

/-- The lexeme that is being read, with its characters so far. -/
inductive State
  | between
  | name (read : List Char)
  /-- After a backtick that ends the name, unless it is doubled. -/
  | nameEnd (read : List Char)
  | quoted (read : List Char)
  | quotedEnd (read : List Char)
  | variable (read : List Char)
  | word (read : List Char)
  | symbol (read : List Char)
deriving DecidableEq, Repr

def isWordChar (c : Char) : Bool :=
  c.isAlphanum || c == '_'

def isSymbolChar (c : Char) : Bool :=
  c == '=' || c == '!' || c == '<' || c == '>' || c == '+' || c == '-' || c == '*' || c == '/'
    || c == '%'

/-- The state after the first character of a lexeme, and what that character is by itself. -/
def start (c : Char) : State × List Lexeme :=
  if c = '(' then (.between, [.opening])
  else if c = ')' then (.between, [.closing])
  else if c = ',' then (.between, [.comma])
  else if c = ' ' then (.between, [])
  else if c = '\x60' then (.name [], [])
  else if c = '\x27' then (.quoted [], [])
  else if c = '@' then (.variable [], [])
  else if isWordChar c then (.word [c], [])
  else if isSymbolChar c then (.symbol [c], [])
  else (.between, [.unknown c])

/-- The state after a character that goes on with the lexeme. -/
def State.extend? (state : State) (c : Char) : Option State :=
  match state with
  | .between => none
  | .name read => if c = '\x60' then some (.nameEnd read) else some (.name (read ++ [c]))
  | .nameEnd read => if c = '\x60' then some (.name (read ++ [c])) else none
  | .quoted read => if c = '\x27' then some (.quotedEnd read) else some (.quoted (read ++ [c]))
  | .quotedEnd read => if c = '\x27' then some (.quoted (read ++ [c])) else none
  | .variable read => if isWordChar c then some (.variable (read ++ [c])) else none
  | .word read => if isWordChar c then some (.word (read ++ [c])) else none
  | .symbol read => if isSymbolChar c then some (.symbol (read ++ [c])) else none

/-- The lexeme that ends here. -/
def State.ended : State → List Lexeme
  | .between => []
  | .name _ => [.unknown '\x60']
  | .nameEnd read => [.name (.ofList read)]
  | .quoted _ => [.unknown '\x27']
  | .quotedEnd read => [.quoted (.ofList read)]
  | .variable read => [.variable (.ofList read)]
  | .word read => [.word (.ofList read)]
  | .symbol read => [.symbol (.ofList read)]

end Lexeme

/-- The lexemes of a text that is read in a state. -/
def lexemes : Lexeme.State → List Char → List Lexeme
  | state, [] => state.ended
  | state, c :: rest =>
    match state.extend? c with
    | some next => lexemes next rest
    | none => state.ended ++ (Lexeme.start c).2 ++ lexemes (Lexeme.start c).1 rest

namespace Lexeme

theorem lexemes_extend {state next : State} {c : Char} (goesOn : state.extend? c = some next)
    (rest : List Char) : lexemes state (c :: rest) = lexemes next rest := by
  rw [lexemes, goesOn]

/-! ## Ends -/

/-- What may follow an expression: nothing, or a character that goes on with no lexeme. -/
inductive Ends : List Char → Prop
  | nothing : Ends []
  | blank (later : List Char) : Ends (' ' :: later)
  | closing (later : List Char) : Ends (')' :: later)
  | comma (later : List Char) : Ends (',' :: later)

/-- A lexeme that is complete is read by itself before an end. -/
theorem lexemes_of_ends {state : State} {rest : List Char} (ends : Ends rest)
    (complete : ∀ c ∈ [' ', ')', ','], state.extend? c = none) :
    lexemes state rest = state.ended ++ lexemes .between rest := by
  have before : ∀ c later, c ∈ [' ', ')', ','] →
      lexemes state (c :: later) = state.ended ++ lexemes .between (c :: later) := by
    intro c later isEnd
    rw [lexemes, complete c isEnd, List.append_assoc]
    rfl
  cases ends with
  | nothing => exact (List.append_nil _).symm
  | blank later => exact before _ _ (by decide)
  | closing later => exact before _ _ (by decide)
  | comma later => exact before _ _ (by decide)

/-! ## Words of the language -/

theorem lexemes_opening (rest : List Char) :
    lexemes .between ("(".toList ++ rest) = .opening :: lexemes .between rest := rfl

theorem lexemes_closing (rest : List Char) :
    lexemes .between (")".toList ++ rest) = .closing :: lexemes .between rest := rfl

theorem lexemes_comma (rest : List Char) :
    lexemes .between (", ".toList ++ rest) = .comma :: lexemes .between rest := rfl

theorem lexemes_and (rest : List Char) :
    lexemes .between (" AND ".toList ++ rest) = .word "AND" :: lexemes .between rest := rfl

theorem lexemes_or (rest : List Char) :
    lexemes .between (" OR ".toList ++ rest) = .word "OR" :: lexemes .between rest := rfl

theorem lexemes_not (rest : List Char) :
    lexemes .between ("NOT (".toList ++ rest) =
      .word "NOT" :: .opening :: lexemes .between rest := rfl

theorem lexemes_minus (rest : List Char) :
    lexemes .between ("-(".toList ++ rest) = .symbol "-" :: .opening :: lexemes .between rest := rfl

theorem lexemes_isNull (rest : List Char) :
    lexemes .between (" IS NULL)".toList ++ rest) =
      .word "IS" :: .word "NULL" :: .closing :: lexemes .between rest := rfl

theorem lexemes_isNotNull (rest : List Char) :
    lexemes .between (" IS NOT NULL)".toList ++ rest) =
      .word "IS" :: .word "NOT" :: .word "NULL" :: .closing :: lexemes .between rest := rfl

theorem lexemes_in (rest : List Char) :
    lexemes .between (" IN (".toList ++ rest) =
      .word "IN" :: .opening :: lexemes .between rest := rfl

/-- The lexeme of an operator. -/
def ofOperator (op : Operator) : Lexeme :=
  match op with
  | .like => .word op.word
  | _ => .symbol op.word

theorem lexemes_operator (op : Operator) (rest : List Char) :
    lexemes .between ((" " ++ op.word ++ " ").toList ++ rest) =
      ofOperator op :: lexemes .between rest := by
  cases op with
  | comparison op => cases op <;> rfl
  | calculation op => cases op <;> rfl
  | like => rfl

theorem ends_operator (op : Operator) (rest : List Char) :
    Ends ((" " ++ op.word ++ " ").toList ++ rest) := by
  rw [String.toList_append, String.toList_append, List.append_assoc, List.append_assoc]
  exact .blank _

theorem lexemes_function (f : Function) (rest : List Char) :
    lexemes .between ((f.word ++ "(").toList ++ rest) =
      .word f.word :: .opening :: lexemes .between rest := by
  cases f <;> rfl

/-! ## Names and placeholders -/

/-- A name is complete where its last backtick is not doubled. -/
theorem lexemes_nameEnd {rest : List Char} (apart : rest.head? ≠ some '\x60')
    (read : List Char) :
    lexemes (.nameEnd read) rest = .name (.ofList read) :: lexemes .between rest := by
  cases rest with
  | nil => rfl
  | cons c later =>
    have notDoubled : c ≠ '\x60' := fun same => apart (congrArg some same)
    have complete : (State.nameEnd read).extend? c = none := if_neg notDoubled
    rw [lexemes, complete]
    rfl

theorem lexemes_inName {rest : List Char} (apart : rest.head? ≠ some '\x60') :
    ∀ (text read : List Char), '\x60' ∉ text →
      lexemes (.name read) (text ++ '\x60' :: rest) =
        .name (.ofList (read ++ text)) :: lexemes .between rest := by
  intro text
  induction text with
  | nil =>
    intro read _
    rw [List.nil_append, List.append_nil, lexemes_extend rfl]
    exact lexemes_nameEnd apart read
  | cons c text ih =>
    intro read plain
    have notEnd : c ≠ '\x60' := fun same => plain (same ▸ List.mem_cons_self)
    have goesOn : (State.name read).extend? c = some (.name (read ++ [c])) := if_neg notEnd
    rw [List.cons_append, lexemes_extend goesOn,
      ih _ fun mem => plain (List.mem_cons_of_mem c mem), List.append_assoc]
    rfl

/-- A name without backticks is read back. -/
theorem lexemes_nameBefore {name : String} {rest : List Char} (plain : '\x60' ∉ name.toList)
    (apart : rest.head? ≠ some '\x60') :
    lexemes .between ('\x60' :: (name.toList ++ '\x60' :: rest)) =
      .name name :: lexemes .between rest := by
  have inName := lexemes_inName apart name.toList [] plain
  rw [List.nil_append, String.ofList_toList] at inName
  exact inName

theorem lexemes_name {name : String} {rest : List Char} (plain : '\x60' ∉ name.toList)
    (ends : Ends rest) :
    lexemes .between ('\x60' :: (name.toList ++ '\x60' :: rest)) =
      .name name :: lexemes .between rest := by
  have apart : rest.head? ≠ some '\x60' := by cases ends <;> simp
  exact lexemes_nameBefore plain apart

theorem lexemes_inVariable {rest : List Char} (ends : Ends rest) :
    ∀ (text read : List Char), text.all isWordChar →
      lexemes (.variable read) (text ++ rest) =
        .variable (.ofList (read ++ text)) :: lexemes .between rest := by
  intro text
  induction text with
  | nil =>
    intro read _
    rw [List.nil_append, List.append_nil]
    exact lexemes_of_ends ends (by simp [State.extend?, isWordChar])
  | cons c text ih =>
    intro read word
    rw [List.all_cons, Bool.and_eq_true] at word
    have goesOn : (State.variable read).extend? c = some (.variable (read ++ [c])) :=
      if_pos word.1
    rw [List.cons_append, lexemes_extend goesOn, ih _ word.2, List.append_assoc]
    rfl

/-- The placeholder of a value is one variable. -/
theorem lexemes_parameterName (position : Nat) {rest : List Char} (ends : Ends rest) :
    lexemes .between ((parameterName position).toList ++ rest) =
      .variable ("P" ++ toString (firstParameterIndex + position)) :: lexemes .between rest := by
  have letters : ("P" ++ toString (firstParameterIndex + position)).toList.all isWordChar := by
    rw [String.toList_append, List.all_append, Bool.and_eq_true]
    refine ⟨rfl, List.all_eq_true.2 fun c mem => ?_⟩
    have digit := toString_isDigit _ c mem
    simp [isWordChar, Char.isAlphanum, digit]
  have inVariable := lexemes_inVariable ends _ [] letters
  rw [List.nil_append, String.ofList_toList] at inVariable
  have split : parameterName position =
      "@" ++ ("P" ++ toString (firstParameterIndex + position)) := by
    rw [← String.append_assoc]
    rfl
  rw [split, String.toList_append, List.append_assoc]
  exact inVariable

/-- The wildcard is one string. -/
theorem lexemes_wildcard {rest : List Char} (ends : Ends rest) :
    lexemes .between ("'%'".toList ++ rest) = .quoted "%" :: lexemes .between rest := by
  have complete : ∀ c ∈ [' ', ')', ','], (State.quotedEnd ['%']).extend? c = none := by
    simp [State.extend?]
  exact lexemes_of_ends ends complete

end Lexeme

end PlanCompiler.Sql
