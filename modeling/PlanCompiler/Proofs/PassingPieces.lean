/-
# Proofs.PassingPieces -- pieces whose text may be scanned on its own

Written pieces pass with the names of their values (`PassApart`) as long as the texts
of the caller among them are clean.  Words of the language never open quotes or
comments, and a placeholder always stands between an opening word and a break, so
it is never glued to a name: this is shown for every expression that is compiled
(`Expression.Generated.passApart`) and for every clause.

A statement around a statement adds no names to those of the inner one, which stands
between parentheses (`OuterSelect.names_text`).
-/
import PlanCompiler.Proofs.GeneratedExpression
import PlanCompiler.Proofs.ParameterNumbering
import PlanCompiler.Proofs.ScannedText

namespace PlanCompiler

set_option autoImplicit false

open Placeholder

namespace Sql

/-! ## Pieces -/

/-- The text, if the caller wrote it and it is written as it is. -/
def Piece.callerText? : Piece → Option String
  | .verbatim written => some written
  | .name identifier => if quoteIdentifier identifier = identifier then some identifier else none
  | _ => none

/-- The texts of the caller among the pieces. -/
def callerTexts (pieces : List Piece) : List String :=
  pieces.filterMap Piece.callerText?

@[simp] theorem callerTexts_nil : callerTexts [] = [] := rfl

@[simp] theorem callerTexts_words (text : String) (rest : List Piece) :
    callerTexts (.words text :: rest) = callerTexts rest := rfl

@[simp] theorem callerTexts_append (a b : List Piece) :
    callerTexts (a ++ b) = callerTexts a ++ callerTexts b :=
  List.filterMap_append

/-- The names of values, the first of which is at a position. -/
def namesFrom (position : Nat) (values : List Literal) : List String :=
  (Parameters.entriesFrom position values).map Prod.fst

/-- The names in the texts of the pieces, each text being scanned alone. -/
def namesApart : Nat → List Piece → List String
  | _, [] => []
  | position, .words _ :: rest => namesApart position rest
  | position, .name name :: rest =>
    generatedNames .code (quoteIdentifier name).toList ++ namesApart position rest
  | position, .verbatim text :: rest =>
    generatedNames .code text.toList ++ namesApart position rest
  | position, .value _ :: rest => parameterName position :: namesApart (position + 1) rest

theorem namesApart_append (position : Nat) (a b : List Piece) :
    namesApart position (a ++ b) =
      namesApart position a ++ namesApart (position + (values a).length) b := by
  induction a generalizing position with
  | nil => rfl
  | cons piece rest ih =>
    cases piece with
    | words text => simp only [List.cons_append, namesApart, ih, values_words]
    | name name => simp only [List.cons_append, namesApart, ih, values_name, List.append_assoc]
    | verbatim text =>
      simp only [List.cons_append, namesApart, ih, values_verbatim, List.append_assoc]
    | value literal =>
      rw [List.cons_append, namesApart, namesApart, ih, values_value, List.length_cons,
        List.cons_append, Nat.add_assoc, Nat.add_comm 1]

/-- The pieces, written after this many values, pass with the names in each of them. -/
def PassApart (position : Nat) (pieces : List Piece) : Prop :=
  Passes (chars position pieces) (namesApart position pieces)

/-- The pieces, written after this many values, pass with the names of their values. -/
def PassFrom (position : Nat) (pieces : List Piece) : Prop :=
  Passes (chars position pieces) (namesFrom position (values pieces))

/-- Words that begin with a break. -/
def Breaks (word : String) : Prop :=
  ∃ c rest, word.toList = c :: rest ∧ isBreak c = true

theorem PassApart.before {position : Nat} {pieces : List Piece} {word : String}
    (opening : Opening word.toList) (pass : PassApart position pieces) :
    PassApart position (.words word :: pieces) := by
  rw [PassApart, chars_words]
  exact opening.before pass

theorem PassApart.glue {position : Nat} {a b : List Piece} {word : String} (breaks : Breaks word)
    (first : PassApart position a)
    (second : PassApart (position + (values a).length) (.words word :: b)) :
    PassApart position (a ++ .words word :: b) := by
  obtain ⟨c, rest, begins, isBreak⟩ := breaks
  rw [PassApart, chars_words, begins] at second
  rw [PassApart, chars_append, chars_words, begins, namesApart_append]
  exact Passes.glue first isBreak second

theorem passApart_nil (position : Nat) : PassApart position [] :=
  passes_nil

theorem passApart_words {word : String} (passes : Passes word.toList []) (position : Nat) :
    PassApart position [.words word] := by
  rw [PassApart, chars_words, chars_nil, List.append_nil]
  exact passes

theorem passApart_verbatim {text : String} (outside : EndsOutside text) (position : Nat) :
    PassApart position [.verbatim text] := by
  rw [PassApart, chars_verbatim, namesApart, chars_nil, namesApart, List.append_nil,
    List.append_nil]
  exact outside.passes

theorem passApart_value (literal : Literal) (position : Nat) :
    PassApart position [.value literal] := by
  rw [PassApart, chars_value, chars_nil, List.append_nil]
  exact passes_parameterName position

/-- A name that is written between backticks holds none. -/
theorem passes_quoteIdentifier {name : String} (changed : quoteIdentifier name ≠ name) :
    Passes (quoteIdentifier name).toList [] := by
  have unquoted : (name.toList.any fun c => c == '\x60' || c == '.') = false := by
    rw [← Bool.not_eq_true]
    intro special
    exact changed (if_pos special)
  have plain : '\x60' ∉ name.toList := by
    intro mem
    have := List.any_eq_false.1 unquoted '\x60' mem
    simp at this
  have quoted : (quoteIdentifier name).toList = '\x60' :: (name.toList ++ ['\x60']) := by
    simp [quoteIdentifier, unquoted]
  rw [quoted]
  exact passes_quotedName plain

theorem passApart_name {name : String}
    (outside : ∀ text ∈ callerTexts [.name name], EndsOutside text) (position : Nat) :
    PassApart position [.name name] := by
  rw [PassApart, chars_name, namesApart, chars_nil, namesApart, List.append_nil, List.append_nil]
  refine ⟨?_, rfl⟩
  by_cases asIs : quoteIdentifier name = name
  · rw [asIs]
    exact outside name (by simp [callerTexts, Piece.callerText?, asIs])
  · exact (passes_quoteIdentifier asIs).outside

/-- Where the texts of the caller hold no names, only values have them. -/
theorem namesApart_of_nameless {pieces : List Piece}
    (nameless : ∀ text ∈ callerTexts pieces, generatedNames .code text.toList = []) :
    ∀ position, namesApart position pieces = namesFrom position (values pieces) := by
  induction pieces with
  | nil => exact fun _ => rfl
  | cons piece rest ih =>
    have others := ih fun text mem => nameless text <| by
      rw [callerTexts, List.filterMap_cons]
      split
      · exact mem
      · exact List.mem_cons_of_mem _ mem
    intro position
    cases piece with
    | words text => exact others position
    | verbatim text =>
      rw [namesApart, nameless text List.mem_cons_self, others]
      rfl
    | name name =>
      have alone : generatedNames .code (quoteIdentifier name).toList = [] := by
        by_cases asIs : quoteIdentifier name = name
        · rw [asIs]
          exact nameless name (by simp [callerTexts, Piece.callerText?, asIs])
        · exact (passes_quoteIdentifier asIs).names
      rw [namesApart, alone, others]
      rfl
    | value literal =>
      rw [namesApart, others]
      rfl

theorem PassApart.passFrom {position : Nat} {pieces : List Piece} (pass : PassApart position pieces)
    (clean : ∀ text ∈ callerTexts pieces, Clean text) : PassFrom position pieces := by
  rw [PassFrom, ← namesApart_of_nameless fun text mem => (clean text mem).nameless]
  exact pass

/-- Words before and after. -/
theorem PassApart.enclosed {position : Nat} {pieces : List Piece} {opening closing : String}
    (opens : Opening opening.toList) (breaks : Breaks closing) (closes : Passes closing.toList [])
    (pass : PassApart position pieces) :
    PassApart position (.words opening :: pieces ++ [.words closing]) :=
  (pass.glue breaks (passApart_words closes _)).before opens

/-- Words between. -/
theorem PassApart.joined {position : Nat} {a b : List Piece} {word : String}
    (opens : Opening word.toList) (breaks : Breaks word) (first : PassApart position a)
    (second : PassApart (position + (values a).length) b) :
    PassApart position (a ++ .words word :: b) :=
  first.glue breaks (second.before opens)

theorem passApart_separated {word : String} (opens : Opening word.toList) (breaks : Breaks word) :
    ∀ (parts : List (List Piece)) (position : Nat),
      (∀ part ∈ parts, ∀ position, PassApart position part) →
      PassApart position (separated (.words word) parts) := by
  intro parts
  induction parts with
  | nil => exact fun position _ => passApart_nil position
  | cons part rest ih =>
    intro position pass
    cases rest with
    | nil => exact pass part List.mem_cons_self position
    | cons next rest =>
      rw [separated_cons]
      exact (pass part List.mem_cons_self position).joined opens breaks
        (ih _ fun part mem => pass part (List.mem_cons_of_mem _ mem))

theorem opening_comma : Opening ", ".toList := ⟨rfl, rfl⟩

theorem breaks_comma : Breaks ", " := ⟨_, _, rfl, rfl⟩

theorem breaks_parenthesis : Breaks ")" := ⟨_, _, rfl, rfl⟩

theorem passes_parenthesis : Passes ")".toList [] := ⟨rfl, rfl⟩

theorem PassApart.parenthesized {position : Nat} {pieces : List Piece}
    (pass : PassApart position pieces) :
    PassApart position (.words "(" :: pieces ++ [.words ")"]) := by
  have opens : Opening "(".toList := ⟨rfl, rfl⟩
  exact pass.enclosed opens breaks_parenthesis passes_parenthesis

/-! ## Expressions -/

theorem Column.passApart (source : Column)
    (outside : ∀ text ∈ callerTexts [source.piece], EndsOutside text) (position : Nat) :
    PassApart position [source.piece] := by
  cases source with
  | named name => exact passApart_name outside position
  | mapped fragment =>
    exact passApart_verbatim (outside fragment (List.mem_singleton_self _)) position

theorem opening_operator (op : Operator) : Opening (" " ++ op.word ++ " ").toList := by
  cases op with
  | comparison op => cases op <;> exact ⟨rfl, rfl⟩
  | calculation op => cases op <;> exact ⟨rfl, rfl⟩
  | like => exact ⟨rfl, rfl⟩

theorem breaks_operator (op : Operator) : Breaks (" " ++ op.word ++ " ") := by
  refine ⟨' ', (op.word ++ " ").toList, ?_, rfl⟩
  rw [String.append_assoc, String.toList_append]
  rfl

theorem opening_function (f : Function) : Opening f.word.toList := by
  cases f <;> exact ⟨rfl, rfl⟩

theorem passApart_list {es : List Expression} {position : Nat}
    (each : ∀ e ∈ es, ∀ position, PassApart position e.pieces) :
    PassApart position (separated (.words ", ") (Expression.allPieces es)) := by
  refine passApart_separated opening_comma breaks_comma _ position fun part mem => ?_
  rw [Expression.allPieces_eq_map] at mem
  obtain ⟨e, isItem, rfl⟩ := List.mem_map.1 mem
  exact each e isItem

theorem callerTexts_list (es : List Expression) :
    callerTexts (separated (.words ", ") (Expression.allPieces es)) =
      es.flatMap fun e => callerTexts e.pieces := by
  rw [callerTexts, filterMap_separated _ rfl, Expression.allPieces_eq_map, List.flatMap_map]
  rfl

theorem callerTexts_enclosed (opening closing : String) (pieces : List Piece) :
    callerTexts (.words opening :: pieces ++ [.words closing]) = callerTexts pieces := by
  simp

theorem callerTexts_node (opening word closing : String) (a b : List Piece) :
    callerTexts (.words opening :: a ++ .words word :: b ++ [.words closing]) =
      callerTexts a ++ callerTexts b := by
  simp

/-- An operation in parentheses. -/
theorem PassApart.node {position : Nat} {a b : List Piece} {word : String}
    (opens : Opening word.toList) (breaks : Breaks word) (first : PassApart position a)
    (second : PassApart (position + (values a).length) b) :
    PassApart position (.words "(" :: a ++ .words word :: b ++ [.words ")"]) :=
  (first.joined opens breaks second).parenthesized

theorem passApart_unary (op : UnaryOperator) {operand : Expression} {position : Nat}
    (inside : PassApart position operand.pieces) :
    PassApart position (Expression.unary op operand).pieces := by
  cases op with
  | negate =>
    have bracketed : PassApart position (.words "(" :: (operand.pieces ++ [.words ")"])) :=
      inside.parenthesized
    have minus : PassApart position [.words UnaryOperator.negate.word] :=
      passApart_words ⟨rfl, rfl⟩ position
    have breaks : Breaks "(" := ⟨_, _, rfl, rfl⟩
    have whole := minus.glue breaks bracketed
    exact whole
  | isNull =>
    have breaks : Breaks " IS NULL" := ⟨_, _, rfl, rfl⟩
    have test : PassApart position (operand.pieces ++ [.words " IS NULL"]) :=
      inside.glue breaks (passApart_words ⟨rfl, rfl⟩ _)
    have bracketed := test.parenthesized
    simpa [Expression.pieces, UnaryOperator.word] using bracketed
  | isNotNull =>
    have breaks : Breaks " IS NOT NULL" := ⟨_, _, rfl, rfl⟩
    have test : PassApart position (operand.pieces ++ [.words " IS NOT NULL"]) :=
      inside.glue breaks (passApart_words ⟨rfl, rfl⟩ _)
    have bracketed := test.parenthesized
    simpa [Expression.pieces, UnaryOperator.word] using bracketed

theorem callerTexts_unary (op : UnaryOperator) (operand : Expression) :
    callerTexts (Expression.unary op operand).pieces = callerTexts operand.pieces := by
  cases op <;> simp [Expression.pieces]

theorem passApart_inList {item : Expression} {items : List Expression} {position : Nat}
    (inItem : PassApart position item.pieces)
    (inItems : ∀ e ∈ items, ∀ position, PassApart position e.pieces) :
    PassApart position (Expression.inList item items).pieces := by
  have opens : Opening "(".toList := ⟨rfl, rfl⟩
  have breaks : Breaks "))" := ⟨_, _, rfl, rfl⟩
  have closes : Passes "))".toList [] := ⟨rfl, rfl⟩
  have list : PassApart (position + (values item.pieces).length)
      (.words "(" :: separated (.words ", ") (Expression.allPieces items) ++ [.words "))"]) :=
    (passApart_list inItems).enclosed opens breaks closes
  have opensIn : Opening " IN ".toList := ⟨rfl, rfl⟩
  have breaksIn : Breaks " IN " := ⟨_, _, rfl, rfl⟩
  have whole := (inItem.joined opensIn breaksIn list).before opens
  simpa [Expression.pieces] using whole

theorem callerTexts_inList (item : Expression) (items : List Expression) :
    callerTexts (Expression.inList item items).pieces =
      callerTexts item.pieces ++ items.flatMap fun e => callerTexts e.pieces := by
  rw [← callerTexts_list]
  simp [Expression.pieces]

theorem passApart_function (f : Function) {args : List Expression} {position : Nat}
    (inArgs : ∀ e ∈ args, ∀ position, PassApart position e.pieces) :
    PassApart position (Expression.function f args).pieces := by
  have list : PassApart position
      (.words "(" :: separated (.words ", ") (Expression.allPieces args) ++ [.words ")"]) :=
    (passApart_list inArgs).parenthesized
  exact list.before (opening_function f)

theorem callerTexts_function (f : Function) (args : List Expression) :
    callerTexts (Expression.function f args).pieces =
      args.flatMap fun e => callerTexts e.pieces := by
  rw [← callerTexts_list]
  simp [Expression.pieces]

/-- The text of a compiled expression passes with the names of its values. -/
theorem Expression.Generated.passApart {e : Expression} {fromColumn : Column → Prop}
    (generated : e.Generated fromColumn) :
    (∀ text ∈ callerTexts e.pieces, EndsOutside text) →
      ∀ position, PassApart position e.pieces := by
  induction generated with
  | @column source _ => exact source.passApart
  | @value literal _ => exact fun _ => passApart_value literal
  | wildcard => exact fun _ => passApart_words ⟨rfl, rfl⟩
  | and _ _ inLeft inRight | or _ _ inLeft inRight =>
    intro outside position
    rw [Expression.pieces, callerTexts_node, List.forall_mem_append] at outside
    exact (inLeft outside.1 position).node ⟨rfl, rfl⟩ ⟨_, _, rfl, rfl⟩ (inRight outside.2 _)
  | not _ inside =>
    intro outside position
    rw [Expression.pieces, callerTexts_enclosed] at outside
    have opens : Opening "NOT (".toList := ⟨rfl, rfl⟩
    exact (inside outside position).enclosed opens breaks_parenthesis passes_parenthesis
  | unary op _ inside =>
    intro outside position
    rw [callerTexts_unary] at outside
    exact passApart_unary op (inside outside position)
  | binary op _ _ inLeft inRight =>
    intro outside position
    rw [Expression.pieces, callerTexts_node, List.forall_mem_append] at outside
    exact (inLeft outside.1 position).node (opening_operator op) (breaks_operator op)
      (inRight outside.2 _)
  | inList _ _ _ inItem inItems =>
    intro outside position
    rw [callerTexts_inList, List.forall_mem_append] at outside
    refine passApart_inList (inItem outside.1 position) fun e isItem => inItems e isItem ?_
    exact fun text mem => outside.2 text (List.mem_flatMap.2 ⟨e, isItem, mem⟩)
  | function f _ inArgs =>
    intro outside position
    rw [callerTexts_function] at outside
    refine passApart_function f fun e isArg => inArgs e isArg ?_
    exact fun text mem => outside text (List.mem_flatMap.2 ⟨e, isArg, mem⟩)

/-! ## Clauses -/

theorem Filter.passApart {filter : Filter} {fromColumn : Column → Prop}
    (generated : ∀ e ∈ filter.conditions, e.Generated fromColumn)
    (outside : ∀ text ∈ callerTexts filter.pieces, EndsOutside text) (position : Nat) :
    PassApart position filter.pieces := by
  unfold Filter.pieces at outside ⊢
  split
  · exact passApart_nil position
  · rename_i nonempty
    rw [if_neg nonempty, callerTexts_words, callerTexts, filterMap_separated _ rfl,
      List.flatMap_map] at outside
    have opening : Opening filter.clause.word.toList := by
      cases filter.clause <;> exact ⟨rfl, rfl⟩
    refine PassApart.before opening (passApart_separated ⟨rfl, rfl⟩ ⟨_, _, rfl, rfl⟩ _ _ ?_)
    intro part mem
    obtain ⟨e, isCondition, rfl⟩ := List.mem_map.1 mem
    refine (generated e isCondition).passApart fun text mem => outside text ?_
    exact List.mem_flatMap.2 ⟨e, isCondition, mem⟩

theorem callerTexts_trailing (texts : List String) : callerTexts (trailing texts) = texts := by
  induction texts with
  | nil => rfl
  | cons text rest ih => exact congrArg (text :: ·) ih

theorem PassApart.trailing {position : Nat} :
    ∀ (texts : List String) {pieces : List Piece}, (∀ text ∈ texts, EndsOutside text) →
      PassApart position pieces → PassApart position (pieces ++ trailing texts) := by
  intro texts
  induction texts with
  | nil =>
    intro pieces _ pass
    rw [show Sql.trailing [] = [] from rfl, List.append_nil]
    exact pass
  | cons text rest ih =>
    intro pieces outside pass
    have verbatim : PassApart (position + (values pieces).length) [.verbatim text] :=
      passApart_verbatim (outside text List.mem_cons_self) _
    have opens : Opening " ".toList := ⟨rfl, rfl⟩
    have breaks : Breaks " " := ⟨_, _, rfl, rfl⟩
    have longer : PassApart position (pieces ++ .words " " :: [.verbatim text]) :=
      pass.joined opens breaks verbatim
    have split : pieces ++ Sql.trailing (text :: rest) =
        (pieces ++ .words " " :: [.verbatim text]) ++ Sql.trailing rest := by
      rw [List.append_assoc]
      rfl
    rw [split]
    exact ih (fun text mem => outside text (List.mem_cons_of_mem _ mem)) longer

/-- A column under its label. -/
theorem passApart_labelled {label : String} {source : Column}
    (outside : ∀ text ∈ callerTexts ((Expression.column source).pieces ++
      [.words " AS ", .name label]), EndsOutside text) (position : Nat) :
    PassApart position ((Expression.column source).pieces ++ [.words " AS ", .name label]) := by
  rw [callerTexts_append, List.forall_mem_append] at outside
  exact (source.passApart outside.1 position).joined ⟨rfl, rfl⟩ ⟨_, _, rfl, rfl⟩
    (passApart_name outside.2 _)

theorem SelectList.passApart {list : SelectList}
    (columns : ∀ item ∈ list.columns, ∃ source, item.2 = .column source)
    (outside : ∀ text ∈ callerTexts list.pieces, EndsOutside text) (position : Nat) :
    PassApart position list.pieces := by
  unfold SelectList.pieces at outside ⊢
  simp only [List.cons_append, callerTexts_words, callerTexts_append, List.forall_mem_append,
    callerTexts_trailing] at outside ⊢
  refine PassApart.before ⟨rfl, rfl⟩ (PassApart.trailing _ outside.2 ?_)
  split
  · exact passApart_words ⟨rfl, rfl⟩ position
  · rename_i nonempty
    have inItems := outside.1
    rw [if_neg nonempty, callerTexts, filterMap_separated _ rfl, List.flatMap_map] at inItems
    refine passApart_separated opening_comma breaks_comma _ position fun part mem => ?_
    obtain ⟨⟨label, e⟩, isItem, rfl⟩ := List.mem_map.1 mem
    obtain ⟨source, rfl⟩ := columns _ isItem
    refine passApart_labelled fun text mem => inItems text ?_
    exact List.mem_flatMap.2 ⟨_, isItem, mem⟩

theorem orderByPieces_passApart {keys : List (Expression × Direction)}
    (columns : ∀ key ∈ keys, ∃ source, key.1 = .column source)
    (outside : ∀ text ∈ callerTexts (orderByPieces keys), EndsOutside text) (position : Nat) :
    PassApart position (orderByPieces keys) := by
  unfold orderByPieces at outside ⊢
  split
  · exact passApart_nil position
  · rename_i nonempty
    rw [if_neg nonempty, callerTexts_words, callerTexts, filterMap_separated _ rfl,
      List.flatMap_map] at outside
    refine PassApart.before ⟨rfl, rfl⟩
      (passApart_separated opening_comma breaks_comma _ position fun part mem => ?_)
    obtain ⟨⟨e, direction⟩, isKey, rfl⟩ := List.mem_map.1 mem
    obtain ⟨source, rfl⟩ := columns _ isKey
    have outside' : ∀ text ∈ callerTexts [source.piece], EndsOutside text := by
      refine fun text mem => outside text (List.mem_flatMap.2 ⟨_, isKey, ?_⟩)
      exact List.mem_filterMap.2 (by
        obtain ⟨piece, isPiece, result⟩ := List.mem_filterMap.1 mem
        exact ⟨piece, List.mem_append_left _ isPiece, result⟩)
    intro position
    have column := source.passApart outside' position
    cases direction with
    | ascending => exact column.glue ⟨_, _, rfl, rfl⟩ (passApart_words ⟨rfl, rfl⟩ _)
    | descending => exact column.glue ⟨_, _, rfl, rfl⟩ (passApart_words ⟨rfl, rfl⟩ _)

theorem opening_numeral (n : UInt64) : Opening (toString n.toNat).toList := by
  refine opening_of_plain fun c mem => ?_
  have digit := toString_isDigit n.toNat c mem
  have other : ∀ d : Char, d.isDigit = false → c ≠ d := by
    rintro d notDigit rfl
    rw [digit] at notDigit
    cases notDigit
  simp [State.ofCode, other '\x27' rfl, other '\x22' rfl, other '\x60' rfl, other '-' rfl,
    other '#' rfl, other '/' rfl, other '@' rfl]

theorem Limit.passApart (limit : Limit) (position : Nat) : PassApart position limit.pieces := by
  have word : ∀ {w : String} {rest : List Piece}, Opening w.toList → PassApart position rest →
      PassApart position (.words w :: rest) := fun opening pass => pass.before opening
  unfold Limit.pieces
  split
  · exact passApart_nil position
  · exact word ⟨rfl, rfl⟩ (word (opening_numeral _) (passApart_nil position))
  · exact word ⟨rfl, rfl⟩ (word (opening_numeral _) (word ⟨rfl, rfl⟩
      (word (opening_numeral _) (passApart_nil position))))

theorem Limit.callerTexts_pieces (limit : Limit) : callerTexts limit.pieces = [] := by
  unfold Limit.pieces
  split <;> rfl

/-- The text of pieces that pass is settled. -/
theorem PassFrom.settles {pieces : List Piece} (pass : PassFrom 0 pieces) :
    Settles (text pieces).toList (namesFrom 0 (values pieces)) := by
  rw [text_toList]
  exact Passes.settles pass

theorem PassApart.endsOutside {pieces : List Piece} (pass : PassApart 0 pieces) :
    EndsOutside (text pieces) := by
  rw [EndsOutside, text_toList]
  exact pass.outside

/-! ## A statement around a statement -/

/-- An alias is a letter with a number. -/
theorem eq_or_isDigit_of_mem_tableAlias {index : Nat} {c : Char}
    (mem : c ∈ (tableAlias index).toList) : c = 't' ∨ c.isDigit = true := by
  rw [tableAlias, String.toList_append] at mem
  rcases List.mem_append.1 mem with mem | mem
  · exact .inl (List.mem_singleton.1 mem)
  · exact .inr (toString_isDigit index c mem)

theorem tableAlias_letters (index : Nat) : ∀ c ∈ (tableAlias index).toList,
    c ≠ '.' ∧ c ≠ '\x60' ∧ c ≠ '@' := by
  intro c mem
  rcases eq_or_isDigit_of_mem_tableAlias mem with rfl | digit
  · decide
  · refine ⟨?_, ?_, ?_⟩ <;> rintro rfl <;> cases digit

theorem quoteIdentifier_tableAlias (index : Nat) :
    quoteIdentifier (tableAlias index) = "\x60" ++ tableAlias index ++ "\x60" := by
  refine if_neg ?_
  rw [Bool.not_eq_true, List.any_eq_false]
  intro c mem
  have letter := tableAlias_letters index c mem
  simp [letter]

/-- Aliases are written between backticks. -/
theorem callerTexts_tableAlias (index : Nat) : callerTexts [.name (tableAlias index)] = [] := by
  have longer : quoteIdentifier (tableAlias index) ≠ tableAlias index := by
    rw [quoteIdentifier_tableAlias]
    intro same
    have lengths := congrArg String.length same
    simp only [String.length_append] at lengths
    have one : "\x60".length = 1 := rfl
    omega
  simp [callerTexts, Piece.callerText?, longer]

/-- The outer list, in which every column is qualified by the alias. -/
def OuterSelect.listPieces (select : OuterSelect) : List Piece :=
  match select.list with
  | .columns names =>
    separated (.words ", ") (names.map fun name => [.name select.table, .words ".", .name name])
  | .countStar => [.words "COUNT(*)"]

theorem OuterSelect.pieces_eq (select : OuterSelect) :
    select.pieces = .words "SELECT " :: select.listPieces ++ trailing select.after
      ++ [.words " FROM (", .verbatim select.inner, .words ") AS ", .name select.table] :=
  rfl

/-- What a statement around a statement says before the inner one. -/
def OuterSelect.opening (select : OuterSelect) : List Piece :=
  .words "SELECT " :: select.listPieces ++ trailing select.after ++ [.words " FROM ("]

/-- What a statement around a statement says after the inner one. -/
def OuterSelect.closing (select : OuterSelect) : List Piece :=
  [.words ") AS ", .name select.table]

theorem OuterSelect.text_pieces (select : OuterSelect) :
    text select.pieces = text select.opening ++ select.inner ++ text select.closing := by
  have apart : select.pieces = select.opening ++ .verbatim select.inner :: select.closing := by
    simp [OuterSelect.pieces_eq, opening, closing]
  rw [apart, ← String.toList_inj]
  simp [text_toList, closing]

/-- The names that are listed. -/
def OuterList.names : OuterList → List String
  | .columns names => names
  | .countStar => []

section

variable {select : OuterSelect} {index : Nat}

theorem OuterSelect.callerTexts_listPieces (isAlias : select.table = tableAlias index) :
    callerTexts select.listPieces = callerTexts (select.list.names.map .name) := by
  have qualified : ∀ name, callerTexts [.name select.table, .words ".", .name name] =
      callerTexts [.name name] := by
    intro name
    have alone := callerTexts_append [.name select.table] [.words ".", .name name]
    rw [isAlias, callerTexts_tableAlias] at alone
    rw [isAlias]
    exact alone
  unfold OuterSelect.listPieces
  split
  · rename_i names isList
    rw [isList, callerTexts, filterMap_separated _ rfl, List.flatMap_map]
    change (names.flatMap fun name => callerTexts _) = callerTexts (names.map .name)
    simp only [qualified]
    clear isList
    induction names with
    | nil => rfl
    | cons name rest ih =>
      rw [List.flatMap_cons, List.map_cons, ih]
      exact (callerTexts_append [.name name] _).symm
  · rename_i isList
    rw [isList]
    rfl

theorem OuterSelect.callerTexts_opening (isAlias : select.table = tableAlias index) :
    callerTexts select.opening =
      callerTexts (select.list.names.map .name) ++ select.after := by
  rw [← callerTexts_listPieces isAlias]
  simp [opening, callerTexts_trailing]

theorem OuterSelect.passApart_listPieces (isAlias : select.table = tableAlias index)
    (outside : ∀ text ∈ callerTexts (select.list.names.map .name), EndsOutside text)
    (position : Nat) : PassApart position select.listPieces := by
  unfold OuterSelect.listPieces
  split
  · rename_i names isList
    rw [isList] at outside
    refine passApart_separated opening_comma breaks_comma _ position fun part mem => ?_
    obtain ⟨name, isName, rfl⟩ := List.mem_map.1 mem
    intro position
    have table : PassApart position [.name select.table] := by
      refine passApart_name ?_ position
      rw [isAlias, callerTexts_tableAlias]
      exact nofun
    have column : ∀ position, PassApart position [.name name] := by
      refine passApart_name fun text mem => outside text ?_
      obtain ⟨piece, isPiece, result⟩ := List.mem_filterMap.1 mem
      refine List.mem_filterMap.2 ⟨piece, ?_, result⟩
      rw [List.mem_singleton.1 isPiece]
      exact List.mem_map_of_mem isName
    have opens : Opening ".".toList := ⟨rfl, rfl⟩
    have breaks : Breaks "." := ⟨_, _, rfl, rfl⟩
    have qualified : PassApart position ([.name select.table] ++ .words "." :: [.name name]) :=
      table.joined opens breaks (column _)
    exact qualified
  · exact passApart_words ⟨rfl, rfl⟩ position

theorem OuterSelect.values_listPieces (select : OuterSelect) : values select.listPieces = [] := by
  unfold OuterSelect.listPieces
  split
  · rw [values_separated, List.flatMap_map]
    exact List.flatMap_eq_nil_iff.2 fun _ _ => rfl
  · rfl

theorem OuterSelect.values_opening (select : OuterSelect) : values select.opening = [] := by
  simp [opening, OuterSelect.values_listPieces, values_trailing]

/-- What is said before the parenthesis of the inner statement. -/
theorem OuterSelect.passApart_head (isAlias : select.table = tableAlias index)
    (outside : ∀ text ∈ callerTexts select.opening, EndsOutside text) :
    PassApart 0 (.words "SELECT " :: select.listPieces ++ trailing select.after) := by
  rw [callerTexts_opening isAlias, List.forall_mem_append] at outside
  exact PassApart.trailing _ outside.2
    ((OuterSelect.passApart_listPieces isAlias outside.1 0).before ⟨rfl, rfl⟩)

theorem OuterSelect.passApart_opening (isAlias : select.table = tableAlias index)
    (outside : ∀ text ∈ callerTexts select.opening, EndsOutside text) :
    PassApart 0 select.opening := by
  have breaks : Breaks " FROM (" := ⟨_, _, rfl, rfl⟩
  exact (passApart_head isAlias outside).glue breaks (passApart_words ⟨rfl, rfl⟩ _)

/-- The inner statement is read from code. -/
theorem OuterSelect.scan_opening (isAlias : select.table = tableAlias index)
    (outside : ∀ text ∈ callerTexts select.opening, EndsOutside text) :
    scan .code (text select.opening).toList = .code := by
  have head := (passApart_head isAlias outside).outside
  rw [text_toList, opening, chars_append]
  simp only [chars_words, chars_nil, List.append_nil]
  exact scan_glue_outside head (by decide)

/-- The names in a statement around a statement are those of the inner one. -/
theorem OuterSelect.names_text (isAlias : select.table = tableAlias index)
    (clean : ∀ text ∈ callerTexts select.opening, Clean text) :
    generatedNames .code ((text select.pieces).toList ++ [';']) =
      generatedNames .code select.inner.toList := by
  have outside := endsOutside_of_clean clean
  have opening : Opening (text select.opening).toList := by
    refine ⟨scan_opening isAlias outside, ?_⟩
    have names := ((passApart_opening isAlias outside).passFrom clean).settles.names
    rw [values_opening] at names
    exact names
  have whole : (text select.pieces).toList ++ [';'] =
      (text select.opening).toList ++ (select.inner.toList ++
        ')' :: (" AS ".toList ++ (quoteIdentifier select.table).toList ++ [';'])) := by
    rw [OuterSelect.text_pieces, String.toList_append, String.toList_append, closing,
      text_toList [.words ") AS ", .name select.table]]
    simp only [chars_words, chars_name, chars_nil, List.append_assoc, List.append_nil]
    rfl
  have noSign : '@' ∉ " AS ".toList ++ (quoteIdentifier select.table).toList ++ [';'] := by
    rw [isAlias, quoteIdentifier_tableAlias]
    simp only [String.toList_append, List.mem_append, not_or]
    have letters : '@' ∉ (tableAlias index).toList := fun mem =>
      (tableAlias_letters index _ mem).2.2 rfl
    exact ⟨⟨by decide, ⟨by decide, letters⟩, by decide⟩, by decide⟩
  rw [whole, opening.names_before]
  exact generatedNames_tail (by decide) noSign

end

end Sql

end PlanCompiler
