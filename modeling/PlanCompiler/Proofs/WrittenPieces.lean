/-
# Proofs.WrittenPieces -- pieces with the texts they are written as

A piece that is written into a buffer adds its text to the buffer, and a value adds
itself to the table besides.  `written` lists the pieces with these texts, given how
many values have been bound before.  So the text of a buffer is the texts of its
pieces one after the other (`write_eq`), and the placeholders among them are the
names of the values in order (`placeholders_written`).

The values of an expression are its `leafValues`, from left to right.
-/
import PlanCompiler.Sql.Clause

namespace PlanCompiler.Sql

set_option autoImplicit false

/-! ## Writing -/

/-- The pieces, each with the text it is written as after this many values. -/
def written (position : Nat) : List Piece → List (Piece × String)
  | [] => []
  | .words text :: rest => (.words text, text) :: written position rest
  | .name name :: rest => (.name name, quoteIdentifier name) :: written position rest
  | .verbatim text :: rest => (.verbatim text, text) :: written position rest
  | .value literal :: rest => (.value literal, parameterName position) :: written (position + 1) rest

/-- The text of written pieces. -/
def joined (pieces : List (Piece × String)) : String :=
  String.join (pieces.map Prod.snd)

/-- The placeholders among written pieces, each with the value that it stands for. -/
def placeholders (pieces : List (Piece × String)) : List (String × Literal) :=
  pieces.filterMap fun (piece, text) => piece.value?.map fun value => (text, value)

@[simp] theorem values_append (a b : List Piece) : values (a ++ b) = values a ++ values b :=
  List.filterMap_append

@[simp] theorem values_nil : values [] = [] := rfl

@[simp] theorem values_words (text : String) (rest : List Piece) :
    values (.words text :: rest) = values rest := rfl

@[simp] theorem values_name (name : String) (rest : List Piece) :
    values (.name name :: rest) = values rest := rfl

@[simp] theorem values_verbatim (text : String) (rest : List Piece) :
    values (.verbatim text :: rest) = values rest := rfl

@[simp] theorem values_value (literal : Literal) (rest : List Piece) :
    values (.value literal :: rest) = literal :: values rest := rfl

theorem written_append (a b : List Piece) (position : Nat) :
    written position (a ++ b) = written position a ++ written (position + (values a).length) b := by
  induction a generalizing position with
  | nil => simp [written]
  | cons piece rest ih =>
    cases piece with
    | value literal =>
      rw [List.cons_append, written, written, ih, values_value, List.length_cons, List.cons_append,
        Nat.add_assoc, Nat.add_comm 1]
    | words text => simp only [List.cons_append, written, ih, values_words]
    | name name => simp only [List.cons_append, written, ih, values_name]
    | verbatim text => simp only [List.cons_append, written, ih, values_verbatim]

/-- A buffer that pieces are written into gets their texts and their values. -/
theorem Buffer.write_eq (pieces : List Piece) (buffer : Buffer) :
    buffer.write pieces =
      ⟨buffer.text ++ joined (written buffer.parameters.values.length pieces),
        ⟨buffer.parameters.values ++ values pieces⟩⟩ := by
  induction pieces generalizing buffer with
  | nil => simp [write, written, joined]
  | cons piece rest ih =>
    change (buffer.push piece).write rest = _
    rw [ih]
    cases piece <;>
      simp [push, append, appendValue, Parameters.bind, Parameters.next, written, joined,
        String.append_assoc]

theorem text_eq (pieces : List Piece) : text pieces = joined (written 0 pieces) := by
  simp [text, Buffer.write_eq, Buffer.empty, Parameters.empty]

/-- The placeholders are the names of the values, in order. -/
theorem placeholders_written (pieces : List Piece) (position : Nat) :
    placeholders (written position pieces) =
      Parameters.entriesFrom position (values pieces) := by
  induction pieces generalizing position with
  | nil => rfl
  | cons piece rest ih =>
    cases piece with
    | value literal =>
      rw [values_value, Parameters.entriesFrom, ← ih]
      rfl
    | words text => exact ih position
    | name name => exact ih position
    | verbatim text => exact ih position

/-- The characters of pieces that are written after this many values. -/
def chars (position : Nat) (pieces : List Piece) : List Char :=
  (joined (written position pieces)).toList

@[simp] theorem chars_nil (position : Nat) : chars position [] = [] := rfl

@[simp] theorem chars_words (position : Nat) (text : String) (rest : List Piece) :
    chars position (.words text :: rest) = text.toList ++ chars position rest := by
  simp [chars, written, joined]

@[simp] theorem chars_name (position : Nat) (name : String) (rest : List Piece) :
    chars position (.name name :: rest) = (quoteIdentifier name).toList ++ chars position rest := by
  simp [chars, written, joined]

@[simp] theorem chars_verbatim (position : Nat) (text : String) (rest : List Piece) :
    chars position (.verbatim text :: rest) = text.toList ++ chars position rest := by
  simp [chars, written, joined]

@[simp] theorem chars_value (position : Nat) (literal : Literal) (rest : List Piece) :
    chars position (.value literal :: rest) =
      (parameterName position).toList ++ chars (position + 1) rest := by
  simp [chars, written, joined]

@[simp] theorem chars_append (position : Nat) (a b : List Piece) :
    chars position (a ++ b) = chars position a ++ chars (position + (values a).length) b := by
  simp [chars, written_append, joined]

theorem text_toList (pieces : List Piece) : (text pieces).toList = chars 0 pieces := by
  rw [text_eq, chars]

/-! ## Names of parameters -/

theorem entriesFrom_append (a b : List Literal) (position : Nat) :
    Parameters.entriesFrom position (a ++ b) =
      Parameters.entriesFrom position a ++ Parameters.entriesFrom (position + a.length) b := by
  induction a generalizing position with
  | nil => rfl
  | cons value rest ih =>
    rw [List.cons_append, Parameters.entriesFrom, Parameters.entriesFrom, ih, List.length_cons,
      List.cons_append, Nat.add_assoc, Nat.add_comm 1]

theorem entriesFrom_names (values : List Literal) (position : Nat) :
    (Parameters.entriesFrom position values).map Prod.fst =
      (List.range' position values.length).map parameterName := by
  induction values generalizing position with
  | nil => rfl
  | cons value rest ih => simp [Parameters.entriesFrom, ih, List.range'_succ]

theorem entriesFrom_values (values : List Literal) (position : Nat) :
    (Parameters.entriesFrom position values).map Prod.snd = values := by
  induction values generalizing position with
  | nil => rfl
  | cons value rest ih => simp [Parameters.entriesFrom, ih]

theorem Parameters.entries_names (table : Parameters) :
    table.entries.map Prod.fst = (List.range table.values.length).map parameterName := by
  rw [entries, entriesFrom_names, List.range_eq_range']

theorem Parameters.entries_length (table : Parameters) :
    table.entries.length = table.values.length := by
  simpa using congrArg List.length table.entries_names

/-- Numbers are written in digits. -/
theorem toString_isDigit (n : Nat) : ∀ c ∈ (toString n).toList, c.isDigit = true := by
  intro c mem
  have inDigits : c ∈ Nat.toDigits 10 n := by
    rw [← Nat.toList_repr]
    exact mem
  exact Nat.isDigit_of_mem_toDigits (by decide) (by decide) inDigits

theorem toString_ne_nil (n : Nat) : (toString n).toList ≠ [] := by
  have digits : (toString n).toList = Nat.toDigits 10 n := Nat.toList_repr
  rw [digits]
  exact Nat.toDigits_ne_nil

theorem toString_injective : Function.Injective (toString : Nat → String) := by
  intro a b same
  have digits : Nat.toDigits 10 a = Nat.toDigits 10 b := by
    rw [← Nat.toList_repr, ← Nat.toList_repr]
    exact congrArg String.toList same
  rw [← Nat.ofDigitChars_ten_toDigits (n := a), digits, Nat.ofDigitChars_ten_toDigits]

/-- No two positions have the same name. -/
theorem parameterName_injective : Function.Injective parameterName := by
  intro a b same
  have numbers := toString_injective (String.append_right_inj parameterStart |>.1 same)
  exact Nat.add_left_cancel numbers

/-! ## Expressions -/

theorem separated_cons (between : Piece) (part next : List Piece) (rest : List (List Piece)) :
    separated between (part :: next :: rest) =
      part ++ between :: separated between (next :: rest) := rfl

/-- What stands between the parts adds nothing. -/
theorem filterMap_separated {α : Type} (f : Piece → Option α) {between : Piece}
    (nothing : f between = none) (parts : List (List Piece)) :
    (separated between parts).filterMap f = parts.flatMap (List.filterMap f) := by
  induction parts with
  | nil => rfl
  | cons part rest ih =>
    cases rest with
    | nil => simp [separated]
    | cons next rest =>
      rw [separated_cons, List.filterMap_append, List.filterMap_cons_none nothing, ih]
      simp only [List.flatMap_cons]

theorem values_separated (between : String) (parts : List (List Piece)) :
    values (separated (.words between) parts) = parts.flatMap values :=
  filterMap_separated Piece.value? rfl parts

namespace Expression

mutual

/-- The values of an expression, from left to right. -/
def leafValues : Expression → List Literal
  | .column _ | .raw _ => []
  | .value literal => [literal]
  | .and left right | .or left right | .binary _ left right => leafValues left ++ leafValues right
  | .not operand | .unary _ operand => leafValues operand
  | .inList item items => leafValues item ++ allLeafValues items
  | .function _ args => allLeafValues args

def allLeafValues : List Expression → List Literal
  | [] => []
  | e :: rest => leafValues e ++ allLeafValues rest

end

mutual

/-- Values are bound in the order in which they stand in the expression. -/
theorem values_pieces : ∀ e : Expression, values e.pieces = e.leafValues
  | .column (.named _) | .column (.mapped _) => rfl
  | .value _ | .raw _ => rfl
  | .and a b | .or a b | .binary _ a b => by
    simp [pieces, leafValues, values_pieces a, values_pieces b]
  | .not a | .unary .isNull a | .unary .isNotNull a | .unary .negate a => by
    simp [pieces, leafValues, values_pieces a]
  | .inList a as => by
    simp [pieces, leafValues, values_pieces a, values_separated, values_allPieces as]
  | .function _ as => by
    simp [pieces, leafValues, values_separated, values_allPieces as]

theorem values_allPieces : ∀ es : List Expression, (allPieces es).flatMap values = allLeafValues es
  | [] => rfl
  | e :: rest => by
    simp [allPieces, allLeafValues, values_pieces e, values_allPieces rest]

end

end Expression

end PlanCompiler.Sql
