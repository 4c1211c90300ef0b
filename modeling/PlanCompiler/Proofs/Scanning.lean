/-
# Proofs.Scanning -- scanning a text part by part

The scanner for placeholders reads one character at a time, so the tokens of a text
are those of its parts in turn, each read in the state that the parts before it
leave (`tokens_append`).  A part that ends in code may be scanned alone, and so may
one that is followed by a sign that cannot go on with anything (`tokens_glue`).
-/
import PlanCompiler.Execute.Placeholder

namespace PlanCompiler.Placeholder

set_option autoImplicit false

/-! ## States -/

/-- The state after a text that is read in a state. -/
def scan (state : State) (text : List Char) : State :=
  text.foldl State.next state

namespace State

/-- Within quotes or a block comment, which the end of a line does not close. -/
def isOpen : State → Bool
  | .quoted _ | .escaped _ | .blockComment | .asterisk => true
  | _ => false

/-- Outside quotes and comments, where the text may end.  Two dashes at its end begin a
comment. -/
def isOutside : State → Bool
  | .lineComment | .dashes => false
  | state => !state.isOpen

theorem isOpen_of_isOutside {state : State} (outside : state.isOutside = true) :
    state.isOpen = false := by
  cases state <;> first | rfl | exact outside.symm

def isQuote (c : Char) : Bool :=
  c == '\x27' || c == '\x22' || c == '\x60'

/-- Quotes are the only characters that quote. -/
def IsSound : State → Prop
  | .quoted quote | .escaped quote | .closing quote => isQuote quote = true
  | _ => True

theorem ofCode_sound (c : Char) : (ofCode c).IsSound := by
  unfold ofCode
  split
  · rename_i quote
    simpa [IsSound, isQuote] using quote
  · repeat' split
    all_goals trivial

theorem next_sound {state : State} (sound : state.IsSound) (c : Char) : (state.next c).IsSound := by
  have code := ofCode_sound c
  cases state <;> simp only [next] <;> repeat' split
  all_goals first | exact code | exact sound

end State

theorem scan_sound {state : State} (sound : state.IsSound) (text : List Char) :
    (scan state text).IsSound := by
  induction text generalizing state with
  | nil => exact sound
  | cons c rest ih => exact ih (State.next_sound sound c)

theorem scan_code_sound (text : List Char) : (scan .code text).IsSound :=
  scan_sound (show State.IsSound .code from trivial) text

theorem scan_append (state : State) (a b : List Char) :
    scan state (a ++ b) = scan (scan state a) b :=
  List.foldl_append

/-! ## Tokens -/

/-- The tokens that are complete before the text ends. -/
def emitted : State → List Char → List Token
  | _, [] => []
  | state, c :: rest => state.emit c ++ emitted (state.next c) rest

theorem tokens_eq (state : State) (text : List Char) :
    tokens state text = emitted state text ++ (scan state text).pending := by
  induction text generalizing state with
  | nil => rfl
  | cons c rest ih =>
    rw [tokens, emitted, ih, List.append_assoc]
    rfl

theorem tokens_append (state : State) (a b : List Char) :
    tokens state (a ++ b) = emitted state a ++ tokens (scan state a) b := by
  induction a generalizing state with
  | nil => rfl
  | cons c rest ih =>
    rw [List.cons_append, tokens, emitted, ih, List.append_assoc]
    rfl

/-! ## Breaks -/

/-- Signs that go on with no name and begin no quotes, comments or names. -/
def isBreak (c : Char) : Bool :=
  Text.isBlank c || c == '(' || c == ')' || c == ',' || c == '.' || c == ';'

theorem isNameChar_of_isBlank {c : Char} (blank : Text.isBlank c = true) :
    isNameChar c = false := by
  rw [← Bool.not_eq_true]
  intro inName
  have letters : (48 ≤ c.toNat ∧ c.toNat ≤ 57) ∨ (65 ≤ c.toNat ∧ c.toNat ≤ 90) ∨
      (97 ≤ c.toNat ∧ c.toNat ≤ 122) ∨ c.toNat = 95 ∨ c.toNat = 36 := by
    have spelled : isNameChar c = ((((decide (65 ≤ c.val ∧ c.val ≤ 90) ||
        (decide (97 ≤ c.val) && decide (c.val ≤ 122))) ||
        (decide (48 ≤ c.val) && decide (c.val ≤ 57))) || c == '_') || c == '$') := rfl
    simp only [spelled, Bool.or_eq_true, Bool.and_eq_true, decide_eq_true_eq, beq_iff_eq,
      UInt32.le_iff_toNat_le] at inName
    rcases inName with ((((upper | lower) | digit) | rfl) | rfl)
    · exact .inr (.inl upper)
    · exact .inr (.inr (.inl lower))
    · exact .inl digit
    · decide
    · decide
  simp only [Text.isBlank, Bool.or_eq_true, Bool.and_eq_true, decide_eq_true_eq, beq_iff_eq]
    at blank
  omega

theorem isNameChar_of_isBreak {c : Char} (breaks : isBreak c = true) : isNameChar c = false := by
  simp only [isBreak, Bool.or_eq_true, beq_iff_eq] at breaks
  rcases breaks with ((((blank | rfl) | rfl) | rfl) | rfl) | rfl
  · exact isNameChar_of_isBlank blank
  all_goals decide

/-- A break is none of the signs that mean something to the scanner. -/
theorem ne_of_isBreak {c d : Char} (breaks : isBreak c = true) (other : isBreak d = false) :
    c ≠ d := by
  rintro rfl
  rw [breaks] at other
  cases other

theorem ofCode_break {c : Char} (breaks : isBreak c = true) : State.ofCode c = .code := by
  have quote : c ≠ '\x27' := ne_of_isBreak breaks (by decide)
  have double : c ≠ '\x22' := ne_of_isBreak breaks (by decide)
  have backtick : c ≠ '\x60' := ne_of_isBreak breaks (by decide)
  have dash : c ≠ '-' := ne_of_isBreak breaks (by decide)
  have hash : c ≠ '#' := ne_of_isBreak breaks (by decide)
  have slash : c ≠ '/' := ne_of_isBreak breaks (by decide)
  have sign : c ≠ '@' := ne_of_isBreak breaks (by decide)
  simp [State.ofCode, quote, double, backtick, dash, hash, slash, sign]

/-- A break completes the name before it, whatever the state. -/
theorem finished_break {c : Char} (breaks : isBreak c = true) (state : State) :
    state.finished c = state.pending := by
  have sign : c ≠ '@' := ne_of_isBreak breaks (by decide)
  cases state with
  | name read => simp [State.finished, State.pending, isNameChar_of_isBreak breaks, sign]
  | _ => rfl

theorem next_break_isName {c : Char} (breaks : isBreak c = true) (state : State) :
    (state.next c).isName = false := by
  have code : (State.ofCode c).isName = false := by
    rw [ofCode_break breaks]
    rfl
  have sign : c ≠ '@' := ne_of_isBreak breaks (by decide)
  cases state <;> simp only [State.next, isNameChar_of_isBreak breaks] <;> repeat' split
  all_goals first | exact code | rfl | contradiction

theorem emit_break {c : Char} (breaks : isBreak c = true) (state : State) :
    state.emit c = state.pending ++ [.char c] := by
  rw [State.emit, finished_break breaks, next_break_isName breaks]
  rfl

/-- Only `@` begins a name. -/
theorem next_isName_of_ne {c : Char} (sign : c ≠ '@') {state : State}
    (notName : state.isName = false) : (state.next c).isName = false := by
  have code : (State.ofCode c).isName = false := by
    unfold State.ofCode
    repeat' split
    all_goals rfl
  cases state <;> simp only [State.next] <;> repeat' split
  all_goals first | exact code | exact notName | rfl

/-- Outside quotes and comments, a break leads back to code. -/
theorem next_break {c : Char} (breaks : isBreak c = true) {state : State} (sound : state.IsSound)
    (outside : state.isOutside = true) : state.next c = .code := by
  have code := ofCode_break breaks
  have dash : c ≠ '-' := ne_of_isBreak breaks (by decide)
  have asterisk : c ≠ '*' := ne_of_isBreak breaks (by decide)
  have sign : c ≠ '@' := ne_of_isBreak breaks (by decide)
  cases state with
  | code => exact code
  | dash => simp only [State.next, dash, if_false, code]
  | slash => simp only [State.next, asterisk, if_false, code]
  | closing quote =>
    have other : c ≠ quote := by
      rintro rfl
      simp only [State.IsSound, State.isQuote, Bool.or_eq_true, beq_iff_eq] at sound
      rcases sound with (rfl | rfl) | rfl <;> cases breaks
    simp only [State.next, other, if_false, code]
  | name read => simp [State.next, isNameChar_of_isBreak breaks, sign, code]
  | _ => cases outside

/-- The end of a line closes whatever may be closed by it. -/
theorem next_newline {state : State} (sound : state.IsSound) (closed : state.isOpen = false) :
    state.next '\n' = .code := by
  cases state with
  | closing quote =>
    have other : '\n' ≠ quote := by
      rintro rfl
      cases sound
    simp only [State.next, other, if_false]
    rfl
  | quoted quote | escaped quote | blockComment | asterisk => cases closed
  | _ => rfl

/-- Text after a break may be scanned alone, where the break leads back to code. -/
theorem tokens_glue {a rest : List Char} {c : Char} (breaks : isBreak c = true)
    (back : (scan .code a).next c = .code) :
    tokens .code (a ++ c :: rest) = tokens .code a ++ tokens .code (c :: rest) := by
  have alone : tokens .code (c :: rest) = .char c :: tokens .code rest := by
    rw [tokens, emit_break breaks]
    exact congrArg (.char c :: tokens · rest) (ofCode_break breaks)
  rw [tokens_append, tokens_eq .code a, tokens, emit_break breaks, back, alone, List.append_assoc,
    List.append_assoc]
  rfl

theorem scan_glue {a rest : List Char} {c : Char} (breaks : isBreak c = true)
    (back : (scan .code a).next c = .code) :
    scan .code (a ++ c :: rest) = scan .code (c :: rest) := by
  have alone : scan .code (c :: rest) = scan .code rest :=
    congrArg (scan · rest) (ofCode_break breaks)
  rw [scan_append, alone]
  exact congrArg (scan · rest) back

end PlanCompiler.Placeholder
