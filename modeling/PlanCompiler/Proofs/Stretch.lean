/-
# Proofs.Stretch -- a text taken stretch by stretch

The scanner for placeholders reads one character at a time and keeps a state.  Here a
text is read the way the rules of quoting are told: from left to right, a string, a
quoted identifier or a comment being taken at once, up to where it ends.  What is left
between them is code, in which `@@` is taken at once, `@` is taken with the longest
name that follows it, and every other sign stands alone.

Nothing is lost on the way (`flatMap_text_stretches`), and the tokens of the scanner are
those of the stretches (`tokens_stretches`): it finds names in code and nowhere else.
-/
import PlanCompiler.Proofs.Scanning

namespace PlanCompiler.Placeholder

set_option autoImplicit false

/-- What is taken of a text at once. -/
inductive Stretch
  /-- A sign of code. -/
  | sign (c : Char)
  /-- A string or a quoted identifier with its quotes. -/
  | quoted (text : List Char)
  /-- A comment, with the end of the line if that ends it. -/
  | comment (text : List Char)
  /-- `@@`, which begins a system variable. -/
  | system
  /-- `@` and the longest name after it. -/
  | name (text : List Char)
deriving DecidableEq, Repr

namespace Stretch

def text : Stretch → List Char
  | .sign c => [c]
  | .quoted text | .comment text | .name text => text
  | .system => ['@', '@']

/-! ## Where stretches end -/

/-- Whether two characters in quotes are one that is escaped: by a backslash in strings, or a quote
by being doubled. -/
def isEscape (quote c d : Char) : Bool :=
  (c == '\\' && quote != '\x60') || (c == quote && d == quote)

/-- What follows an opening quote up to the quote that closes it, and the rest. -/
def throughQuote (quote : Char) : List Char → List Char × List Char
  | [] => ([], [])
  | [c] => ([c], [])
  | c :: d :: rest =>
    if isEscape quote c d then
      (throughQuote quote rest).map (fun inside => c :: d :: inside) id
    else if c = quote then ([c], d :: rest)
    else (throughQuote quote (d :: rest)).map (c :: ·) id

/-- The text up to the end of the line, and the rest. -/
def throughLine : List Char → List Char × List Char
  | [] => ([], [])
  | c :: rest => if c = '\n' then ([c], rest) else (throughLine rest).map (c :: ·) id

/-- The text up to the first `*/`, and the rest. -/
def throughBlock : List Char → List Char × List Char
  | [] => ([], [])
  | c :: rest =>
    if c = '*' ∧ rest.head? = some '/' then (['*', '/'], rest.tail)
    else (throughBlock rest).map (c :: ·) id

/-- Whether a comment to the end of the line begins: `#`, or two dashes before a blank or at the
end of the text. -/
def beginsLineComment (c : Char) (rest : List Char) : Bool :=
  c == '#' || (c == '-' && rest.head? == some '-' && rest.tail.head?.all Text.isBlank)

/-- The stretch that begins in code with a character, and what follows it. -/
def first (c : Char) (rest : List Char) : Stretch × List Char :=
  if State.isQuote c then (throughQuote c rest).map (fun inside => .quoted (c :: inside)) id
  else if beginsLineComment c rest then
    (throughLine rest).map (fun inside => .comment (c :: inside)) id
  else if c = '/' ∧ rest.head? = some '*' then
    (throughBlock rest.tail).map (fun inside => .comment ('/' :: '*' :: inside)) id
  else if c = '@' then
    if rest.head? = some '@' then (.system, rest.tail)
    else (.name ('@' :: rest.takeWhile isNameChar), rest.dropWhile isNameChar)
  else (.sign c, rest)

/-! ## Nothing is lost -/

theorem throughQuote_append (quote : Char) (text : List Char) :
    (throughQuote quote text).1 ++ (throughQuote quote text).2 = text := by
  induction text using throughQuote.induct quote with
  | case1 => rfl
  | case2 c => rfl
  | case3 c d rest escaped ih => simp [throughQuote, escaped, ih]
  | case4 d rest single => simp [throughQuote, single]
  | case5 c d rest single other ih => simp [throughQuote, single, other, ih]

theorem throughLine_append (text : List Char) :
    (throughLine text).1 ++ (throughLine text).2 = text := by
  induction text with
  | nil => rfl
  | cons c rest ih => by_cases ends : c = '\n' <;> simp [throughLine, ends, ih]

theorem throughBlock_append (text : List Char) :
    (throughBlock text).1 ++ (throughBlock text).2 = text := by
  induction text with
  | nil => rfl
  | cons c rest ih =>
    by_cases ends : c = '*' ∧ rest.head? = some '/'
    · obtain ⟨after, rfl⟩ := List.head?_eq_some_iff.1 ends.2
      simp [throughBlock, ends.1]
    · simp [throughBlock, ends, ih]

theorem first_append (c : Char) (rest : List Char) :
    (first c rest).1.text ++ (first c rest).2 = c :: rest := by
  unfold first
  split
  · simp [text, throughQuote_append]
  split
  · simp [text, throughLine_append]
  split
  · rename_i opens
    obtain ⟨after, rfl⟩ := List.head?_eq_some_iff.1 opens.2
    simp [text, throughBlock_append, opens.1]
  split
  · rename_i sign
    split
    · rename_i doubled
      obtain ⟨after, rfl⟩ := List.head?_eq_some_iff.1 doubled
      simp [text, sign]
    · simp [text, sign]
  · rfl

theorem text_first_ne_nil (c : Char) (rest : List Char) : (first c rest).1.text ≠ [] := by
  unfold first
  repeat' split
  all_goals simp [text]

theorem length_first_lt (c : Char) (rest : List Char) :
    (first c rest).2.length < (c :: rest).length := by
  have whole := congrArg List.length (first_append c rest)
  have some := List.length_pos_iff.2 (text_first_ne_nil c rest)
  rw [List.length_append] at whole
  omega

end Stretch

/-- A text, taken stretch by stretch. -/
def stretches : List Char → List Stretch
  | [] => []
  | c :: rest => (Stretch.first c rest).1 :: stretches (Stretch.first c rest).2
termination_by text => text.length
decreasing_by exact Stretch.length_first_lt c rest

@[simp] theorem stretches_nil : stretches [] = [] := by
  rw [stretches]

theorem stretches_cons (c : Char) (rest : List Char) :
    stretches (c :: rest) = (Stretch.first c rest).1 :: stretches (Stretch.first c rest).2 := by
  rw [stretches]

/-- The stretches put together again are the text. -/
theorem flatMap_text_stretches (text : List Char) :
    (stretches text).flatMap Stretch.text = text := by
  induction text using stretches.induct with
  | case1 => simp
  | case2 c rest ih => rw [stretches_cons, List.flatMap_cons, ih, Stretch.first_append]

/-! ## Tokens -/

namespace Stretch

/-- The tokens of a stretch: a name is one, and all else is read sign by sign. -/
def tokens : Stretch → List Token
  | .name text => [.name text]
  | other => other.text.map .char

end Stretch

theorem emit_of_notName {state : State} (notName : state.isName = false) (c : Char) :
    state.emit c = if (state.next c).isName then [] else [.char c] := by
  cases state with
  | name read => cases notName
  | _ => rfl

/-- Where a state goes on as code does, the text may be read in code. -/
theorem tokens_of_next {state : State} (notName : state.isName = false) {c : Char}
    (same : state.next c = State.ofCode c) (rest : List Char) :
    tokens state (c :: rest) = tokens .code (c :: rest) := by
  have next : State.code.next c = State.ofCode c := rfl
  rw [tokens, tokens, emit_of_notName notName, emit_of_notName rfl, same, next]

/-- A sign that begins no name is a token. -/
theorem tokens_cons {state after : State} {c : Char} (notName : state.isName = false)
    (next : state.next c = after) (afterNotName : after.isName = false) (rest : List Char) :
    tokens state (c :: rest) = .char c :: tokens after rest := by
  rw [tokens, emit_of_notName notName, next, afterNotName]
  rfl

theorem ne_backslash_of_isQuote {quote : Char} (isQuote : State.isQuote quote = true) :
    quote ≠ '\\' := by
  rintro rfl
  cases isQuote

/-- An escape in quotes is two tokens, and leads on in the quotes. -/
theorem tokens_escape {quote : Char} (isQuote : State.isQuote quote = true) {c d : Char}
    (escaped : Stretch.isEscape quote c d = true) (rest : List Char) :
    tokens (.quoted quote) (c :: d :: rest) =
      .char c :: .char d :: tokens (.quoted quote) rest := by
  have noBackslash := ne_backslash_of_isQuote isQuote
  simp only [Stretch.isEscape, Bool.or_eq_true, Bool.and_eq_true, bne_iff_ne, beq_iff_eq]
    at escaped
  rcases escaped with ⟨rfl, isString⟩ | ⟨rfl, rfl⟩
  · have escape : (State.quoted quote).next '\\' = .escaped quote := by
      simp [State.next, isString]
    have back : (State.escaped quote).next d = .quoted quote := rfl
    rw [tokens_cons rfl escape rfl, tokens_cons rfl back rfl]
  · have close : (State.quoted d).next d = .closing d := by simp [State.next, noBackslash]
    have back : (State.closing d).next d = .quoted d := by simp [State.next]
    rw [tokens_cons rfl close rfl, tokens_cons rfl back rfl]

theorem tokens_quoted {quote : Char} (isQuote : State.isQuote quote = true) (text : List Char) :
    tokens (.quoted quote) text =
      (Stretch.throughQuote quote text).1.map .char
        ++ tokens .code (Stretch.throughQuote quote text).2 := by
  have noBackslash := ne_backslash_of_isQuote isQuote
  induction text using Stretch.throughQuote.induct quote with
  | case1 => rfl
  | case2 c =>
    have notName : ((State.quoted quote).next c).isName = false := by
      simp only [State.next]
      repeat' split
      all_goals rfl
    rw [tokens_cons rfl rfl notName]
    cases next : (State.quoted quote).next c with
    | name read => rw [next] at notName; cases notName
    | _ => rfl
  | case3 c d rest escaped ih =>
    rw [tokens_escape isQuote escaped, ih]
    simp [Stretch.throughQuote, escaped]
  | case4 d rest single =>
    have notDoubled : d ≠ quote := by
      rintro rfl
      simp [Stretch.isEscape] at single
    have close : (State.quoted quote).next quote = .closing quote := by
      simp [State.next, noBackslash]
    have back : (State.closing quote).next d = State.ofCode d := by simp [State.next, notDoubled]
    rw [tokens_cons rfl close rfl, tokens_of_next rfl back]
    simp [Stretch.throughQuote, single]
  | case5 c d rest single other ih =>
    have plain : ¬ (c = '\\' ∧ quote ≠ '\x60') := fun escapes => by
      simp [Stretch.isEscape, escapes.1, escapes.2] at single
    have inside : (State.quoted quote).next c = .quoted quote := by
      simp only [State.next, if_neg other]
      by_cases backslash : c = '\\' <;> simp_all
    rw [tokens_cons rfl inside rfl, ih]
    simp [Stretch.throughQuote, single, other]

theorem tokens_lineComment (text : List Char) :
    tokens .lineComment text =
      (Stretch.throughLine text).1.map .char ++ tokens .code (Stretch.throughLine text).2 := by
  induction text with
  | nil => rfl
  | cons c rest ih =>
    by_cases ends : c = '\n'
    · subst ends
      rfl
    · have inside : State.lineComment.next c = .lineComment := by simp [State.next, ends]
      rw [tokens_cons rfl inside rfl, ih]
      simp [Stretch.throughLine, ends]

theorem tokens_asterisk {c : Char} (other : c ≠ '/') (rest : List Char) :
    tokens .asterisk (c :: rest) = tokens .blockComment (c :: rest) := by
  have same : State.asterisk.next c = State.blockComment.next c := by simp [State.next, other]
  rw [tokens, tokens, emit_of_notName rfl, emit_of_notName rfl, same]

theorem tokens_blockComment (text : List Char) :
    tokens .blockComment text =
      (Stretch.throughBlock text).1.map .char ++ tokens .code (Stretch.throughBlock text).2 := by
  induction text with
  | nil => rfl
  | cons c rest ih =>
    by_cases ends : c = '*' ∧ rest.head? = some '/'
    · obtain ⟨after, rfl⟩ := List.head?_eq_some_iff.1 ends.2
      obtain rfl := ends.1
      rfl
    · simp only [Stretch.throughBlock, ends, if_false, Prod.map_fst, Prod.map_snd, id,
        List.map_cons, List.cons_append, ← ih]
      by_cases asterisk : c = '*'
      · subst asterisk
        rw [tokens_cons rfl (show State.blockComment.next '*' = .asterisk from rfl) rfl]
        cases rest with
        | nil => rfl
        | cons d rest =>
          have other : d ≠ '/' := fun same => ends ⟨rfl, by rw [same]; rfl⟩
          rw [tokens_asterisk other]
      · have inside : State.blockComment.next c = .blockComment := by simp [State.next, asterisk]
        rw [tokens_cons rfl inside rfl]

/-- After two dashes that begin no comment the text is read as after one. -/
theorem tokens_dashes {rest : List Char} (noComment : rest.head?.all Text.isBlank = false) :
    tokens .dashes rest = tokens .dash rest := by
  cases rest with
  | nil => cases noComment
  | cons c rest =>
    have notBlank : Text.isBlank c = false := noComment
    have notEnd : c ≠ '\n' := by
      rintro rfl
      cases notBlank
    have same : State.dashes.next c = State.dash.next c := by
      simp [State.next, notBlank, notEnd]
    rw [tokens, tokens, emit_of_notName rfl, emit_of_notName rfl, same]

/-- Two dashes before a blank begin a comment. -/
theorem tokens_dashes_comment {rest : List Char} (comment : rest.head?.all Text.isBlank = true) :
    tokens .dashes rest = tokens .lineComment rest := by
  cases rest with
  | nil => rfl
  | cons c rest =>
    have blank : Text.isBlank c = true := comment
    have notDash : c ≠ '-' := by
      rintro rfl
      cases blank
    have same : State.dashes.next c = State.lineComment.next c := by
      by_cases ends : c = '\n' <;> simp [State.next, notDash, blank, ends]
    rw [tokens, tokens, emit_of_notName rfl, emit_of_notName rfl, same]

theorem tokens_dash (rest : List Char) :
    tokens .dash rest =
      if rest.head? = some '-' ∧ rest.tail.head?.all Text.isBlank = true then
        tokens .lineComment rest
      else tokens .code rest := by
  cases rest with
  | nil => rfl
  | cons c rest =>
    by_cases dash : c = '-'
    · subst dash
      have second : tokens .dash ('-' :: rest) = .char '-' :: tokens .dashes rest :=
        tokens_cons rfl rfl rfl rest
      have inCode : tokens .code ('-' :: rest) = .char '-' :: tokens .dash rest :=
        tokens_cons rfl rfl rfl rest
      have inComment : tokens .lineComment ('-' :: rest) = .char '-' :: tokens .lineComment rest :=
        tokens_cons rfl rfl rfl rest
      cases comment : rest.head?.all Text.isBlank with
      | true => simp [second, inComment, tokens_dashes_comment comment, comment]
      | false => simp [second, inCode, tokens_dashes comment, comment]
    · have back : State.dash.next c = State.ofCode c := by simp [State.next, dash]
      rw [tokens_of_next rfl back]
      simp [dash]

theorem tokens_slash {rest : List Char} (noComment : rest.head? ≠ some '*') :
    tokens .slash rest = tokens .code rest := by
  cases rest with
  | nil => rfl
  | cons c rest =>
    have other : c ≠ '*' := fun same => noComment (by rw [same]; rfl)
    exact tokens_of_next rfl (by simp [State.next, other]) rest

/-- A name is read to its end. -/
theorem tokens_name (rest read : List Char) (notSystem : read = [] → rest.head? ≠ some '@') :
    tokens (.name read) rest =
      .name ('@' :: (read ++ rest.takeWhile isNameChar))
        :: tokens .code (rest.dropWhile isNameChar) := by
  induction rest generalizing read with
  | nil => simp [tokens, State.pending]
  | cons c rest ih =>
    by_cases letter : isNameChar c = true
    · have next : (State.name read).next c = .name (read ++ [c]) := by simp [State.next, letter]
      have emits : (State.name read).emit c = [] := by
        simp [State.emit, State.finished, next, letter, State.isName]
      rw [tokens, emits, next, ih (read ++ [c]) (by simp)]
      simp [letter]
    · have notSystem' : ¬ (c = '@' ∧ read = []) := fun both =>
        notSystem both.2 (by rw [both.1]; rfl)
      have next : (State.name read).next c = State.code.next c := by
        simp only [State.next, if_neg letter]
        by_cases sign : c = '@' <;> simp_all
      have finished : (State.name read).finished c = [.name ('@' :: read)] := by
        simp only [State.finished, if_neg letter]
        by_cases sign : c = '@' <;> simp_all
      have stop : tokens .code (c :: rest) =
          (if (State.code.next c).isName then [] else [.char c])
            ++ tokens (State.code.next c) rest := by
        rw [tokens, emit_of_notName rfl]
      rw [tokens, State.emit, finished, next, List.append_assoc, ← stop]
      simp [letter]

/-- The tokens of a text that begins in code are those of its first stretch and of the rest. -/
theorem tokens_first (c : Char) (rest : List Char) :
    tokens .code (c :: rest) =
      (Stretch.first c rest).1.tokens ++ tokens .code (Stretch.first c rest).2 := by
  unfold Stretch.first
  split
  · rename_i quote
    have opens : State.code.next c = .quoted c := by
      simp_all [State.next, State.ofCode, State.isQuote]
    rw [tokens_cons rfl opens rfl, tokens_quoted quote]
    rfl
  split
  · rename_i line
    simp only [Stretch.beginsLineComment, Bool.or_eq_true, Bool.and_eq_true, beq_iff_eq] at line
    have inside : tokens .code (c :: rest) = .char c :: tokens .lineComment rest := by
      rcases line with rfl | ⟨⟨rfl, second⟩, blank⟩
      · exact tokens_cons rfl rfl rfl rest
      · rw [tokens_cons rfl (show State.code.next '-' = .dash from rfl) rfl, tokens_dash,
          if_pos ⟨second, blank⟩]
    rw [inside, tokens_lineComment]
    rfl
  split
  · rename_i block
    obtain ⟨after, rfl⟩ := List.head?_eq_some_iff.1 block.2
    obtain rfl := block.1
    have inside : tokens .code ('/' :: '*' :: after) =
        .char '/' :: .char '*' :: tokens .blockComment after := rfl
    rw [inside, tokens_blockComment]
    rfl
  split
  · rename_i sign
    subst sign
    have inside : tokens .code ('@' :: rest) = tokens (.name []) rest := rfl
    split
    · rename_i doubled
      obtain ⟨after, rfl⟩ := List.head?_eq_some_iff.1 doubled
      rfl
    · rename_i single
      rw [inside, tokens_name rest [] fun _ => single]
      rfl
  · rename_i notQuote notLine notBlock notSign
    have alone : tokens .code (c :: rest) = .char c :: tokens .code rest := by
      by_cases dash : c = '-'
      · subst dash
        have noComment : ¬ (rest.head? = some '-' ∧ rest.tail.head?.all Text.isBlank = true) := by
          simpa [Stretch.beginsLineComment] using notLine
        rw [tokens_cons rfl (show State.code.next '-' = .dash from rfl) rfl, tokens_dash,
          if_neg noComment]
      by_cases slash : c = '/'
      · subst slash
        rw [tokens_cons rfl (show State.code.next '/' = .slash from rfl) rfl,
          tokens_slash fun asterisk => notBlock ⟨rfl, asterisk⟩]
      have plain : State.code.next c = .code := by
        simp_all [State.next, State.ofCode, State.isQuote, Stretch.beginsLineComment]
      exact tokens_cons rfl plain rfl rest
    exact alone

/-- The scanner finds the tokens of the stretches. -/
theorem tokens_stretches (text : List Char) :
    tokens .code text = (stretches text).flatMap Stretch.tokens := by
  induction text using stretches.induct with
  | case1 => simp [tokens, State.pending]
  | case2 c rest ih => rw [stretches_cons, List.flatMap_cons, ← ih, tokens_first]

end PlanCompiler.Placeholder
