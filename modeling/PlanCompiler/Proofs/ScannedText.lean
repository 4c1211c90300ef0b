/-
# Proofs.ScannedText -- the generated names that a text holds

A text `Passes` when scanning it alone ends outside quotes and comments; `names` are
the names in it that look like those of generated parameters.  Texts that pass may be
put together wherever a break stands between them (`Passes.glue`), and words of the
language may be put before them (`Opening.before`).  A text `Settles` when scanning
it alone ends in nothing that the end of the line leaves open; that is enough for a
clause, which is followed by a new line or by the end of the statement.

Texts of the caller are `Clean`: they pass and hold no such name.  Trimming keeps them
settled (`Clean.trimStatement`), though a comment at their end may lose its line end.
-/
import PlanCompiler.Proofs.Scanning
import PlanCompiler.Proofs.WrittenPieces

namespace PlanCompiler.Placeholder

set_option autoImplicit false

/-! ## Names -/

/-- Whether a name is `@P` and digits, in whatever case of its letter. -/
def looksGenerated (name : String) : Bool :=
  match name.toList with
  | '@' :: letter :: index =>
    (letter == 'P' || letter == 'p') && !index.isEmpty && index.all Char.isDigit
  | _ => false

/-- The names of these tokens that are wanted. -/
def found (wanted : String → Bool) (tokens : List Token) : List String :=
  tokens.filterMap (Token.parameter? wanted)

/-- The names in a text that look generated. -/
def generatedNames (state : State) (text : List Char) : List String :=
  found looksGenerated (tokens state text)

theorem found_append (wanted : String → Bool) (a b : List Token) :
    found wanted (a ++ b) = found wanted a ++ found wanted b :=
  List.filterMap_append

/-- Looking for fewer names is leaving out the others. -/
theorem found_filter (wanted also : String → Bool) (tokens : List Token) :
    (found wanted tokens).filter also = found (fun name => wanted name && also name) tokens := by
  induction tokens with
  | nil => rfl
  | cons token rest ih =>
    have one : ((token.parameter? wanted).toList).filter also =
        (token.parameter? fun name => wanted name && also name).toList := by
      cases token with
      | char c => rfl
      | name text =>
        simp only [Token.parameter?]
        by_cases long : 1 < text.length <;> by_cases first : wanted (.ofList text) = true <;>
          by_cases second : also (.ofList text) = true <;> simp [long, first, second]
    have head : ∀ w, found w (token :: rest) = (token.parameter? w).toList ++ found w rest := by
      intro w
      cases result : token.parameter? w <;> simp [found, result]
    rw [head, head, List.filter_append, ih, one]

theorem Token.wanted_of_parameter? {wanted : String → Bool} {token : Token} {name : String}
    (isName : token.parameter? wanted = some name) : wanted name = true := by
  cases token with
  | char c => cases isName
  | name text =>
    rw [Token.parameter?, Option.ite_none_right_eq_some, Bool.and_eq_true] at isName
    obtain ⟨⟨-, isWanted⟩, same⟩ := isName
    cases same
    exact isWanted

theorem isGenerated_looksGenerated {name : String} (generated : isGenerated name = true) :
    looksGenerated name = true := by
  unfold isGenerated at generated
  split at generated
  · rename_i index same
    simp only [looksGenerated, same]
    exact generated
  · cases generated

/-! ## Texts that may be scanned alone -/

/-- Scanning the text ends outside quotes and comments and finds these names. -/
structure Passes (text : List Char) (names : List String) : Prop where
  outside : (scan .code text).isOutside = true
  names : generatedNames .code text = names

/-- Scanning the text ends in nothing that the end of the line leaves open, and finds these
names. -/
structure Settles (text : List Char) (names : List String) : Prop where
  closed : (scan .code text).isOpen = false
  names : generatedNames .code text = names

theorem Passes.settles {text : List Char} {names : List String} (passes : Passes text names) :
    Settles text names where
  closed := State.isOpen_of_isOutside passes.outside
  names := passes.names

theorem passes_nil : Passes [] [] := ⟨rfl, rfl⟩

/-- Texts that pass may be put together where the second begins with a break. -/
theorem Passes.glue {a b : List Char} {c : Char} {m n : List String} (first : Passes a m)
    (breaks : isBreak c = true) (second : Passes (c :: b) n) : Passes (a ++ c :: b) (m ++ n) := by
  have back : (scan .code a).next c = .code :=
    next_break breaks (scan_code_sound a) first.outside
  constructor
  · rw [scan_glue breaks back]
    exact second.outside
  · rw [generatedNames, tokens_glue breaks back, found_append]
    rw [← first.names, ← second.names]
    rfl

/-- Words of the language that lead from code to code and hold no name. -/
structure Opening (word : List Char) : Prop where
  code : scan .code word = .code
  nameless : generatedNames .code word = []

/-- After a text that ends in code, another one may be scanned alone. -/
theorem generatedNames_append {a : List Char} (code : scan .code a = .code) (b : List Char) :
    generatedNames .code (a ++ b) = generatedNames .code a ++ generatedNames .code b := by
  have alone : tokens .code a = emitted .code a := by
    rw [tokens_eq, code]
    exact List.append_nil _
  rw [generatedNames, tokens_append, code, found_append, ← alone]
  rfl

theorem Opening.names_before {word : List Char} (opening : Opening word) (rest : List Char) :
    generatedNames .code (word ++ rest) = generatedNames .code rest := by
  rw [generatedNames_append opening.code, opening.nameless]
  rfl

theorem Opening.before {word rest : List Char} {names : List String} (opening : Opening word)
    (passes : Passes rest names) : Passes (word ++ rest) names := by
  constructor
  · rw [scan_append, opening.code]
    exact passes.outside
  · rw [opening.names_before]
    exact passes.names

/-- Where a text ends outside, words after it that begin with a break are read as they are alone. -/
theorem scan_glue_outside {a b : List Char} {c : Char} (outside : (scan .code a).isOutside = true)
    (breaks : isBreak c = true) : scan .code (a ++ c :: b) = scan .code (c :: b) :=
  scan_glue breaks (next_break breaks (scan_code_sound a) outside)

/-- Between a break and the end of the text no name is found where no `@` stands. -/
theorem found_tokens_of_noSign : ∀ (rest : List Char) (state : State), '@' ∉ rest →
    state.isName = false → found looksGenerated (tokens state rest) = [] := by
  intro rest
  induction rest with
  | nil =>
    intro state _ notName
    cases state with
    | name read => cases notName
    | _ => rfl
  | cons c rest ih =>
    intro state noSign notName
    have sign : c ≠ '@' := fun same => noSign (same ▸ List.mem_cons_self)
    have next := next_isName_of_ne sign notName
    have nothing : state.finished c = [] := by
      cases state with
      | name read => cases notName
      | _ => rfl
    rw [tokens, State.emit, nothing, next, found_append,
      ih _ (fun mem => noSign (List.mem_cons_of_mem c mem)) next]
    rfl

/-- What follows a text after a break and has no `@` adds no name, wherever the text ends. -/
theorem generatedNames_tail {a rest : List Char} {c : Char} (breaks : isBreak c = true)
    (noSign : '@' ∉ rest) : generatedNames .code (a ++ c :: rest) = generatedNames .code a := by
  have notName := next_break_isName breaks (scan .code a)
  have tail := found_tokens_of_noSign rest _ noSign notName
  rw [generatedNames, generatedNames, tokens_append, tokens_eq .code a, tokens, emit_break breaks,
    found_append, found_append, found_append, found_append, tail]
  simp [found, Token.parameter?]

/-! ## Texts of the caller -/

/-- Scanning the text alone ends outside quotes and comments. -/
def EndsOutside (text : String) : Prop :=
  (scan .code text.toList).isOutside = true

instance (text : String) : Decidable (EndsOutside text) :=
  inferInstanceAs (Decidable (_ = _))

/-- Scanning the text alone ends with all quotes and block comments closed. -/
def Closed (text : String) : Prop :=
  (scan .code text.toList).isOpen = false

instance (text : String) : Decidable (Closed text) :=
  inferInstanceAs (Decidable (_ = _))

/-- Scanning the text alone ends outside quotes and comments, and finds no name that looks
generated. -/
structure Clean (text : String) : Prop where
  outside : (scan .code text.toList).isOutside = true
  nameless : (toPositional looksGenerated text).names = []

instance (text : String) : Decidable (Clean text) :=
  decidable_of_iff ((scan .code text.toList).isOutside = true ∧
      (toPositional looksGenerated text).names = [])
    ⟨fun both => ⟨both.1, both.2⟩, fun clean => ⟨clean.outside, clean.nameless⟩⟩

theorem Clean.passes {text : String} (clean : Clean text) : Passes text.toList [] :=
  ⟨clean.outside, clean.nameless⟩

theorem Clean.endsOutside {text : String} (clean : Clean text) : EndsOutside text :=
  clean.outside

theorem endsOutside_of_clean {texts : List String} (clean : ∀ text ∈ texts, Clean text) :
    ∀ text ∈ texts, EndsOutside text :=
  fun text mem => (clean text mem).endsOutside

theorem EndsOutside.passes {text : String} (outside : EndsOutside text) :
    Passes text.toList (generatedNames .code text.toList) :=
  ⟨outside, rfl⟩

theorem EndsOutside.closed {text : String} (outside : EndsOutside text) : Closed text :=
  State.isOpen_of_isOutside outside

theorem isBreak_of_isTerminator {c : Char} (terminator : Assembly.isTerminator c = true) :
    isBreak c = true := by
  simp only [Assembly.isTerminator, Bool.or_eq_true, beq_iff_eq] at terminator
  rcases terminator with rfl | blank
  · decide
  · simp [isBreak, blank]

/-- Blanks and semicolons close neither quotes nor block comments. -/
theorem next_isOpen {c : Char} (terminator : Assembly.isTerminator c = true) {state : State}
    (sound : state.IsSound) (isOpen : state.isOpen = true) : (state.next c).isOpen = true := by
  have breaks := isBreak_of_isTerminator terminator
  have backslash : c ≠ '\\' := ne_of_isBreak breaks (by decide)
  have asterisk : c ≠ '*' := ne_of_isBreak breaks (by decide)
  have slash : c ≠ '/' := ne_of_isBreak breaks (by decide)
  cases state with
  | quoted quote =>
    have other : c ≠ quote := by
      rintro rfl
      simp only [State.IsSound, State.isQuote, Bool.or_eq_true, beq_iff_eq] at sound
      rcases sound with (rfl | rfl) | rfl <;> cases breaks
    have inside : (State.quoted quote).next c = .quoted quote := by
      simp [State.next, backslash, other]
    rw [inside]
    rfl
  | escaped quote => rfl
  | blockComment =>
    rw [State.next, if_neg asterisk]
    rfl
  | asterisk =>
    rw [State.next, if_neg slash, if_neg asterisk]
    rfl
  | _ => cases isOpen

theorem scan_isOpen {state : State} (sound : state.IsSound) (isOpen : state.isOpen = true) :
    ∀ tail : List Char, (∀ c ∈ tail, Assembly.isTerminator c = true) →
      (scan state tail).isOpen = true := by
  intro tail
  induction tail generalizing state with
  | nil => exact fun _ => isOpen
  | cons c rest ih =>
    intro terminators
    have next := next_isOpen (terminators c List.mem_cons_self) sound isOpen
    exact ih (State.next_sound sound c) next fun d mem => terminators d (List.mem_cons_of_mem c mem)

/-- What the blanks and semicolons at its end leave closed is closed without them. -/
theorem closed_dropEnd {text tail : List Char}
    (terminators : ∀ c ∈ tail, Assembly.isTerminator c = true)
    (closed : (scan .code (text ++ tail)).isOpen = false) : (scan .code text).isOpen = false := by
  rw [← Bool.not_eq_true]
  intro isOpen
  have still := scan_isOpen (scan_code_sound text) isOpen tail terminators
  rw [← scan_append, closed] at still
  cases still

/-- A text without the blanks and semicolons that end it is settled, if it passes with them. -/
theorem Passes.dropEnd {text tail : List Char}
    (terminators : ∀ c ∈ tail, Assembly.isTerminator c = true)
    (passes : Passes (text ++ tail) []) : Settles text [] := by
  constructor
  · exact closed_dropEnd terminators (State.isOpen_of_isOutside passes.outside)
  · cases tail with
    | nil => simpa using passes.names
    | cons c rest =>
      have breaks := isBreak_of_isTerminator (terminators c List.mem_cons_self)
      have nameless := passes.names
      rw [generatedNames, tokens_append, tokens, emit_break breaks, ← List.append_assoc,
        ← List.append_assoc, ← tokens_eq, found_append, found_append] at nameless
      exact (List.append_eq_nil_iff.1 (List.append_eq_nil_iff.1 nameless).1).1

/-- Signs without a meaning lead from code to code. -/
theorem opening_of_plain {text : List Char} (plain : ∀ c ∈ text, State.ofCode c = .code) :
    Opening text := by
  have noSign : '@' ∉ text := fun mem => by cases plain _ mem
  refine ⟨?_, found_tokens_of_noSign text .code noSign rfl⟩
  clear noSign
  induction text with
  | nil => rfl
  | cons c rest ih =>
    have code : scan .code (c :: rest) = scan .code rest :=
      congrArg (scan · rest) (plain c List.mem_cons_self)
    rw [code]
    exact ih fun d mem => plain d (List.mem_cons_of_mem c mem)

theorem opening_blanks {blanks : List Char} (areBlank : ∀ c ∈ blanks, Text.isBlank c = true) :
    Opening blanks :=
  opening_of_plain fun c mem => ofCode_break (by simp [isBreak, areBlank c mem])

theorem exists_dropEndWhile (drop : Char → Bool) (text : List Char) :
    ∃ tail, text = Text.dropEndWhile drop text ++ tail ∧ ∀ c ∈ tail, drop c = true := by
  refine ⟨(text.reverse.takeWhile drop).reverse, ?_, fun c mem => ?_⟩
  · rw [Text.dropEndWhile, ← List.reverse_append, List.takeWhile_append_dropWhile,
      List.reverse_reverse]
  · exact List.all_eq_true.1 List.all_takeWhile c (List.mem_reverse.1 mem)

/-- What trimming takes off a text: blanks before it, blanks and semicolons after it. -/
theorem exists_trimStatement (sql : String) :
    ∃ blanks tail, sql.toList = blanks ++ ((Assembly.trimStatement sql).toList ++ tail) ∧
      (∀ c ∈ blanks, Text.isBlank c = true) ∧ ∀ c ∈ tail, Assembly.isTerminator c = true := by
  obtain ⟨blanksAfter, isEnd, areBlank⟩ :=
    exists_dropEndWhile Text.isBlank (Text.trimStart sql.toList)
  obtain ⟨terminators, isTrimmed, areTerminators⟩ :=
    exists_dropEndWhile Assembly.isTerminator (Text.trim sql.toList)
  refine ⟨sql.toList.takeWhile Text.isBlank, terminators ++ blanksAfter, ?_, ?_, ?_⟩
  · have start : sql.toList =
        sql.toList.takeWhile Text.isBlank ++ Text.trimStart sql.toList :=
      List.takeWhile_append_dropWhile.symm
    have trimmed : (Assembly.trimStatement sql).toList =
        Text.dropEndWhile Assembly.isTerminator (Text.trim sql.toList) := String.toList_ofList
    calc sql.toList
      _ = sql.toList.takeWhile Text.isBlank ++ Text.trimStart sql.toList := start
      _ = sql.toList.takeWhile Text.isBlank ++ (Text.trim sql.toList ++ blanksAfter) :=
        congrArg _ isEnd
      _ = _ := by
        rw [trimmed, ← List.append_assoc (Text.dropEndWhile _ _), ← isTrimmed]
  · exact List.all_eq_true.1 List.all_takeWhile
  · intro c mem
    rcases List.mem_append.1 mem with mem | mem
    · exact areTerminators c mem
    · simp [Assembly.isTerminator, areBlank c mem]

theorem Closed.trimStatement {sql : String} (closed : Closed sql) :
    Closed (Assembly.trimStatement sql) := by
  obtain ⟨blanks, tail, split, areBlank, terminators⟩ := exists_trimStatement sql
  rw [Closed, split, scan_append, (opening_blanks areBlank).code] at closed
  exact closed_dropEnd terminators closed

/-- A trimmed text of the caller is settled. -/
theorem Clean.trimStatement {sql : String} (clean : Clean sql) :
    Settles (Assembly.trimStatement sql).toList [] := by
  obtain ⟨blanks, tail, split, areBlank, terminators⟩ := exists_trimStatement sql
  have opening := opening_blanks areBlank
  have passes := clean.passes
  rw [split] at passes
  refine Passes.dropEnd terminators ⟨?_, ?_⟩
  · have outside := passes.outside
    rw [scan_append, opening.code] at outside
    exact outside
  · rw [← opening.names_before]
    exact passes.names

/-! ## Names and placeholders -/

theorem scan_quotedName : ∀ name : List Char, '\x60' ∉ name →
    scan (.quoted '\x60') (name ++ ['\x60']) = .closing '\x60' ∧
      found looksGenerated (tokens (.quoted '\x60') (name ++ ['\x60'])) = [] := by
  intro name
  induction name with
  | nil => exact fun _ => ⟨rfl, rfl⟩
  | cons c rest ih =>
    intro plain
    have notEnd : c ≠ '\x60' := fun same => plain (same ▸ List.mem_cons_self)
    have next : (State.quoted '\x60').next c = .quoted '\x60' := by simp [State.next, notEnd]
    obtain ⟨ends, nameless⟩ := ih fun mem => plain (List.mem_cons_of_mem c mem)
    constructor
    · rw [← ends]
      exact congrArg (scan · (rest ++ ['\x60'])) next
    · rw [List.cons_append, tokens, State.emit, next, found_append, nameless]
      rfl

/-- A name between backticks passes, whatever stands in it. -/
theorem passes_quotedName {name : List Char} (plain : '\x60' ∉ name) :
    Passes ('\x60' :: (name ++ ['\x60'])) [] := by
  obtain ⟨ends, nameless⟩ := scan_quotedName name plain
  constructor
  · change (scan (.quoted '\x60') (name ++ ['\x60'])).isOutside = true
    rw [ends]
    rfl
  · exact nameless

theorem isGenerated_parameterName (position : Nat) :
    isGenerated (Sql.parameterName position) = true := by
  have letters : (Sql.parameterName position).toList =
      '@' :: 'P' :: (toString (Sql.firstParameterIndex + position)).toList := by
    rw [Sql.parameterName, String.toList_append]
    rfl
  simp only [isGenerated, letters]
  rw [List.all_eq_true.2 (Sql.toString_isDigit _), Bool.and_true]
  have nonempty := Sql.toString_ne_nil (Sql.firstParameterIndex + position)
  cases digits : (toString (Sql.firstParameterIndex + position)).toList with
  | nil => exact absurd digits nonempty
  | cons c rest => rfl

theorem tokens_inName : ∀ (text read : List Char), text.all isNameChar = true →
    tokens (.name read) text = [.name ('@' :: (read ++ text))] ∧
      scan (.name read) text = .name (read ++ text) := by
  intro text
  induction text with
  | nil =>
    intro read _
    rw [List.append_nil]
    exact ⟨rfl, rfl⟩
  | cons c rest ih =>
    intro read letters
    rw [List.all_cons, Bool.and_eq_true] at letters
    obtain ⟨one, ends⟩ := ih (read ++ [c]) letters.2
    have next : (State.name read).next c = .name (read ++ [c]) := by
      simp [State.next, letters.1]
    have emits : (State.name read).emit c = [] := by
      rw [State.emit, next]
      simp [State.finished, letters.1, State.isName]
    rw [tokens, emits, next, one, List.append_assoc]
    refine ⟨rfl, ?_⟩
    rw [List.append_assoc] at ends
    exact (congrArg (scan · rest) next).trans ends

/-- A placeholder passes and is found. -/
theorem passes_parameterName (position : Nat) :
    Passes (Sql.parameterName position).toList [Sql.parameterName position] := by
  have split : (Sql.parameterName position).toList =
      '@' :: 'P' :: (toString (Sql.firstParameterIndex + position)).toList := by
    rw [Sql.parameterName, String.toList_append]
    rfl
  have letters : ('P' :: (toString (Sql.firstParameterIndex + position)).toList).all isNameChar
      = true := by
    rw [List.all_cons, List.all_eq_true.2]
    · rfl
    · intro c mem
      have digit := Sql.toString_isDigit _ c mem
      simp [isNameChar, Char.isAlphanum, digit]
  obtain ⟨one, ends⟩ := tokens_inName _ [] letters
  have looks := isGenerated_looksGenerated (isGenerated_parameterName position)
  constructor
  · rw [split]
    change (scan (.name []) _).isOutside = true
    rw [ends]
    rfl
  · have token : tokens .code (Sql.parameterName position).toList =
        [.name (Sql.parameterName position).toList] := by
      rw [split]
      exact one
    have long : 1 < (Sql.parameterName position).toList.length := by
      rw [split]
      simp
    rw [generatedNames, token]
    simp [found, Token.parameter?, long, looks]

end PlanCompiler.Placeholder
