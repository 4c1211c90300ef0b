/-
# Proofs.Rewriting -- what the positional form of a text replaces

A text is cut at the parameters that it has in code, as the stretches of the text tell
(`parametersIn`).  Its positional form has a `?` at every cut and is the same between
them, so the names put back at the placeholders give the text again, and nothing is
replaced in quotes or comments (`toPositional_rewrites`).

The placeholder goes on with no name and begins nothing, so a name that is replaced
changes nothing for what stands around it: the tokens of the positional form are those
of the text, with a `?` for every parameter (`tokens_positional`).  A second run
therefore finds none.
-/
import PlanCompiler.Proofs.Stretch

namespace PlanCompiler.Placeholder

set_option autoImplicit false

/-! ## Parameters in code -/

/-- The names that stand in code, each with the number of characters before it, where the first
stretch has `start` of them before it. -/
def namesFrom (start : Nat) : List Stretch → List (Nat × String)
  | [] => []
  | .name text :: rest => (start, .ofList text) :: namesFrom (start + text.length) rest
  | other :: rest => namesFrom (start + other.text.length) rest

/-- Whether a name in code is that of a parameter.  `@` alone names nothing. -/
def accepts (isParameter : String → Bool) (name : String) : Bool :=
  1 < name.length && isParameter name

/-- The parameters that stand in code, each with the number of characters before it. -/
def parametersIn (isParameter : String → Bool) (text : List Char) : List (Nat × String) :=
  (namesFrom 0 (stretches text)).filter fun place => accepts isParameter place.2

/-- Texts, each followed by a name. -/
abbrev Cuts := List (List Char × String)

/-- The text that is cut there, before what follows the last name. -/
def Cuts.text (cuts : Cuts) : List Char :=
  cuts.flatMap fun (gap, name) => gap ++ name.toList

/-- The same with placeholders for the names. -/
def Cuts.positional (cuts : Cuts) : List Char :=
  cuts.flatMap fun (gap, _) => gap ++ ['?']

/-- The names, each with the number of characters before it in the text. -/
def Cuts.placesFrom (start : Nat) : Cuts → List (Nat × String)
  | [] => []
  | (gap, name) :: rest =>
    (start + gap.length, name) :: placesFrom (start + gap.length + name.length) rest

/-- The name of a parameter, if the stretch is one. -/
def Stretch.parameter? (isParameter : String → Bool) : Stretch → Option String
  | .name text => if accepts isParameter (.ofList text) then some (.ofList text) else none
  | _ => none

/-- The cuts at the parameters among stretches that follow a text, and what is left after them. -/
def cut (isParameter : String → Bool) (gap : List Char) : List Stretch → Cuts × List Char
  | [] => ([], gap)
  | stretch :: rest =>
    match stretch.parameter? isParameter with
    | some name => (cut isParameter [] rest).map ((gap, name) :: ·) id
    | none => cut isParameter (gap ++ stretch.text) rest

section

variable {isParameter : String → Bool}

theorem Stretch.text_of_parameter? {stretch : Stretch} {name : String}
    (isName : stretch.parameter? isParameter = some name) : stretch.text = name.toList := by
  cases stretch with
  | name text =>
    rw [parameter?, Option.ite_none_right_eq_some, Option.some_inj] at isName
    rw [← isName.2, String.toList_ofList]
    rfl
  | _ => cases isName

theorem cut_text (gap : List Char) (stretches : List Stretch) :
    (cut isParameter gap stretches).1.text ++ (cut isParameter gap stretches).2 =
      gap ++ stretches.flatMap Stretch.text := by
  induction stretches generalizing gap with
  | nil => simp [cut, Cuts.text]
  | cons stretch rest ih =>
    cases found : stretch.parameter? isParameter with
    | none => simp [cut, found, ih]
    | some name =>
      have inside := ih []
      simp only [Cuts.text, List.nil_append] at inside
      simp [cut, found, Cuts.text, inside, Stretch.text_of_parameter? found]

theorem cut_names (gap : List Char) (stretches : List Stretch) :
    (cut isParameter gap stretches).1.map Prod.snd =
      stretches.filterMap (Stretch.parameter? isParameter) := by
  induction stretches generalizing gap with
  | nil => rfl
  | cons stretch rest ih =>
    cases found : stretch.parameter? isParameter with
    | none => simp [cut, found, ih]
    | some name => simp [cut, found, ih]

/-- The stretches in positional form. -/
def Stretch.positional (isParameter : String → Bool) (stretch : Stretch) : List Char :=
  match stretch.parameter? isParameter with
  | some _ => ['?']
  | none => stretch.text

theorem cut_positional (gap : List Char) (stretches : List Stretch) :
    (cut isParameter gap stretches).1.positional ++ (cut isParameter gap stretches).2 =
      gap ++ stretches.flatMap (Stretch.positional isParameter) := by
  induction stretches generalizing gap with
  | nil => simp [cut, Cuts.positional]
  | cons stretch rest ih =>
    cases found : stretch.parameter? isParameter with
    | none => simp [cut, found, ih, Stretch.positional]
    | some name =>
      have inside := ih []
      simp only [Cuts.positional, List.nil_append] at inside
      simp [cut, found, Cuts.positional, inside, Stretch.positional]

theorem cut_places (gap : List Char) (stretches : List Stretch) (start : Nat) :
    (cut isParameter gap stretches).1.placesFrom start =
      (namesFrom (start + gap.length) stretches).filter fun place =>
        accepts isParameter place.2 := by
  induction stretches generalizing gap start with
  | nil => rfl
  | cons stretch rest ih =>
    cases stretch with
    | name text =>
      by_cases accepted : accepts isParameter (.ofList text) = true
      · simp [cut, Stretch.parameter?, accepted, Cuts.placesFrom, namesFrom, ih]
      · simp [cut, Stretch.parameter?, accepted, namesFrom, ih, Stretch.text, Nat.add_assoc]
    | _ => simp [cut, Stretch.parameter?, namesFrom, ih, Nat.add_assoc]

end

/-! ## The positional form -/

/-- The positional form goes stretch by stretch. -/
theorem Stretch.positional_tokens (isParameter : String → Bool) (stretch : Stretch) :
    stretch.tokens.flatMap (Token.positional isParameter) = stretch.positional isParameter ∧
      stretch.tokens.filterMap (Token.parameter? isParameter) =
        (stretch.parameter? isParameter).toList := by
  have signs : ∀ text : List Char,
      (text.map Token.char).flatMap (Token.positional isParameter) = text ∧
        (text.map Token.char).filterMap (Token.parameter? isParameter) = [] := by
    intro text
    induction text with
    | nil => exact ⟨rfl, rfl⟩
    | cons c rest ih => simp_all [Token.positional, Token.parameter?]
  cases stretch with
  | name text =>
    have same : (Token.name text).parameter? isParameter =
        (Stretch.name text).parameter? isParameter := by
      simp [Token.parameter?, parameter?, accepts]
    cases found : (Stretch.name text).parameter? isParameter <;>
      simp [tokens, positional, same, found, Token.positional, Stretch.text]
  | sign c => exact signs [c]
  | quoted text => exact signs text
  | comment text => exact signs text
  | system => exact signs ['@', '@']

theorem toPositional_stretches (isParameter : String → Bool) (sql : String) :
    (toPositional isParameter sql).sql.toList =
        (stretches sql.toList).flatMap (Stretch.positional isParameter) ∧
      (toPositional isParameter sql).names =
        (stretches sql.toList).filterMap (Stretch.parameter? isParameter) := by
  have each := Stretch.positional_tokens isParameter
  constructor
  · simp [toPositional, tokens_stretches, List.flatMap_assoc, each]
  · simp only [toPositional, tokens_stretches, List.filterMap_flatMap, each]
    induction stretches sql.toList with
    | nil => rfl
    | cons stretch rest ih =>
      cases found : stretch.parameter? isParameter <;> simp [found, ih]

/-! ## A second run -/

/-- The token once a `?` stands for its parameter. -/
def Token.replaced (isParameter : String → Bool) (token : Token) : Token :=
  match token.parameter? isParameter with
  | some _ => .char '?'
  | none => token

section

variable {isParameter : String → Bool}

/-- The positional form begins as the text does, but for a parameter. -/
theorem head?_positional (isParameter : String → Bool) (text : List Char) :
    ((tokens .code text).flatMap (Token.positional isParameter)).head? = text.head? ∨
      text.head? = some '@' ∧
        ((tokens .code text).flatMap (Token.positional isParameter)).head? = some '?' := by
  cases text with
  | nil => exact .inl rfl
  | cons c rest =>
    by_cases sign : c = '@'
    · subst sign
      have inside : tokens .code ('@' :: rest) = tokens (.name []) rest := rfl
      rw [inside]
      by_cases doubled : rest.head? = some '@'
      · obtain ⟨after, rfl⟩ := List.head?_eq_some_iff.1 doubled
        exact .inl rfl
      · rw [tokens_name rest [] fun _ => doubled, List.flatMap_cons]
        cases found : (Token.name ('@' :: ([] ++ rest.takeWhile isNameChar))).parameter?
            isParameter with
        | none => exact .inl (by simp only [Token.positional, found]; rfl)
        | some name => exact .inr ⟨rfl, by simp only [Token.positional, found]; rfl⟩
    · have notName : (State.code.next c).isName = false := next_isName_of_ne sign rfl
      rw [tokens_cons rfl rfl notName]
      exact .inl rfl

/-- Where a name begins, a placeholder leads to code. -/
theorem next_placeholder {state : State} (sound : state.IsSound) {read : List Char}
    (notName : state.isName = false) (opens : state.next '@' = .name read) :
    read = [] ∧ state.next '?' = .code := by
  have sign : State.ofCode '@' = .name [] := rfl
  cases state with
  | closing quote =>
    have other : '?' ≠ quote := by
      rintro rfl
      cases sound
    simp only [State.next] at opens
    split at opens
    · cases opens
    · rw [sign] at opens
      cases opens
      refine ⟨rfl, ?_⟩
      simp only [State.next, if_neg other]
      rfl
  | quoted quote =>
    simp only [State.next] at opens
    repeat' split at opens
    all_goals cases opens
  | name read => cases notName
  | code | dash | dashes | slash =>
    cases opens
    exact ⟨rfl, rfl⟩
  | escaped | lineComment | blockComment | asterisk => cases opens

/-- Only `@` begins a name, and the name is empty when it begins. -/
theorem next_isName {state : State} (sound : state.IsSound) (notName : state.isName = false)
    {c : Char} (opens : (state.next c).isName = true) :
    c = '@' ∧ state.next '@' = .name [] ∧ state.next '?' = .code := by
  have sign : c = '@' := by
    refine Classical.byContradiction fun other => ?_
    rw [next_isName_of_ne other notName] at opens
    cases opens
  subst sign
  obtain ⟨read, isRead⟩ : ∃ read, state.next '@' = .name read := by
    cases next : state.next '@' with
    | name read => exact ⟨read, rfl⟩
    | _ => rw [next] at opens; cases opens
  obtain ⟨rfl, placeholder⟩ := next_placeholder sound notName isRead
  exact ⟨rfl, isRead, placeholder⟩

/-- A name that is no parameter is read again as it was, before what follows it in positional
form. -/
theorem tokens_keptName {rest : List Char} (single : rest.head? ≠ some '@') :
    tokens (.name []) (rest.takeWhile isNameChar
        ++ (tokens .code (rest.dropWhile isNameChar)).flatMap (Token.positional isParameter)) =
      .name ('@' :: rest.takeWhile isNameChar)
        :: tokens .code
          ((tokens .code (rest.dropWhile isNameChar)).flatMap (Token.positional isParameter)) := by
  have letters : ∀ c ∈ rest.takeWhile isNameChar, isNameChar c = true :=
    List.all_eq_true.1 List.all_takeWhile
  have begins := head?_positional isParameter (rest.dropWhile isNameChar)
  have stops := List.head?_dropWhile_not isNameChar rest
  have noName : rest.takeWhile isNameChar = [] → rest.dropWhile isNameChar = rest := by
    intro empty
    have whole := List.takeWhile_append_dropWhile (p := isNameChar) (l := rest)
    rwa [empty] at whole
  generalize (tokens .code (rest.dropWhile isNameChar)).flatMap (Token.positional isParameter) = out
    at begins ⊢
  -- what follows goes on with no name, and begins no `@@` where the name is empty
  have break_ : ∀ c, out.head? = some c → isNameChar c = false := by
    intro c isHead
    rcases begins with same | ⟨-, placeholder⟩
    · rw [← same, isHead] at stops
      exact stops
    · rw [placeholder, Option.some_inj] at isHead
      rw [← isHead]
      rfl
  have ends : out.takeWhile isNameChar = [] ∧ out.dropWhile isNameChar = out := by
    cases out with
    | nil => exact ⟨rfl, rfl⟩
    | cons c after => simp [break_ c rfl]
  rw [tokens_name _ [] ?_, List.nil_append, List.takeWhile_append_of_pos letters,
    List.dropWhile_append_of_pos letters, ends.1, ends.2, List.append_nil]
  intro _ doubled
  cases name : rest.takeWhile isNameChar with
  | cons c name' =>
    rw [name] at doubled letters
    cases doubled
    cases letters '@' List.mem_cons_self
  | nil =>
    rw [name, List.nil_append] at doubled
    rw [noName name] at begins
    rcases begins with same | ⟨sign, -⟩
    · exact single (same ▸ doubled)
    · exact single sign

end

/-- The tokens of the positional form are those of the text, with a `?` for every parameter. -/
theorem tokens_positional (isParameter : String → Bool) :
    ∀ (text : List Char) (state : State), state.IsSound → state.isName = false →
      tokens state ((tokens state text).flatMap (Token.positional isParameter)) =
        (tokens state text).map (Token.replaced isParameter) := by
  intro text
  induction size : text.length using Nat.strongRecOn generalizing text with
  | ind size' ih =>
    intro state sound notName
    cases text with
    | nil => cases state <;> first | rfl | cases notName
    | cons c rest =>
      rw [List.length_cons] at size
      cases opens : (state.next c).isName with
      | false =>
        have once : ∀ after, tokens state (c :: after) = .char c :: tokens (state.next c) after :=
          tokens_cons notName rfl opens
        have again := ih rest.length (by omega) rest rfl (state.next c)
          (State.next_sound sound c) opens
        have sign : (Token.char c).positional isParameter = [c] := rfl
        rw [once, List.flatMap_cons, List.map_cons, sign, List.singleton_append, once, again]
        rfl
      | true =>
        -- only here may the text that is read again differ from the text
        obtain ⟨rfl, isRead, placeholder⟩ := next_isName sound notName opens
        have enters : ∀ after, tokens state ('@' :: after) = tokens (.name []) after := by
          intro after
          rw [tokens, emit_of_notName notName, isRead]
          rfl
        rw [enters]
        by_cases doubled : rest.head? = some '@'
        · obtain ⟨after, rfl⟩ := List.head?_eq_some_iff.1 doubled
          have again := ih after.length (by simp at size; omega) after rfl .code trivial rfl
          have system : ∀ after, tokens (.name []) ('@' :: after) =
              .char '@' :: .char '@' :: tokens .code after := fun _ => rfl
          have kept : (Token.char '@').positional isParameter = ['@'] := rfl
          rw [system, List.flatMap_cons, List.flatMap_cons, kept, List.singleton_append,
            List.singleton_append, enters, system, again]
          rfl
        · have shorter : (rest.dropWhile isNameChar).length ≤ rest.length :=
            (List.dropWhile_suffix _).length_le
          have again := ih _ (by omega) (rest.dropWhile isNameChar) rfl .code trivial rfl
          rw [tokens_name rest [] fun _ => doubled, List.nil_append, List.flatMap_cons,
            List.map_cons, ← again]
          cases found : (Token.name ('@' :: rest.takeWhile isNameChar)).parameter? isParameter with
          | some name =>
            simp only [Token.positional, Token.replaced, found]
            exact tokens_cons notName placeholder rfl _
          | none =>
            simp only [Token.positional, Token.replaced, found]
            change tokens state ('@' :: (_ ++ _)) = _
            rw [enters, tokens_keptName doubled]

/-- A token that is replaced is no parameter and stays as it is. -/
theorem Token.positional_replaced (isParameter : String → Bool) (token : Token) :
    (token.replaced isParameter).positional isParameter = token.positional isParameter ∧
      (token.replaced isParameter).parameter? isParameter = none := by
  cases found : token.parameter? isParameter with
  | some name =>
    have placeholder : token.replaced isParameter = .char '?' := by simp only [replaced, found]
    rw [placeholder]
    exact ⟨by simp only [positional, found]; rfl, rfl⟩
  | none =>
    have same : token.replaced isParameter = token := by simp only [replaced, found]
    rw [same]
    exact ⟨rfl, found⟩

/-- **The positional form of a text.**  It has a placeholder for every parameter that stands in
code and is the same elsewhere, so the text is got back from it; and its own positional form is
itself. -/
theorem toPositional_rewrites (isParameter : String → Bool) (sql : String) :
    (∃ (cuts : Cuts) (last : List Char),
      sql.toList = cuts.text ++ last ∧
      (toPositional isParameter sql).sql.toList = cuts.positional ++ last ∧
      (toPositional isParameter sql).names = cuts.map Prod.snd ∧
      cuts.placesFrom 0 = parametersIn isParameter sql.toList) ∧
    toPositional isParameter (toPositional isParameter sql).sql =
      ⟨(toPositional isParameter sql).sql, []⟩ := by
  constructor
  · refine ⟨(cut isParameter [] (stretches sql.toList)).1,
      (cut isParameter [] (stretches sql.toList)).2, ?_, ?_, ?_, ?_⟩
    · rw [cut_text, flatMap_text_stretches, List.nil_append]
    · rw [cut_positional, (toPositional_stretches isParameter sql).1, List.nil_append]
    · rw [cut_names, (toPositional_stretches isParameter sql).2]
    · exact cut_places [] (stretches sql.toList) 0
  · have again := tokens_positional isParameter sql.toList .code trivial rfl
    have each := Token.positional_replaced isParameter
    simp only [toPositional, String.toList_ofList, again, Positional.mk.injEq]
    constructor
    · rw [List.flatMap_map]
      simp only [each]
    · rw [List.filterMap_map, List.filterMap_eq_nil_iff]
      exact fun token _ => (each token).2

end PlanCompiler.Placeholder
