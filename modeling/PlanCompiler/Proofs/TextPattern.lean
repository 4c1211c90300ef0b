/-
# Proofs.TextPattern -- the patterns of LIKE

A pattern is read from left to right: `%` stands for any text, `_` for any single
character, and a backslash takes the character after it for itself.  A backslash
that nothing follows stands for itself.

A text without these three characters is read as itself wherever it stands
(`read_append`), and a pattern of it and of `%` finds the text itself (`accepts_contained`,
`accepts_start`, `accepts_ending`).  Of any other text this fails: every pattern
accepts its `sample`, which is no longer than what the pattern is read from, and is
different from it unless each character was read as itself (`readsAlone_of_sample`).
-/
import Mathlib.Data.List.Infix

namespace PlanCompiler

set_option autoImplicit false

inductive PatternUnit
  | character (value : Char)
  | anyCharacter
  | anyText
deriving DecidableEq, Repr

namespace PatternUnit

/-! ## Reading and matching -/

/-- What a character stands for where no backslash precedes it. -/
def ofChar (c : Char) : PatternUnit :=
  if c = '%' then .anyText else if c = '_' then .anyCharacter else .character c

/-- The units of a pattern. -/
def read : List Char → List PatternUnit
  | [] => []
  | ['\\'] => [.character '\\']
  | '\\' :: c :: rest => .character c :: read rest
  | c :: rest => ofChar c :: read rest

/-- Whether a whole text is what the units stand for. -/
def accepts : List PatternUnit → List Char → Bool
  | [], text => text.isEmpty
  | .character c :: units, d :: text => c == d && accepts units text
  | .anyCharacter :: units, _ :: text => accepts units text
  | .character _ :: _, [] | .anyCharacter :: _, [] => false
  | .anyText :: units, text => text.tails.any (accepts units)

theorem accepts_anyText {units : List PatternUnit} {text : List Char} :
    accepts (.anyText :: units) text = true ↔
      ∃ rest, rest <:+ text ∧ accepts units rest = true := by
  simp [accepts]

theorem accepts_characters {characters : List Char} {units : List PatternUnit} {text : List Char} :
    accepts (characters.map .character ++ units) text = true ↔
      ∃ rest, text = characters ++ rest ∧ accepts units rest = true := by
  induction characters generalizing text with
  | nil => simp
  | cons c characters ih =>
    cases text with
    | nil => simp [accepts]
    | cons d text =>
      simp only [List.map_cons, List.cons_append, accepts, Bool.and_eq_true, beq_iff_eq, ih,
        List.cons.injEq]
      constructor
      · rintro ⟨rfl, rest, rfl, accepted⟩
        exact ⟨rest, ⟨rfl, rfl⟩, accepted⟩
      · rintro ⟨rest, ⟨rfl, rfl⟩, accepted⟩
        exact ⟨rfl, rest, rfl, accepted⟩

/-! ## Texts that are read as themselves -/

/-- Whether a character stands for itself wherever it stands in a pattern. -/
def IsPlain (c : Char) : Prop :=
  c ≠ '%' ∧ c ≠ '_' ∧ c ≠ '\\'

theorem ofChar_plain {c : Char} (plain : IsPlain c) : ofChar c = .character c := by
  simp [ofChar, plain.1, plain.2.1]

/-- The last case of `read` is about characters other than the backslash. -/
theorem ne_escape {c : Char} {rest : List Char} (alone : c = '\\' → rest = [] → False)
    (escape : ∀ d others, c = '\\' → rest = d :: others → False) : c ≠ '\\' := by
  intro isEscape
  cases rest with
  | nil => exact alone isEscape rfl
  | cons d others => exact escape d others isEscape rfl

theorem read_cons {c : Char} (notEscape : c ≠ '\\') (rest : List Char) :
    read (c :: rest) = ofChar c :: read rest := by
  rw [read]
  · exact fun h => absurd h notEscape
  · exact fun _ _ h => absurd h notEscape

/-- A text of plain characters is read as itself, whatever follows it. -/
theorem read_append {text : List Char} (plain : ∀ c ∈ text, IsPlain c) (rest : List Char) :
    read (text ++ rest) = text.map .character ++ read rest := by
  induction text with
  | nil => rfl
  | cons c text ih =>
    obtain ⟨first, others⟩ := List.forall_mem_cons.1 plain
    rw [List.cons_append, read_cons first.2.2, ofChar_plain first, ih others]
    rfl

/-- Whether a text is read as itself at the end of a pattern, where a last backslash stands for
itself. -/
def ReadsAlone (text : List Char) : Prop :=
  (∀ c ∈ text, IsPlain c) ∨ ∃ front, text = front ++ ['\\'] ∧ ∀ c ∈ front, IsPlain c

theorem read_alone {text : List Char} (alone : ReadsAlone text) :
    read text = text.map .character := by
  rcases alone with plain | ⟨front, rfl, plain⟩
  · simpa [read] using read_append plain []
  · simp [read_append plain, read]

theorem accepts_contained {needle text : List Char} (plain : ∀ c ∈ needle, IsPlain c) :
    accepts (read ('%' :: (needle ++ ['%']))) text = true ↔ needle <:+: text := by
  have units : read ('%' :: (needle ++ ['%'])) =
      .anyText :: (needle.map .character ++ [.anyText]) := by
    rw [read_cons (by decide), read_append plain]
    rfl
  rw [units, accepts_anyText, List.infix_iff_prefix_suffix]
  refine exists_congr fun rest => ?_
  rw [accepts_characters, and_comm]
  refine and_congr_left fun _ => ⟨?_, ?_⟩
  · rintro ⟨after, rfl, -⟩
    exact List.prefix_append needle after
  · rintro ⟨after, rfl⟩
    exact ⟨after, rfl, accepts_anyText.2 ⟨[], List.nil_suffix, rfl⟩⟩

theorem accepts_start {needle text : List Char} (plain : ∀ c ∈ needle, IsPlain c) :
    accepts (read (needle ++ ['%'])) text = true ↔ needle <+: text := by
  rw [read_append plain, accepts_characters]
  constructor
  · rintro ⟨after, rfl, -⟩
    exact List.prefix_append needle after
  · rintro ⟨after, rfl⟩
    exact ⟨after, rfl, accepts_anyText.2 ⟨[], List.nil_suffix, rfl⟩⟩

theorem accepts_ending {needle text : List Char} (alone : ReadsAlone needle) :
    accepts (read ('%' :: needle)) text = true ↔ needle <:+ text := by
  have units : read ('%' :: needle) = .anyText :: (needle.map .character ++ []) := by
    rw [read_cons (by decide), read_alone alone, List.append_nil]
    rfl
  rw [units, accepts_anyText]
  constructor
  · rintro ⟨rest, isEnd, accepted⟩
    obtain ⟨after, rfl, none⟩ := accepts_characters.1 accepted
    obtain rfl : after = [] := List.isEmpty_iff.1 none
    simpa using isEnd
  · intro isEnd
    exact ⟨needle, isEnd, accepts_characters.2 ⟨[], by simp, rfl⟩⟩

/-! ## A text that every pattern accepts -/

/-- A shortest text of those that the units stand for.  Where any character will do it is not
the one that says so. -/
def sample : List PatternUnit → List Char
  | [] => []
  | .character c :: units => c :: sample units
  | .anyCharacter :: units => 'a' :: sample units
  | .anyText :: units => sample units

theorem accepts_sample (units : List PatternUnit) : accepts units (sample units) = true := by
  induction units with
  | nil => rfl
  | cons first units ih =>
    cases first with
    | character c => simp [sample, accepts, ih]
    | anyCharacter => simpa [sample, accepts] using ih
    | anyText => exact accepts_anyText.2 ⟨sample units, List.suffix_rfl, ih⟩

variable {closing : List Char}

theorem length_sample_read_le (closed : closing = [] ∨ closing = ['%']) (text : List Char) :
    (sample (read (text ++ closing))).length ≤ text.length := by
  fun_induction read text with
  | case1 => rcases closed with rfl | rfl <;> decide
  | case2 => rcases closed with rfl | rfl <;> decide
  | case3 c rest ih => simp [read, sample]; omega
  | case4 c rest alone escape ih =>
    rw [List.cons_append, read_cons (ne_escape alone escape), List.length_cons, ofChar]
    split_ifs <;> simp only [sample, List.length_cons] <;> omega

/-- What is not read as itself is not what stands there in the sample: a backslash is left out,
or takes what follows the text for itself, `%` is left out, and `_` is another character. -/
theorem readsAlone_of_sample (closed : closing = [] ∨ closing = ['%']) {text : List Char}
    (same : sample (read (text ++ closing)) = text) :
    (∀ c ∈ text, IsPlain c) ∨ closing = [] ∧ ReadsAlone text := by
  fun_induction read text with
  | case1 => exact .inl (List.forall_mem_nil _)
  | case2 =>
    rcases closed with rfl | rfl
    · exact .inr ⟨rfl, .inr ⟨[], rfl, List.forall_mem_nil _⟩⟩
    · exact absurd same (by decide)
  | case3 c rest ih =>
    have shorter := length_sample_read_le closed rest
    have lengths := congrArg List.length same
    simp [read, sample] at lengths
    omega
  | case4 c rest alone escape ih =>
    have notEscape := ne_escape alone escape
    have shorter := length_sample_read_le closed rest
    rw [List.cons_append, read_cons notEscape, ofChar] at same
    split_ifs at same with anyText anyCharacter
    · have lengths := congrArg List.length same
      simp only [sample, List.length_cons] at lengths
      omega
    · subst anyCharacter
      simp [sample] at same
    · simp only [sample, List.cons.injEq, true_and] at same
      have plain : IsPlain c := ⟨anyText, anyCharacter, notEscape⟩
      rcases ih same with rest_plain | ⟨rfl, rest_plain | ⟨front, rfl, front_plain⟩⟩
      · exact .inl (List.forall_mem_cons.2 ⟨plain, rest_plain⟩)
      · exact .inl (List.forall_mem_cons.2 ⟨plain, rest_plain⟩)
      · exact .inr ⟨rfl, .inr ⟨c :: front, rfl, List.forall_mem_cons.2 ⟨plain, front_plain⟩⟩⟩

/-- A pattern accepts a text that does not contain what the pattern is read from, unless that is
read as itself. -/
theorem readsAlone_of_contained (closed : closing = [] ∨ closing = ['%']) {needle : List Char}
    (contained : needle <:+: sample (read (needle ++ closing))) :
    (∀ c ∈ needle, IsPlain c) ∨ closing = [] ∧ ReadsAlone needle :=
  readsAlone_of_sample closed
    (contained.eq_of_length_le (length_sample_read_le closed needle)).symm

end PatternUnit

end PlanCompiler
