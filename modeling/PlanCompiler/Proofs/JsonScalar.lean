/-
# Proofs.JsonScalar -- scalars are read back from their texts

A text between quotes is read character by character, whatever comes after it
(`Reader.text_quoted`).  A number ends where nothing goes on with it (`Follows`): what is read
of it before is a front of its text, and stays the same with anything after it that does not
go on (`Reader.numeral_takes`).  So it is enough to read a number by itself.

That is known of integers that fit 64 bits (`Reader.value_integer`).  Of floats it is a
condition, as not every float is read back from the fewest digits that stand for it alone: the
reader rounds twice (`Reader.value_real`).
-/
import PlanCompiler.Json.Printer
import PlanCompiler.Json.Reader
import PlanCompiler.Proofs.Results

namespace PlanCompiler.Json.Reader

set_option autoImplicit false

/-! ## Texts -/

theorem hexUnit_of_digits {a b c d : Char} {i j k l : Nat} (rest : List Char)
    (small : a.utf8Size = 1 ∧ b.utf8Size = 1 ∧ c.utf8Size = 1 ∧ d.utf8Size = 1)
    (values : hexValue? a = some i ∧ hexValue? b = some j ∧ hexValue? c = some k ∧
      hexValue? d = some l) :
    hexUnit (a :: b :: c :: d :: rest) = .ok (((i * 16 + j) * 16 + k) * 16 + l, rest) := by
  obtain ⟨sizeA, sizeB, sizeC, sizeD⟩ := small
  obtain ⟨isA, isB, isC, isD⟩ := values
  have enough : dropBytes? 4 (a :: b :: c :: d :: rest) = some rest := by
    simp [dropBytes?, sizeA, sizeB, sizeC, sizeD]
  have read : [a, b, c, d].mapM hexValue? = some [i, j, k, l] := by
    simp [List.mapM_cons, isA, isB, isC, isD]
  unfold hexUnit
  rw [enough]
  simp only [List.take_succ_cons, List.take_zero, read, List.drop_succ_cons, List.drop_zero]
  simp

/-- The controls that have an escape of one letter. -/
def shortControls : List (Nat × Char) :=
  [(0x08, 'b'), (0x09, 't'), (0x0a, 'n'), (0x0c, 'f'), (0x0d, 'r')]

theorem escape_longControl : ∀ code < 0x20, shortControls.lookup code = none →
    Json.escape (.ofNat code) =
        ['\\', 'u', '0', '0', Nat.digitChar (code / 16), Nat.digitChar (code % 16)] ∧
      (Nat.digitChar (code / 16)).utf8Size = 1 ∧ (Nat.digitChar (code % 16)).utf8Size = 1 ∧
      hexValue? (Nat.digitChar (code / 16)) = some (code / 16) ∧
      hexValue? (Nat.digitChar (code % 16)) = some (code % 16) ∧
      isTrailingSurrogate code = false ∧ isLeadingSurrogate code = false := by
  decide

/-- The escape of a control is read as that control. -/
theorem escape_control {code : Nat} (isControl : code < 0x20) (rest : List Char) :
    ∃ tail, Json.escape (.ofNat code) = '\\' :: tail ∧
      escape .lenient (tail ++ rest) = .ok (some (.ofNat code), rest) := by
  cases short : shortControls.lookup code with
  | some letter =>
    have isShort : (code, letter) ∈ shortControls := by
      obtain ⟨before, after, split, -⟩ := List.lookup_eq_some_iff.1 short
      rw [split]
      exact List.mem_append_right _ List.mem_cons_self
    simp only [shortControls, List.mem_cons, Prod.mk.injEq, List.not_mem_nil, or_false] at isShort
    rcases isShort with ⟨rfl, rfl⟩ | ⟨rfl, rfl⟩ | ⟨rfl, rfl⟩ | ⟨rfl, rfl⟩ | ⟨rfl, rfl⟩ <;>
      exact ⟨_, rfl, rfl⟩
  | none =>
    obtain ⟨written, highSize, lowSize, high, low, notTrailing, notLeading⟩ :=
      escape_longControl code isControl short
    refine ⟨_, written, ?_⟩
    have read : hexUnit ('0' :: '0' :: Nat.digitChar (code / 16) :: Nat.digitChar (code % 16) ::
        rest) = .ok (((0 * 16 + 0) * 16 + code / 16) * 16 + code % 16, rest) :=
      hexUnit_of_digits rest ⟨rfl, rfl, highSize, lowSize⟩ ⟨rfl, rfl, high, low⟩
    have value : ((0 * 16 + 0) * 16 + code / 16) * 16 + code % 16 = code := by omega
    rw [value] at read
    change unicodeEscape .lenient ('0' :: '0' :: _ :: _ :: rest) = _
    unfold unicodeEscape
    rw [read]
    simp [bind, Except.bind, notTrailing, notLeading]

/-- An escape in a text stands for its character. -/
theorem text_backslash {c : Char} {tail rest : List Char} (fuel : Nat) (read : List Char)
    (escaped : escape .lenient (tail ++ rest) = .ok (some c, rest)) :
    text .lenient (fuel + 1) (some read) ('\\' :: tail ++ rest) =
      text .lenient fuel (some (c :: read)) rest := by
  rw [List.cons_append, text, escaped]
  rfl

/-- A character of a text is read as it was written. -/
theorem text_escape (c : Char) (fuel : Nat) (read rest : List Char) :
    text .lenient (fuel + 1) (some read) (Json.escape c ++ rest) =
      text .lenient fuel (some (c :: read)) rest := by
  by_cases control : c.toNat < 0x20
  · obtain ⟨tail, written, escaped⟩ := escape_control control rest
    rw [Char.ofNat_toNat] at written escaped
    rw [written]
    exact text_backslash fuel read escaped
  · by_cases quote : c = '\x22'
    · subst quote
      exact text_backslash fuel read rfl
    · by_cases backslash : c = '\\'
      · subst backslash
        exact text_backslash fuel read rfl
      · have ofCode : ∀ {code : Nat}, c.toNat = code → c = .ofNat code :=
          fun same => same ▸ (Char.ofNat_toNat c).symm
        have asIs : Json.escape c = [c] := by
          unfold Json.escape
          split
          · rename_i code
            exact absurd (ofCode code) quote
          · rename_i code
            exact absurd (ofCode code) backslash
          all_goals first | omega | exact if_neg control
        rw [asIs, List.singleton_append, text, if_neg quote, if_neg backslash, if_neg control]
        rfl

/-- A printed text is read back, whatever comes after it. -/
theorem text_quoted (chars : List Char) : ∀ (fuel : Nat) (read rest : List Char),
    chars.length < fuel →
    text .lenient fuel (some read) (chars.flatMap Json.escape ++ '\x22' :: rest) =
      .ok (some (.ofList (read.reverse ++ chars)), rest) := by
  induction chars with
  | nil =>
    intro fuel read rest enough
    cases fuel with
    | zero => cases enough
    | succ fuel =>
      rw [List.append_nil]
      rfl
  | cons c more ih =>
    intro fuel read rest enough
    cases fuel with
    | zero => cases enough
    | succ fuel =>
      rw [List.flatMap_cons, List.append_assoc, text_escape,
        ih fuel (c :: read) rest (Nat.lt_of_succ_lt_succ enough)]
      simp

theorem quote_toList (text : String) :
    (quote text).toList = '\x22' :: (text.toList.flatMap Json.escape ++ ['\x22']) :=
  String.toList_ofList

/-! ## Numbers -/

/-- What may follow a value: nothing that would go on with a number. -/
def Follows (rest : List Char) : Prop :=
  ∀ c ∈ rest.head?, c.isDigit = false ∧ c ≠ '.' ∧ c ≠ 'e' ∧ c ≠ 'E'

section

variable {text unread rest : List Char}

theorem takeWhile_follows (follows : Follows rest) :
    (text ++ rest).takeWhile Char.isDigit = text.takeWhile Char.isDigit := by
  induction text with
  | nil =>
    cases rest with
    | nil => rfl
    | cons c more => exact List.takeWhile_cons_of_neg (by simp [(follows c rfl).1])
  | cons c more ih => simp only [List.cons_append, List.takeWhile_cons, ih]

theorem drop_takeWhile_append (text rest : List Char) :
    (text ++ rest).drop (text.takeWhile Char.isDigit).length =
      text.drop (text.takeWhile Char.isDigit).length ++ rest :=
  List.drop_append_of_le_length (List.takeWhile_prefix _).length_le

/-- Reading takes a front of the text, and the same with anything after it that may follow. -/
def Takes {α : Type} (read : List Char → Except Failure (α × List Char)) (text : List Char) : Prop :=
  ∀ a unread, read text = .ok (a, unread) → unread <:+ text ∧
    ∀ rest, Follows rest → read (text ++ rest) = .ok (a, unread ++ rest)

/-- An exponent after its sign. -/
def exponentSize (negative : Bool) (text : List Char) : Except Failure (Int × List Char) :=
  let digits := text.takeWhile Char.isDigit
  if digits.isEmpty then unexpected text
  else
    let size : Int := Nat.ofDigitChars 10 digits 0
    .ok (if negative then -size else size, text.drop digits.length)

theorem exponentSize_takes (negative : Bool) (text : List Char) :
    Takes (exponentSize negative) text := by
  intro size unread isRead
  unfold exponentSize at isRead
  simp only at isRead
  split at isRead
  · cases isRead
  · rename_i someDigits
    cases isRead
    refine ⟨List.drop_suffix _ _, fun rest follows => ?_⟩
    unfold exponentSize
    simp only [takeWhile_follows follows, drop_takeWhile_append, if_neg someDigits]

theorem exponent_takes (text : List Char) : Takes exponent text := by
  intro size unread isRead
  cases text with
  | nil => cases isRead
  | cons c more =>
    by_cases plus : c = '+'
    · subst plus
      obtain ⟨isSuffix, further⟩ := exponentSize_takes false more size unread isRead
      exact ⟨isSuffix.trans (List.suffix_cons _ _), further⟩
    · by_cases minus : c = '-'
      · subst minus
        obtain ⟨isSuffix, further⟩ := exponentSize_takes true more size unread isRead
        exact ⟨isSuffix.trans (List.suffix_cons _ _), further⟩
      · have unsigned : ∀ more, exponent (c :: more) = exponentSize false (c :: more) := by
          intro more
          unfold exponent
          split
          rename_i negative text same
          split at same
          · rename_i isPlus
            cases isPlus
            exact absurd rfl plus
          · rename_i isMinus
            cases isMinus
            exact absurd rfl minus
          · cases same
            rfl
        rw [unsigned] at isRead
        obtain ⟨isSuffix, further⟩ := exponentSize_takes false (c :: more) size unread isRead
        refine ⟨isSuffix, fun rest follows => ?_⟩
        rw [List.cons_append, unsigned]
        exact further rest follows

theorem exponent?_takes (text : List Char) : Takes exponent? text := by
  intro size unread isRead
  cases text with
  | nil =>
    cases isRead
    refine ⟨List.suffix_rfl, fun rest follows => ?_⟩
    -- there is no exponent, and what follows does not begin one
    rw [List.nil_append]
    cases rest with
    | nil => rfl
    | cons c more =>
      obtain ⟨-, -, notSmall, notLarge⟩ := follows c rfl
      unfold exponent?
      split
      · rename_i same
        cases same
        exact absurd rfl notSmall
      · rename_i same
        cases same
        exact absurd rfl notLarge
      · rfl
  | cons c more =>
    have marked : (c = 'e' ∨ c = 'E') → ∀ more, exponent? (c :: more) =
        (exponent more).bind fun found => .ok (some found.1, found.2) := by
      rintro (rfl | rfl) more <;> rfl
    by_cases isMark : c = 'e' ∨ c = 'E'
    · rw [marked isMark] at isRead
      obtain ⟨⟨found, after⟩, isExponent, same⟩ := Except.bind_eq_ok.1 isRead
      cases same
      obtain ⟨isSuffix, further⟩ := exponent_takes more found _ isExponent
      refine ⟨isSuffix.trans (List.suffix_cons _ _), fun rest follows => ?_⟩
      rw [List.cons_append, marked isMark, further rest follows]
      rfl
    · have unmarked : ∀ more, exponent? (c :: more) = .ok (none, c :: more) := by
        intro more
        unfold exponent?
        split
        · rename_i same
          cases same
          exact absurd (.inl rfl) isMark
        · rename_i same
          cases same
          exact absurd (.inr rfl) isMark
        · rfl
      rw [unmarked] at isRead
      cases isRead
      refine ⟨List.suffix_rfl, fun rest _ => ?_⟩
      rw [List.cons_append, unmarked]

/-- What is left of a number after its digits before the point. -/
def numeralRest (negative : Bool) (whole : List Char) (text : List Char) :
    Except Failure (Numeral × List Char) :=
  match text with
  | '.' :: rest =>
    let fraction := rest.takeWhile Char.isDigit
    if fraction.isEmpty then unexpected rest
    else do
      let (size, rest) ← exponent? (rest.drop fraction.length)
      .ok (⟨negative, whole, some fraction, size⟩, rest)
  | rest => do
    let (size, rest) ← exponent? rest
    .ok (⟨negative, whole, none, size⟩, rest)

theorem numeralRest_takes (negative : Bool) (whole text : List Char) :
    Takes (numeralRest negative whole) text := by
  intro n unread isRead
  have unpointed : ∀ text : List Char, text.head? ≠ some '.' → numeralRest negative whole text = (do
      let (size, rest) ← exponent? text
      .ok (⟨negative, whole, none, size⟩, rest)) := by
    intro text noPoint
    unfold numeralRest
    split
    · exact absurd rfl noPoint
    · rfl
  by_cases point : text.head? = some '.'
  · obtain ⟨more, rfl⟩ := List.head?_eq_some_iff.1 point
    have pointed : ∀ more, numeralRest negative whole ('.' :: more) =
        (if (more.takeWhile Char.isDigit).isEmpty then unexpected more
        else do
          let (size, rest) ← exponent? (more.drop (more.takeWhile Char.isDigit).length)
          .ok (⟨negative, whole, some (more.takeWhile Char.isDigit), size⟩, rest)) := fun _ => rfl
    rw [pointed] at isRead
    split at isRead
    · cases isRead
    · rename_i someDigits
      obtain ⟨⟨size, after⟩, isExponent, same⟩ := Except.bind_eq_ok.1 isRead
      cases same
      obtain ⟨isSuffix, further⟩ := exponent?_takes _ size unread isExponent
      constructor
      · exact isSuffix.trans ((List.drop_suffix _ _).trans (List.suffix_cons _ _))
      · intro rest follows
        rw [List.cons_append, pointed, takeWhile_follows follows, drop_takeWhile_append,
          if_neg someDigits, further rest follows]
        rfl
  · rw [unpointed text point] at isRead
    obtain ⟨⟨size, after⟩, isExponent, same⟩ := Except.bind_eq_ok.1 isRead
    cases same
    obtain ⟨isSuffix, further⟩ := exponent?_takes text size unread isExponent
    refine ⟨isSuffix, fun rest follows => ?_⟩
    have noPoint : (text ++ rest).head? ≠ some '.' := by
      intro isPoint
      cases text with
      | nil => exact (follows '.' isPoint).2.1 rfl
      | cons c more => exact point isPoint
    rw [unpointed _ noPoint, further rest follows]
    rfl

theorem numeral_takes (negative : Bool) (text : List Char) : Takes (numeral negative) text := by
  intro n unread isRead
  have opened : ∀ text, numeral negative text =
      if (text.takeWhile Char.isDigit).isEmpty then unexpected text
      else if (text.takeWhile Char.isDigit).head? = some '0' &&
        (text.takeWhile Char.isDigit).length ≠ 1 then unexpected (text.drop 1)
      else numeralRest negative (text.takeWhile Char.isDigit)
        (text.drop (text.takeWhile Char.isDigit).length) := fun _ => rfl
  rw [opened] at isRead
  split at isRead
  · cases isRead
  · rename_i someDigits
    split at isRead
    · cases isRead
    · rename_i noZero
      obtain ⟨isSuffix, further⟩ := numeralRest_takes negative _ _ n unread isRead
      refine ⟨isSuffix.trans (List.drop_suffix _ _), fun rest follows => ?_⟩
      rw [opened, takeWhile_follows follows, drop_takeWhile_append, if_neg someDigits,
        if_neg noZero]
      exact further rest follows

theorem number_takes (negative : Bool) (text : List Char) :
    Takes (number .lenient negative) text := by
  have opened : ∀ text, number .lenient negative text =
      (numeral negative text).bind fun found => .ok (found.1.value, found.2) := fun _ => rfl
  intro v unread isRead
  rw [opened] at isRead
  obtain ⟨⟨n, after⟩, isNumeral, same⟩ := Except.bind_eq_ok.1 isRead
  cases same
  obtain ⟨isSuffix, further⟩ := numeral_takes negative text n _ isNumeral
  refine ⟨isSuffix, fun rest follows => ?_⟩
  rw [opened, further rest follows]
  rfl

end

/-! ### Integers -/

/-- Only zero is written with a zero in front. -/
theorem head_toDigits (n : Nat) : 0 < n → (Nat.toDigits 10 n).head? ≠ some '0' := by
  induction n using Nat.strongRecOn with
  | ind n ih =>
    intro positive
    by_cases small : n < 10
    · have digits : ∀ n < 10, 0 < n → [Nat.digitChar n].head? ≠ some '0' := by decide
      rw [Nat.toDigits_of_lt_base small]
      exact digits n small positive
    · have front := ih (n / 10) (by omega) (by omega)
      rw [Nat.toDigits_of_base_le (by decide) (by omega), List.head?_append]
      cases digits : Nat.toDigits 10 (n / 10) with
      | nil => exact absurd digits Nat.toDigits_ne_nil
      | cons c more =>
        rw [digits] at front
        exact front

theorem numeral_toDigits (negative : Bool) (n : Nat) :
    numeral negative (Nat.toDigits 10 n) = .ok (⟨negative, Nat.toDigits 10 n, none, none⟩, []) := by
  have areDigits : ∀ c ∈ Nat.toDigits 10 n, c.isDigit = true :=
    fun c mem => Nat.isDigit_of_mem_toDigits (by decide) (by decide) mem
  have all : (Nat.toDigits 10 n ++ []).takeWhile Char.isDigit = Nat.toDigits 10 n ++ [] :=
    List.takeWhile_append_of_pos areDigits
  rw [List.append_nil] at all
  have nonempty : (Nat.toDigits 10 n).isEmpty = false := by
    simp [Nat.toDigits_ne_nil]
  have noZero :
      ((Nat.toDigits 10 n).head? = some '0' && (Nat.toDigits 10 n).length ≠ 1) = false := by
    by_cases zero : n = 0
    · rw [zero]
      rfl
    · simp [head_toDigits n (by omega)]
  unfold numeral
  simp only [all, List.drop_length, nonempty, noZero, Bool.false_eq_true, if_false]
  rfl

/-- Digits of a number that fits are all gathered. -/
theorem gather_eq {digits : List Char} {significand : Nat}
    (fits : Nat.ofDigitChars 10 digits significand < Numeral.significandBound) :
    Numeral.gather significand digits = (Nat.ofDigitChars 10 digits significand, 0) := by
  induction digits generalizing significand with
  | nil => rfl
  | cons digit more ih =>
    rw [Nat.ofDigitChars_cons] at fits ⊢
    have grows : 10 * significand + (digit.toNat - '0'.toNat) ≤
        Nat.ofDigitChars 10 more (10 * significand + (digit.toNat - '0'.toNat)) := by
      rw [Nat.ofDigitChars_eq_ofDigitChars_zero]
      have positive : 0 < 10 ^ more.length := Nat.pow_pos (by decide)
      have atLeast := Nat.le_mul_of_pos_left
        (10 * significand + (digit.toNat - '0'.toNat)) positive
      omega
    have next : significand * 10 + (digit.toNat - '0'.toNat) =
        10 * significand + (digit.toNat - '0'.toNat) := by omega
    rw [Numeral.gather, next, if_pos (by omega)]
    exact ih fits

theorem number_toDigits (negative : Bool) (n : Nat) {rest : List Char} (follows : Follows rest) :
    number .lenient negative (Nat.toDigits 10 n ++ rest) =
      .ok (Numeral.value ⟨negative, Nat.toDigits 10 n, none, none⟩, rest) := by
  refine (number_takes negative _ _ [] ?_).2 rest follows
  unfold number
  rw [numeral_toDigits]
  rfl

theorem gather_toDigits {n : Nat} (fits : n < Numeral.significandBound) :
    Numeral.gather 0 (Nat.toDigits 10 n) = (n, 0) := by
  have gathered := @gather_eq (Nat.toDigits 10 n) 0 (by rwa [Nat.ofDigitChars_ten_toDigits])
  rw [Nat.ofDigitChars_ten_toDigits] at gathered
  exact gathered

theorem value_natural {n : Nat} (fits : n < Numeral.significandBound) :
    Numeral.value ⟨false, Nat.toDigits 10 n, none, none⟩ = .integer n := by
  unfold Numeral.value
  rw [gather_toDigits fits]
  rfl

theorem value_negative {n : Nat} (positive : 0 < n) (fits : n ≤ Nat.pow 2 63) :
    Numeral.value ⟨true, Nat.toDigits 10 n, none, none⟩ = .integer (-(n : Int)) := by
  have bounded : n < Numeral.significandBound := by
    have bounds : Nat.pow 2 63 < Numeral.significandBound := by decide
    omega
  unfold Numeral.value
  rw [gather_toDigits bounded]
  have notReal : ¬(n = 0 ∨ Nat.pow 2 63 < n) := by omega
  simp [notReal]

theorem skipSpace_of_not {c : Char} (notSpace : isSpace c = false) (rest : List Char) :
    skipSpace (c :: rest) = c :: rest :=
  List.dropWhile_cons_of_neg (by simp [notSpace])

theorem ne_of_isDigit {c d : Char} (digit : c.isDigit = true) (notDigit : d.isDigit = false) :
    c ≠ d := by
  rintro rfl
  rw [digit] at notDigit
  cases notDigit

theorem isSpace_of_isDigit {c : Char} (digit : c.isDigit = true) : isSpace c = false := by
  have other : ∀ d : Char, d.isDigit = false → c ≠ d := fun d => ne_of_isDigit digit
  simp [isSpace, other ' ' rfl, other '\n' rfl, other '\t' rfl, other '\r' rfl]

/-- The digits of a number begin with a digit. -/
theorem toDigits_cons (n : Nat) : ∃ c more, Nat.toDigits 10 n = c :: more ∧ c.isDigit = true := by
  cases digits : Nat.toDigits 10 n with
  | nil => exact absurd digits Nat.toDigits_ne_nil
  | cons c more =>
    refine ⟨c, more, rfl, Nat.isDigit_of_mem_toDigits (by decide) (by decide) (n := n) (b := 10) ?_⟩
    rw [digits]
    exact List.mem_cons_self

/-- A number begins with its first digit. -/
theorem value_digit {c : Char} (digit : c.isDigit = true) (fuel depth : Nat) (rest : List Char) :
    value .lenient (fuel + 1) depth (c :: rest) = number .lenient false (c :: rest) := by
  rw [value, skipSpace_of_not (isSpace_of_isDigit digit)]
  simp only
  split
  all_goals first | exact absurd digit (by decide) | exact if_pos digit

theorem toString_ofNat_toList (n : Nat) :
    (toString (Int.ofNat n)).toList = Nat.toDigits 10 n :=
  Nat.toList_repr

theorem toString_negSucc_toList (n : Nat) :
    (toString (Int.negSucc n)).toList = '-' :: Nat.toDigits 10 (n + 1) := by
  have written : toString (Int.negSucc n) = "-" ++ toString (n + 1) := rfl
  rw [written, String.toList_append]
  exact congrArg ('-' :: ·) Nat.toList_repr

/-- A printed integer is read back. -/
theorem value_integer {n : Int} (fits : IsInteger n) (fuel depth : Nat) {rest : List Char}
    (follows : Follows rest) :
    value .lenient (fuel + 1) depth ((toString n).toList ++ rest) = .ok (.integer n, rest) := by
  have bound : Numeral.significandBound = Nat.pow 2 64 := rfl
  cases n with
  | ofNat n =>
    have small : n < Numeral.significandBound := by
      rw [bound]
      exact Int.ofNat_lt.1 fits.2
    have read := number_toDigits false n follows
    rw [value_natural small] at read
    obtain ⟨c, more, chars, isDigit⟩ := toDigits_cons n
    rw [chars, List.cons_append] at read
    rw [toString_ofNat_toList, chars, List.cons_append, value_digit isDigit]
    exact read
  | negSucc n =>
    have small : n + 1 ≤ Nat.pow 2 63 := by
      have low := fits.1
      omega
    have read := number_toDigits true (n + 1) follows
    rw [value_negative (Nat.succ_pos n) small] at read
    have same : -((n + 1 : Nat) : Int) = Int.negSucc n := rfl
    rw [same] at read
    rw [toString_negSucc_toList, List.cons_append, value, skipSpace_of_not (by decide)]
    exact read

/-! ### Floats -/

/-- The characters of numbers. -/
def isNumeric (c : Char) : Bool :=
  c.isDigit || c = '.' || c = '-' || c = 'e'

theorem isSpace_of_isNumeric {c : Char} (numeric : isNumeric c = true) : isSpace c = false := by
  simp only [isNumeric, Bool.or_eq_true, decide_eq_true_eq] at numeric
  rcases numeric with ((isDigit | rfl) | rfl) | rfl
  · exact isSpace_of_isDigit isDigit
  · rfl
  · rfl
  · rfl

/-- The text of a number without its sign. -/
structure IsMagnitude (text : List Char) : Prop where
  begins : ∃ c more, text = c :: more ∧ c.isDigit = true
  numeric : ∀ c ∈ text, isNumeric c = true

theorem numeric_of_digits {digits : List Char} (areDigits : ∀ c ∈ digits, c.isDigit = true) :
    ∀ c ∈ digits, isNumeric c = true := by
  intro c mem
  simp [isNumeric, areDigits c mem]

/-- Digits and more numeric characters behind them. -/
theorem isMagnitude_append {digits more : List Char} (nonempty : digits ≠ [])
    (areDigits : ∀ c ∈ digits, c.isDigit = true) (numeric : ∀ c ∈ more, isNumeric c = true) :
    IsMagnitude (digits ++ more) := by
  constructor
  · cases digits with
    | nil => exact absurd rfl nonempty
    | cons c others => exact ⟨c, others ++ more, rfl, areDigits c List.mem_cons_self⟩
  · exact List.forall_mem_append.2 ⟨numeric_of_digits areDigits, numeric⟩

theorem isDigit_toDigits (n : Nat) : ∀ c ∈ Nat.toDigits 10 n, c.isDigit = true :=
  fun _ mem => Nat.isDigit_of_mem_toDigits (by decide) (by decide) mem

theorem isDigit_zeros (count : Nat) : ∀ c ∈ List.replicate count '0', c.isDigit = true := by
  intro c mem
  rw [List.eq_of_mem_replicate mem]
  rfl

theorem numeric_integer (n : Int) : ∀ c ∈ (toString n).toList, isNumeric c = true := by
  cases n with
  | ofNat n =>
    rw [toString_ofNat_toList]
    exact numeric_of_digits (isDigit_toDigits n)
  | negSucc n =>
    rw [toString_negSucc_toList, List.forall_mem_cons]
    exact ⟨rfl, numeric_of_digits (isDigit_toDigits _)⟩

/-- Digits with a point among them. -/
theorem isMagnitude_pointed {digits : List Char} {places : Nat}
    (areDigits : ∀ c ∈ digits, c.isDigit = true) (enough : places < digits.length) :
    IsMagnitude (digits.take (digits.length - places) ++
      '.' :: digits.drop (digits.length - places)) := by
  apply isMagnitude_append
  · intro none
    have length := congrArg List.length none
    simp only [List.length_take, List.length_nil] at length
    omega
  · exact fun c mem => areDigits c (List.mem_of_mem_take mem)
  · rw [List.forall_mem_cons]
    exact ⟨rfl, numeric_of_digits fun c mem => areDigits c (List.mem_of_mem_drop mem)⟩

theorem isMagnitude_positional {d : Decimal} (places : d.exponent < 0) :
    IsMagnitude d.positional := by
  unfold Decimal.positional
  simp only [if_neg (Int.not_le.2 places)]
  apply isMagnitude_pointed
  · exact List.forall_mem_append.2 ⟨isDigit_zeros _, isDigit_toDigits _⟩
  · rw [List.length_append, List.length_replicate]
    omega

/-- The text of a float is a number, after its sign if it has one. -/
theorem realText_toList (x : Float) : ∃ magnitude, IsMagnitude magnitude ∧
    (realText x).toList =
      if (Binary.ofFloat x).negative then '-' :: magnitude else magnitude := by
  unfold realText
  simp only [String.toList_ofList]
  refine ⟨_, ?_, rfl⟩
  split
  · exact ⟨⟨'0', ['.', '0'], rfl, rfl⟩, List.all_eq_true.1 rfl⟩
  · rename_i nonzero
    split
    · rename_i whole
      rw [Decimal.positional_of_whole whole.1 nonzero, List.append_assoc]
      apply isMagnitude_append Nat.toDigits_ne_nil (isDigit_toDigits _)
      exact List.forall_mem_append.2
        ⟨numeric_of_digits (isDigit_zeros _), List.all_eq_true.1 rfl⟩
    · split
      · rename_i pointed
        exact isMagnitude_positional pointed.1
      · rw [List.append_assoc]
        apply isMagnitude_append
        · simp [Nat.toDigits_ne_nil]
        · exact fun c mem => isDigit_toDigits _ c (List.mem_of_mem_take mem)
        · refine List.forall_mem_append.2 ⟨?_, List.forall_mem_cons.2 ⟨rfl, numeric_integer _⟩⟩
          split
          · exact nofun
          · refine List.forall_mem_cons.2 ⟨rfl, numeric_of_digits fun c mem => ?_⟩
            exact isDigit_toDigits _ c (List.mem_of_mem_drop mem)

/-- Without blanks, nothing is left of a text that is read up to blanks. -/
theorem eq_nil_of_skipSpace {text unread : List Char} (numeric : ∀ c ∈ text, isNumeric c = true)
    (isSuffix : unread <:+ text) (blank : skipSpace unread = []) : unread = [] := by
  cases unread with
  | nil => rfl
  | cons c more =>
    have mem : c ∈ text := isSuffix.subset List.mem_cons_self
    rw [skipSpace_of_not (isSpace_of_isNumeric (numeric c mem))] at blank
    cases blank

/-- A value is read with what is left of the text after it. -/
theorem value_of_read {text : String} {v : Json} (isRead : read? text = some v) :
    ∃ unread, value .lenient (fuelFor text.toList) maxDepth text.toList = .ok (v, unread) ∧
      skipSpace unread = [] := by
  unfold read? read at isRead
  simp only at isRead
  split at isRead
  · cases isRead
  · rename_i found unread isValue
    split at isRead
    · rename_i blank
      cases isRead
      exact ⟨unread, isValue, blank⟩
    · cases isRead

/-- A float is read back, if it is by itself. -/
theorem value_real {x : Float} (alone : read? (realText x) = some (.real x)) (fuel depth : Nat)
    {rest : List Char} (follows : Follows rest) :
    value .lenient (fuel + 1) depth ((realText x).toList ++ rest) = .ok (.real x, rest) := by
  -- read by itself the number takes the whole text, as there are no blanks in it
  obtain ⟨unread, isValue, blank⟩ := value_of_read alone
  obtain ⟨magnitude, ⟨⟨c, more, begins, isDigit⟩, numeric⟩, text⟩ := realText_toList x
  have ends : ∀ {negative : Bool}, number .lenient negative magnitude = .ok (.real x, unread) →
      number .lenient negative (magnitude ++ rest) = .ok (.real x, rest) := by
    intro negative isNumber
    obtain ⟨isSuffix, further⟩ := number_takes negative magnitude (.real x) unread isNumber
    rw [eq_nil_of_skipSpace numeric isSuffix blank] at further
    exact further rest follows
  rw [text, fuelFor] at isValue
  rw [text]
  cases negative : (Binary.ofFloat x).negative with
  | true =>
    simp only [negative, if_true] at isValue ⊢
    rw [value, skipSpace_of_not (by decide)] at isValue
    rw [List.cons_append, value, skipSpace_of_not (by decide)]
    exact ends isValue
  | false =>
    simp only [negative, Bool.false_eq_true, if_false] at isValue ⊢
    have isNumber : number .lenient false magnitude = .ok (.real x, unread) := by
      rw [begins, value_digit isDigit] at isValue
      rw [begins]
      exact isValue
    have read := ends isNumber
    rw [begins, List.cons_append] at read ⊢
    rw [value_digit isDigit]
    exact read

/-! ## Quoted texts and words -/

theorem length_le_escaped (chars : List Char) :
    chars.length ≤ (chars.flatMap Json.escape).length := by
  induction chars with
  | nil => exact Nat.le_refl _
  | cons c rest ih =>
    have one : 1 ≤ (Json.escape c).length := by
      unfold Json.escape
      split
      all_goals first | exact Nat.succ_le_succ (Nat.zero_le _) | skip
      split <;> simp
    rw [List.flatMap_cons, List.length_append, List.length_cons]
    omega

theorem length_quote (text : String) : text.toList.length + 2 ≤ (quote text).toList.length := by
  have escaped := length_le_escaped text.toList
  rw [quote_toList, List.length_cons, List.length_append, List.length_singleton]
  omega

theorem value_quote (text : String) {fuel depth : Nat} (enough : text.toList.length < fuel)
    (rest : List Char) :
    value .lenient (fuel + 1) depth ((quote text).toList ++ rest) = .ok (.string text, rest) := by
  have read := text_quoted text.toList fuel [] rest enough
  rw [List.reverse_nil, List.nil_append, String.ofList_toList] at read
  rw [quote_toList, List.cons_append, List.append_assoc, List.singleton_append, value,
    skipSpace_of_not (by decide)]
  simp only
  rw [read]
  rfl

/-- A word is read back. -/
theorem value_word {v : Json} (isWord : v = .null ∨ ∃ b, v = .bool b) (fuel depth : Nat)
    (rest : List Char) :
    value .lenient (fuel + 1) depth (v.compact.toList ++ rest) = .ok (v, rest) := by
  have written : v = .null ∧ v.compact.toList = ['n', 'u', 'l', 'l'] ∨
      v = .bool true ∧ v.compact.toList = ['t', 'r', 'u', 'e'] ∨
      v = .bool false ∧ v.compact.toList = ['f', 'a', 'l', 's', 'e'] := by
    rcases isWord with rfl | ⟨b | b, rfl⟩ <;> simp [compact]
  rcases written with ⟨rfl, word⟩ | ⟨rfl, word⟩ | ⟨rfl, word⟩ <;>
  · rw [word, List.cons_append, value, skipSpace_of_not (by decide)]
    rfl

end PlanCompiler.Json.Reader
