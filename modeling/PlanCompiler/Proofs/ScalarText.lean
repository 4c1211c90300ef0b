/-
# Proofs.ScalarText -- dates, times and identifiers are read back from their texts

A number with leading zeros is read as that number, as long as it has no more digits than its
place allows and what follows it is not a digit (`Calendar.digits_padded`).  The fields of a
date or time are such numbers with a mark between them, so each reader is shown to take the
printed field off the front of a text and to leave the rest as it was.

A zoned time is read back when its instant is a day of the calendar at UTC as well, which is
what reading checks (`ZonedDateTime.of?`).
-/
import PlanCompiler.Calendar.Printer
import PlanCompiler.Calendar.Reader
import PlanCompiler.Uuid

namespace PlanCompiler

set_option autoImplicit false

open Text

namespace Calendar

/-! ## Numbers -/

/-- What may follow a number. -/
def EndsNumber (rest : List Char) : Prop :=
  ∀ c ∈ rest.head?, c.isDigit = false

theorem endsNumber_cons {c : Char} (notDigit : c.isDigit = false) (rest : List Char) :
    EndsNumber (c :: rest) := by
  intro d mem
  cases mem
  exact notDigit

theorem endsNumber_nil : EndsNumber [] := nofun

section

variable {width most n : Nat} {rest : List Char}

theorem isDigit_padded (width n : Nat) : ∀ c ∈ padded width n, c.isDigit = true := by
  intro c mem
  rcases List.mem_append.1 mem with mem | mem
  · rw [List.eq_of_mem_replicate mem]
    rfl
  · exact Nat.isDigit_of_mem_toDigits (by decide) (by decide) mem

theorem padded_cons (width n : Nat) : ∃ c more, padded width n = c :: more ∧ c.isDigit = true := by
  cases text : padded width n with
  | nil =>
    have none := List.append_eq_nil_iff.1 text
    exact absurd none.2 Nat.toDigits_ne_nil
  | cons c more =>
    refine ⟨c, more, rfl, isDigit_padded width n c ?_⟩
    rw [text]
    exact List.mem_cons_self

theorem ofDigitChars_padded (width n : Nat) : Nat.ofDigitChars 10 (padded width n) 0 = n := by
  rw [padded, Nat.ofDigitChars_append, Nat.ofDigitChars_replicate_zero, Nat.mul_zero,
    Nat.ofDigitChars_ten_toDigits]

theorem length_padded_of_lt (small : n < Nat.pow 10 width) (some : 0 < width) :
    (padded width n).length = width := by
  have digits := (Nat.length_toDigits_le_iff (b := 10) (by decide) some).2 small
  refine Nat.le_antisymm ?_ (length_padded width n)
  rw [padded, List.length_append, List.length_replicate]
  omega

theorem takeWhile_padded (ends : EndsNumber rest) :
    (padded width n ++ rest).takeWhile Char.isDigit = padded width n := by
  rw [List.takeWhile_append_of_pos (isDigit_padded width n)]
  cases rest with
  | nil => exact List.append_nil _
  | cons c more =>
    rw [List.takeWhile_cons_of_neg (by simp [ends c rfl]), List.append_nil]

/-- A number is read back, up to what follows it. -/
theorem digits_padded (fits : (padded width n).length ≤ most) (ends : EndsNumber rest) :
    digits most (padded width n ++ rest) = some (n, rest) := by
  have stillEnds : EndsNumber (rest.take (most - (padded width n).length)) := by
    intro c mem
    rw [List.head?_take] at mem
    split at mem
    · cases mem
    · exact ends c mem
  have found : ((padded width n ++ rest).take most).takeWhile Char.isDigit = padded width n := by
    rw [List.take_append, List.take_of_length_le fits]
    exact takeWhile_padded stillEnds
  obtain ⟨c, more, nonempty, -⟩ := padded_cons width n
  have notEmpty : (padded width n).isEmpty = false := by rw [nonempty]; rfl
  unfold digits
  simp only [found, notEmpty, ofDigitChars_padded, List.drop_left]
  rfl

theorem isBlank_of_isDigit {c : Char} (digit : c.isDigit = true) : isBlank c = false := by
  have bounds : 48 ≤ c.toNat ∧ c.toNat ≤ 57 := by
    simpa [Char.isDigit, UInt32.le_iff_toNat_le] using digit
  simp only [isBlank, Bool.or_eq_false_iff, Bool.and_eq_false_iff, decide_eq_false_iff_not,
    beq_eq_false_iff_ne]
  omega

theorem trimStart_of_not {c : Char} (notBlank : isBlank c = false) (rest : List Char) :
    trimStart (c :: rest) = c :: rest :=
  List.dropWhile_cons_of_neg (by simp [notBlank])

theorem trimStart_padded (width n : Nat) (rest : List Char) :
    trimStart (padded width n ++ rest) = padded width n ++ rest := by
  obtain ⟨c, more, text, isDigit⟩ := padded_cons width n
  rw [text, List.cons_append]
  exact trimStart_of_not (isBlank_of_isDigit isDigit) _

theorem number_padded (fits : (padded width n).length ≤ most) (ends : EndsNumber rest) :
    number most (padded width n ++ rest) = some (n, rest) := by
  rw [number, trimStart_padded]
  exact digits_padded fits ends

/-- Two digits are read back. -/
theorem number_two (small : n < 100) (ends : EndsNumber rest) :
    number 2 (padded 2 n ++ rest) = some (n, rest) :=
  number_padded (Nat.le_of_eq (length_padded_of_lt small (by decide))) ends

theorem mark_cons {c : Char} (notBlank : isBlank c = false) (rest : List Char) :
    mark c (c :: rest) = some ((), rest) := by
  rw [mark, trimStart_of_not notBlank]
  exact if_pos rfl

end

/-! ## Dates -/

section

variable {rest : List Char}

theorem year_digit {c : Char} (isDigit : c.isDigit = true) (more : List Char) :
    year (c :: more) = (digits 4 (c :: more)).map fun (n, rest) => ((n : Int), rest) := by
  rw [year, trimStart_of_not (isBlank_of_isDigit isDigit)]
  split
  · rename_i same
    cases same
    cases isDigit
  · rename_i same
    cases same
    cases isDigit
  · rfl

theorem year_yearText (y : Int) (ends : EndsNumber rest) :
    year (yearText y ++ rest) = some (y, rest) := by
  have signed : digits (padded 4 y.natAbs ++ rest).length (padded 4 y.natAbs ++ rest) =
      some (y.natAbs, rest) := digits_padded (by rw [List.length_append]; omega) ends
  unfold yearText
  split
  · rename_i plain
    obtain ⟨c, more, text, isDigit⟩ := padded_cons 4 y.toNat
    have small : y.toNat < 10000 := by omega
    have four : (padded 4 y.toNat).length = 4 := length_padded_of_lt small (by decide)
    have isRead := digits_padded (Nat.le_of_eq four) ends
    rw [text, List.cons_append] at isRead ⊢
    rw [year_digit isDigit, isRead]
    exact congrArg (fun n => some (n, rest)) (Int.toNat_of_nonneg plain.1)
  · rw [List.cons_append]
    split
    · rename_i negative
      rw [year, trimStart_of_not (by decide)]
      simp only [signed, Option.map_some]
      exact congrArg (fun n => some (n, rest)) (by omega)
    · rename_i positive
      rw [year, trimStart_of_not (by decide)]
      simp only [signed, Option.map_some]
      exact congrArg (fun n => some (n, rest)) (by omega)

theorem daysInMonth_le (year : Int) (month : Nat) : Date.daysInMonth year month ≤ 31 := by
  unfold Date.daysInMonth
  split
  · split <;> decide
  all_goals decide

theorem dateFields_text (d : Date) (ends : EndsNumber rest) :
    dateFields (d.text ++ rest) = some ((d.year, d.month, d.day), rest) := by
  obtain ⟨-, -, -, month, -, day⟩ := d.valid
  have dayBound := daysInMonth_le d.year d.month
  have hyphen : ∀ more, EndsNumber ('-' :: more) := endsNumber_cons rfl
  simp only [Date.text, List.append_assoc, List.cons_append]
  unfold dateFields
  rw [year_yearText d.year (hyphen _)]
  simp only [Option.bind_eq_bind, Option.bind_some]
  rw [mark_cons (by decide)]
  simp only [Option.bind_some]
  rw [number_two (by omega) (hyphen _)]
  simp only [Option.bind_some]
  rw [mark_cons (by decide)]
  simp only [Option.bind_some]
  rw [number_two (by omega) ends]
  rfl

end

/-! ## Times of day -/

section

variable {rest : List Char}

theorem isDigit_dropWhile (ends : EndsNumber rest) : rest.dropWhile Char.isDigit = rest := by
  cases rest with
  | nil => rfl
  | cons c more => exact List.dropWhile_cons_of_neg (by simp [ends c rfl])

/-- The digits of a fraction, as many as show it exactly. -/
theorem nanoseconds_padded {width n : Nat} (some' : 0 < width) (fits : width ≤ 9)
    (small : n < Nat.pow 10 width) (ends : EndsNumber rest) :
    nanoseconds (padded width n ++ rest) = some (n * Nat.pow 10 (9 - width), rest) := by
  have length := length_padded_of_lt small some'
  have isRead := digits_padded (Nat.le_trans (Nat.le_of_eq length) fits) ends
  have count : (padded width n ++ rest).length - rest.length = width := by
    rw [List.length_append, length]
    omega
  unfold nanoseconds
  rw [isRead]
  simp only [Option.bind_eq_bind, Option.bind_some, count, isDigit_dropWhile ends]

theorem fraction_text {nanos : Nat} (small : nanos < 1000000000) (ends : EndsNumber rest)
    (noPoint : rest.head? ≠ some '.') :
    fraction (fractionText nanos ++ rest) = some (nanos, rest) := by
  unfold fractionText
  split
  · rename_i zero
    rw [zero, List.nil_append]
    unfold fraction
    split
    · exact absurd rfl noPoint
    · rfl
  · split
    · rename_i millis
      have few : nanos / 1000000 < 1000 := by omega
      refine (nanoseconds_padded (by decide) (by decide) few ends).trans ?_
      have whole : nanos / 1000000 * Nat.pow 10 (9 - 3) = nanos := by
        change nanos / 1000000 * 1000000 = nanos
        omega
      rw [whole]
    · split
      · rename_i micros
        have few : nanos / 1000 < 1000000 := by omega
        refine (nanoseconds_padded (by decide) (by decide) few ends).trans ?_
        have whole : nanos / 1000 * Nat.pow 10 (9 - 6) = nanos := by
          change nanos / 1000 * 1000 = nanos
          omega
        rw [whole]
      · refine (nanoseconds_padded (by decide) (by decide) small ends).trans ?_
        have whole : nanos * Nat.pow 10 (9 - 9) = nanos := Nat.mul_one _
        rw [whole]

theorem clockFields_text {hour minute : Nat} (isHour : hour < 24) (isMinute : minute < 60)
    (ends : EndsNumber rest) :
    clockFields (padded 2 hour ++ ':' :: (padded 2 minute ++ rest)) =
      some ((hour, minute), rest) := by
  unfold clockFields
  rw [number_two (by omega) (endsNumber_cons rfl _)]
  simp only [Option.bind_eq_bind, Option.bind_some]
  rw [mark_cons (by decide)]
  simp only [Option.bind_some]
  rw [number_two (by omega) ends]
  rfl

theorem secondFields_text {second nanos : Nat} (isSecond : second < 100)
    (small : nanos < 1000000000) (ends : EndsNumber rest) (noPoint : rest.head? ≠ some '.') :
    secondFields (':' :: (padded 2 second ++ (fractionText nanos ++ rest))) =
      some ((second, nanos), rest) := by
  have endsSecond : EndsNumber (fractionText nanos ++ rest) := by
    unfold fractionText
    split
    · exact ends
    · repeat' split
      all_goals exact endsNumber_cons rfl _
  unfold secondFields
  rw [mark_cons (by decide)]
  simp only [Option.bind_eq_bind, Option.bind_some]
  rw [number_two isSecond endsSecond]
  simp only [Option.bind_some]
  rw [fraction_text small ends noPoint]
  rfl

/-- The text of a time, and what comes after it. -/
theorem timeText_append (t : TimeOfDay) (rest : List Char) :
    t.text ++ rest = padded 2 t.hour ++ ':' :: (padded 2 t.minute ++
      ':' :: (padded 2 t.clockSecond ++ (fractionText t.fraction ++ rest))) := by
  simp only [TimeOfDay.text, List.append_assoc, List.cons_append]

theorem clockFields_timeText (t : TimeOfDay) (rest : List Char) :
    clockFields (t.text ++ rest) = some ((t.hour, t.minute),
      ':' :: (padded 2 t.clockSecond ++ (fractionText t.fraction ++ rest))) := by
  rw [timeText_append]
  exact clockFields_text t.hour_lt t.minute_lt (endsNumber_cons rfl _)

theorem secondFields_timeText (t : TimeOfDay) (ends : EndsNumber rest)
    (noPoint : rest.head? ≠ some '.') :
    secondFields (':' :: (padded 2 t.clockSecond ++ (fractionText t.fraction ++ rest))) =
      some ((t.clockSecond, t.fraction), rest) := by
  have isSecond : t.clockSecond < 100 := by
    have bounds := And.intro t.second_lt t.nano_lt
    unfold TimeOfDay.clockSecond
    omega
  exact secondFields_text isSecond (Nat.mod_lt _ (by decide)) ends noPoint

end

/-! ## Offsets -/

/-- Two digits, one by one. -/
theorem two_digits {n : Nat} (small : n < 100) : ∃ a b, padded 2 n = [a, b] ∧
    ∀ rest, offset.two (a :: b :: rest) = some (n, rest) := by
  have length : (padded 2 n).length = 2 := length_padded_of_lt small (by decide)
  obtain ⟨a, b, text⟩ : ∃ a b, padded 2 n = [a, b] := by
    match padded 2 n, length with
    | [a, b], _ => exact ⟨a, b, rfl⟩
  have areDigits := isDigit_padded 2 n
  have value := ofDigitChars_padded 2 n
  rw [text] at areDigits value
  have isA := areDigits a List.mem_cons_self
  have isB := areDigits b (List.mem_cons_of_mem _ List.mem_cons_self)
  refine ⟨a, b, text, fun rest => ?_⟩
  rw [offset.two, isA, isB, value]
  rfl

/-- An offset with a sign, digit by digit. -/
theorem offset_sign {sign : Char} (isSign : sign = '+' ∨ sign = '-') (a b : Char)
    (rest : List Char) :
    offset (sign :: a :: b :: rest) = (do
      let (hours, rest) ← offset.two (a :: b :: rest)
      let (minutes, rest) ← offset.two (rest.dropWhile fun c => c = ':' || isBlank c)
      if minutes < 60 then
        let total : Int := hours * 60 + minutes
        some (if sign = '+' then total else -total, rest)
      else none) := by
  rcases isSign with rfl | rfl
  · rw [offset, trimStart_of_not (by decide)]
    rfl
  · rw [offset, trimStart_of_not (by decide)]
    rfl

theorem offset_text {minutes : Int} (bound : -1440 < minutes ∧ minutes < 1440) :
    offset (offsetText minutes) = some (minutes, []) := by
  obtain ⟨a, b, hours, readHours⟩ := two_digits (n := minutes.natAbs / 60) (by omega)
  obtain ⟨c, d, rest, readRest⟩ := two_digits (n := minutes.natAbs % 60) (by omega)
  have isDigit : c.isDigit = true := by
    refine isDigit_padded 2 (minutes.natAbs % 60) c ?_
    rw [rest]
    exact List.mem_cons_self
  have notMark : (decide (c = ':') || isBlank c) = false := by
    have notColon : c ≠ ':' := by
      rintro rfl
      cases isDigit
    simp [notColon, isBlank_of_isDigit isDigit]
  have afterColon : (':' :: [c, d]).dropWhile (fun c => c = ':' || isBlank c) = [c, d] := by
    rw [List.dropWhile_cons_of_pos (by decide), List.dropWhile_cons_of_neg (by simp [notMark])]
  have isMinute : minutes.natAbs % 60 < 60 := Nat.mod_lt _ (by decide)
  -- the offset without its sign; only zero has two of them, and it is written with a plus
  have signed : ∀ sign, sign = '+' ∨ sign = '-' →
      offset (sign :: ([a, b] ++ ':' :: [c, d])) =
        some (if sign = '+' then ((minutes.natAbs : Nat) : Int) else -(minutes.natAbs : Int), []) := by
    intro sign isSign
    have total : ((minutes.natAbs / 60 : Nat) : Int) * 60 + ((minutes.natAbs % 60 : Nat) : Int) =
        (minutes.natAbs : Int) := by omega
    rw [List.cons_append, List.singleton_append, offset_sign isSign, readHours]
    simp only [Option.bind_eq_bind, Option.bind_some, afterColon]
    rw [readRest]
    simp only [Option.bind_some, isMinute, if_true, total]
  unfold offsetText
  rw [hours, rest, signed]
  · split
    · rename_i negative
      have value : -(minutes.natAbs : Int) = minutes := by omega
      rw [if_neg (by decide), value]
    · rename_i positive
      have value : (minutes.natAbs : Int) = minutes := by omega
      rw [if_pos rfl, value]
  · split
    · exact .inr rfl
    · exact .inl rfl

theorem whole_of_read {α : Type} {read : Reader α} {text : List Char} {value : α}
    (isRead : read text = some (value, [])) : whole read text = some value := by
  rw [whole, isRead]
  rfl

end Calendar

/-! ## Moments -/

open Calendar

theorem Date.read?_text (d : Date) : Date.read? d.text = some d := by
  have fields := dateFields_text d endsNumber_nil
  rw [List.append_nil] at fields
  rw [Date.read?, whole_of_read fields]
  exact d.of?_self

theorem TimeOfDay.read?_text (t : TimeOfDay) : TimeOfDay.read? t.text = some t := by
  rw [TimeOfDay.read?, ← List.append_nil t.text, clockFields_timeText t]
  simp only [Option.bind_eq_bind, Option.bind_some]
  rw [secondFields_timeText t endsNumber_nil nofun]
  exact t.of?_clock

/-- The date and the clock of a moment, with what is left to read of it. -/
theorem DateTime.text_append (separator : Char) (d : DateTime) (rest : List Char) :
    d.text separator ++ rest = d.date.text ++ separator :: (d.time.text ++ rest) := by
  simp only [DateTime.text, List.append_assoc, List.cons_append]

theorem DateTime.read?_text (d : DateTime) : DateTime.read? (d.text 'T') = some d := by
  rw [DateTime.read?, ← List.append_nil (d.text 'T'), DateTime.text_append,
    dateFields_text d.date (endsNumber_cons rfl _)]
  simp only [Option.bind_eq_bind, Option.bind_some]
  rw [mark_cons (by decide)]
  simp only [Option.bind_some]
  rw [clockFields_timeText d.time]
  simp only [Option.bind_some]
  rw [whole_of_read (secondFields_timeText d.time endsNumber_nil nofun)]
  simp only [Option.bind_some, Date.of?_self, TimeOfDay.of?_clock]

/-- A zoned time is read back if its instant is a day of the calendar at UTC. -/
theorem ZonedDateTime.read?_shortText {z : ZonedDateTime} (inCalendar : of? z.shown z.offset = some z) :
    ZonedDateTime.read? z.shortText = some z := by
  -- whatever begins the offset, it goes on neither with the seconds nor with their fraction
  have zone : ∃ c more, (if z.offset = 0 then ['Z'] else offsetText z.offset) = c :: more ∧
      c.isDigit = false ∧ c ≠ '.' ∧ whole Calendar.offset (c :: more) = some z.offset := by
    split
    · rename_i utc
      exact ⟨'Z', [], rfl, rfl, by decide, by rw [utc]; rfl⟩
    · refine ⟨_, _, rfl, ?_, ?_, whole_of_read (offset_text z.offset_bound)⟩
      · split <;> rfl
      · split <;> decide
  obtain ⟨c, more, written, notDigit, notPoint, isRead⟩ := zone
  rw [shortText, written, ZonedDateTime.read?, DateTime.text_append,
    dateFields_text z.shown.date (endsNumber_cons rfl _)]
  simp only [Option.bind_eq_bind, Option.bind_some]
  rw [clockFields_timeText z.shown.time]
  simp only [Option.bind_some]
  rw [secondFields_timeText z.shown.time (endsNumber_cons notDigit _)
    (fun point => notPoint (Option.some.inj point))]
  simp only [Option.bind_some, isRead, Date.of?_self, TimeOfDay.of?_clock, inCalendar]
  rfl

/-! ## Identifiers -/

namespace Uuid

variable {sizes : List Nat} {text : List Char}

theorem length_hyphenate (enough : text.length = sizes.foldr (· + ·) 0) :
    (hyphenate sizes text).length = text.length + (sizes.length - 1) := by
  induction sizes, text using hyphenate.induct with
  | case1 text => rfl
  | case2 n text => rfl
  | case3 n rest text several ih =>
    rw [List.foldr_cons] at enough
    have more := ih (by rw [List.length_drop]; omega)
    have nonempty := List.length_pos_iff.2 several
    rw [hyphenate, List.length_append, List.length_cons, more, List.length_take, List.length_drop,
      List.length_cons]
    · omega
    · exact several

/-- The hyphens stand between the groups. -/
theorem unhyphenate?_hyphenate (enough : text.length = sizes.foldr (· + ·) 0) :
    unhyphenate? sizes (hyphenate sizes text) = some text := by
  induction sizes, text using hyphenate.induct with
  | case1 text =>
    rw [List.length_eq_zero_iff.1 enough]
    rfl
  | case2 n text =>
    rw [hyphenate, unhyphenate?]
    exact if_pos (by simpa using enough)
  | case3 n rest text several ih =>
    rw [List.foldr_cons] at enough
    have more := ih (by rw [List.length_drop]; omega)
    have front : (text.take n).length = n := by
      rw [List.length_take]
      omega
    rw [hyphenate, unhyphenate?]
    · rw [List.drop_left' front, List.take_left' front]
      simp only [more, Option.map_some, List.take_append_drop]
    all_goals exact several

theorem hexValue?_digitChar : ∀ digit < 16, hexValue? (Nat.digitChar digit) = some digit := by
  decide

/-- The digits of a number, in base sixteen, have it as their value. -/
theorem values_toDigits (n : Nat) : ∃ values, (Nat.toDigits 16 n).mapM hexValue? = some values ∧
    values.foldl (fun n digit => n * 16 + digit) 0 = n := by
  induction n using Nat.strongRecOn with
  | ind n ih =>
    by_cases small : n < 16
    · refine ⟨[n], ?_, Nat.zero_add n⟩
      rw [Nat.toDigits_of_lt_base small]
      simp [hexValue?_digitChar n small]
    · obtain ⟨values, areValues, value⟩ := ih (n / 16) (by omega)
      refine ⟨values ++ [n % 16], ?_, ?_⟩
      · rw [Nat.toDigits_of_base_le (by decide) (by omega), List.mapM_append, areValues]
        simp [hexValue?_digitChar (n % 16) (Nat.mod_lt _ (by decide))]
      · rw [List.foldl_append, value]
        simp only [List.foldl_cons, List.foldl_nil]
        omega

theorem ofDigits?_zeros (zeros : Nat) (u : Uuid) :
    ofDigits? (List.replicate zeros '0' ++ Nat.toDigits 16 u.value.toNat) = some u := by
  obtain ⟨values, areValues, value⟩ := values_toDigits u.value.toNat
  have leading : (List.replicate zeros '0').mapM hexValue? = some (List.replicate zeros 0) := by
    induction zeros with
    | zero => rfl
    | succ zeros ih =>
      rw [List.replicate_succ, List.mapM_cons, ih]
      rfl
  have nothing : ∀ zeros, (List.replicate zeros 0).foldl (fun n digit => n * 16 + digit) 0 = 0 := by
    intro zeros
    induction zeros with
    | zero => rfl
    | succ zeros ih => exact ih
  rw [ofDigits?, List.mapM_append, leading, areValues]
  simp only [Option.bind_eq_bind, Option.bind_some, Option.pure_def, List.foldl_append, nothing,
    value, BitVec.ofNat_toNat, BitVec.setWidth_eq]

/-- An identifier is read back. -/
theorem read?_text (u : Uuid) : read? u.text = some u := by
  have digits := (Nat.length_toDigits_le_iff (b := 16) (k := 32) (by decide) (by decide)).2
    u.value.isLt
  have length : (List.replicate (32 - (Nat.toDigits 16 u.value.toNat).length) '0' ++
      Nat.toDigits 16 u.value.toNat).length = groups.foldr (· + ·) 0 := by
    rw [List.length_append, List.length_replicate]
    change _ = 32
    omega
  have hyphenated : u.text.length = 36 := by
    rw [Uuid.text, length_hyphenate length, length]
    rfl
  rw [read?, hyphenated, if_neg (by decide), if_pos rfl]
  change (unhyphenate? groups u.text).bind ofDigits? = some u
  rw [Uuid.text, unhyphenate?_hyphenate length]
  exact ofDigits?_zeros _ u

end Uuid

end PlanCompiler
