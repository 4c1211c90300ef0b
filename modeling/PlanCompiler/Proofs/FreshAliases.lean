/-
# Proofs.FreshAliases -- the search for an alias that a text does not use

Different aliases begin at different backticks, so a text takes no more of them than it has
backticks (`card_taken_le`), and among the first few one is free (`exists_isLeast_free`).  A
search that counts in 64 bits finds the least of them, and never comes to the end of its
numbers in a text that is shorter than that (`AliasSearch.after_of_lt`).

The search looks at the text in small letters.  No alias has a capital sigma, so a quoted
name that is the alias in small letters would be seen there (`lower_ne_of_free`), and the
alias of a statement around another is none of the quoted names inside
(`uniqueTableAlias_fresh`).
-/
import Mathlib.Data.Finset.Card
import Mathlib.Data.Nat.Find
import Mathlib.Order.Bounds.Basic
import PlanCompiler.Proofs.LoweredText
import PlanCompiler.Proofs.PassingPieces

namespace PlanCompiler.Sql

set_option autoImplicit false

/-- A name between backticks. -/
def quoted (name : List Char) : List Char :=
  '\x60' :: (name ++ ['\x60'])

theorem aliasTaken_iff {text : List Char} {index : Nat} :
    aliasTaken text index = true ↔ quoted (tableAlias index).toList <:+: text :=
  Text.occursIn_iff

theorem backtick_notMem_tableAlias (index : Nat) : '\x60' ∉ (tableAlias index).toList :=
  fun mem => (tableAlias_letters index _ mem).2.1 rfl

theorem tableAlias_injective : Function.Injective tableAlias :=
  fun _ _ same => toString_injective ((String.append_right_inj "t").1 same)

/-! ## Taken aliases -/

/-- A quoted name reaches up to the next backtick. -/
theorem takeWhile_of_quoted_isPrefix {name text : List Char} (plain : '\x60' ∉ name)
    (starts : quoted name <+: text) : text.tail.takeWhile (· ≠ '\x60') = name := by
  obtain ⟨rest, rfl⟩ := starts
  have inside : ∀ c ∈ name, decide (c ≠ '\x60') = true := by
    intro c mem
    exact decide_eq_true fun same => plain (same ▸ mem)
  rw [quoted, List.cons_append, List.tail_cons, List.append_assoc,
    List.takeWhile_append_of_pos inside]
  simp

/-- At most one alias begins at a place, and that place is a backtick. -/
theorem card_begun_le (c : Char) (rest : List Char) (n : Nat) :
    ((Finset.range n).filter fun index =>
      (quoted (tableAlias index).toList).isPrefixOf (c :: rest) = true).card ≤
        [c].count '\x60' := by
  by_cases isBacktick : c = '\x60'
  · subst isBacktick
    refine Finset.card_le_one.2 fun i begunI j begunJ => ?_
    simp only [Finset.mem_filter, List.isPrefixOf_iff_prefix] at begunI begunJ
    have nameI := takeWhile_of_quoted_isPrefix (backtick_notMem_tableAlias i) begunI.2
    have nameJ := takeWhile_of_quoted_isPrefix (backtick_notMem_tableAlias j) begunJ.2
    exact tableAlias_injective (String.toList_inj.1 (nameI.symm.trans nameJ))
  · have none : (Finset.range n).filter (fun index =>
        (quoted (tableAlias index).toList).isPrefixOf (c :: rest) = true) = ∅ := by
      refine Finset.filter_false_of_mem fun index _ begun => ?_
      rw [List.isPrefixOf_iff_prefix, quoted, List.cons_prefix_cons] at begun
      exact isBacktick begun.1.symm
    rw [none]
    exact Nat.zero_le _

/-- A text takes no more aliases than it has backticks. -/
theorem card_taken_le (text : List Char) (n : Nat) :
    ((Finset.range n).filter fun index => aliasTaken text index = true).card ≤
      text.count '\x60' := by
  induction text with
  | nil =>
    have none : (Finset.range n).filter (fun index => aliasTaken [] index = true) = ∅ :=
      Finset.filter_false_of_mem fun index _ taken => Bool.false_ne_true taken
    rw [none]
    exact Nat.zero_le _
  | cons c rest ih =>
    -- an alias occurs at the front of the text or in the rest of it
    have apart : (Finset.range n).filter (fun index => aliasTaken (c :: rest) index = true) =
        (Finset.range n).filter (fun index =>
          (quoted (tableAlias index).toList).isPrefixOf (c :: rest) = true) ∪
        (Finset.range n).filter fun index => aliasTaken rest index = true := by
      rw [← Finset.filter_or]
      refine Finset.filter_congr fun index _ => ?_
      rw [← Bool.or_eq_true]
      rfl
    calc
      _ ≤ _ := apart ▸ Finset.card_union_le _ _
      _ ≤ [c].count '\x60' + rest.count '\x60' := Nat.add_le_add (card_begun_le c rest n) ih
      _ = (c :: rest).count '\x60' := by rw [← List.count_append, List.singleton_append]

/-- One of the aliases that no text with so few backticks can take all of is free. -/
theorem exists_isLeast_free (text : List Char) :
    ∃ least ≤ text.count '\x60', IsLeast {index | aliasTaken text index = false} least := by
  have free : ∃ index ≤ text.count '\x60', aliasTaken text index = false := by
    -- otherwise one more alias than there are backticks would be taken
    by_contra! allTaken
    have few := card_taken_le text (text.count '\x60' + 1)
    rw [Finset.filter_true_of_mem, Finset.card_range] at few
    · exact Nat.not_succ_le_self _ few
    · intro index inRange
      have within := Nat.lt_succ_iff.1 (Finset.mem_range.1 inRange)
      exact (Bool.not_eq_false _).mp (allTaken index within)
  obtain ⟨index, few, isFree⟩ := free
  have exists' : ∃ index, aliasTaken text index = false := ⟨index, isFree⟩
  exact ⟨Nat.find exists', (Nat.find_min' exists' isFree).trans few, Nat.find_spec exists',
    fun _ isFree => Nat.find_min' exists' isFree⟩

/-! ## The search -/

section

variable {text : List Char} {least : Nat}
  (isLeast : IsLeast {index | aliasTaken text index = false} least)

include isLeast

theorem taken_of_lt {index : Nat} (before : index < least) : aliasTaken text index = true := by
  rw [← Bool.not_eq_false]
  exact fun isFree => Nat.not_le_of_lt before (isLeast.2 isFree)

/-- With enough fuel the least free alias is found. -/
theorem firstFreeAlias_eq :
    ∀ (fuel index : Nat), index ≤ least → least ≤ index + fuel →
      firstFreeAlias text fuel index = least
  | 0, _, before, enough => Nat.le_antisymm before enough
  | fuel + 1, index, before, enough => by
    rw [firstFreeAlias]
    rcases Nat.lt_or_eq_of_le before with before | rfl
    · rw [if_pos (taken_of_lt isLeast before)]
      exact firstFreeAlias_eq fuel (index + 1) before (by omega)
    · rw [if_neg (by simpa using isLeast.1)]

end

/-- The alias of a text is the least free one. -/
theorem uniqueTableAlias_eq {sql : String} {least : Nat}
    (isLeast : IsLeast {index | aliasTaken (Text.lower sql.toList) index = false} least) :
    uniqueTableAlias sql = tableAlias least := by
  obtain ⟨least', few, isLeast'⟩ := exists_isLeast_free (Text.lower sql.toList)
  obtain rfl := isLeast.unique isLeast'
  have enough : least ≤ 0 + (Text.lower sql.toList).length := by
    rw [Nat.zero_add]
    exact few.trans List.count_le_length
  exact congrArg tableAlias (firstFreeAlias_eq isLeast _ 0 (Nat.zero_le _) enough)

/-- A search for a free alias that counts in 64 bits. -/
inductive AliasSearch
  | looking (index : UInt64)
  | found (index : UInt64)
  /-- The last number was taken as well. -/
  | overflowed
deriving DecidableEq

namespace AliasSearch

/-- Look at one alias. -/
def next (text : List Char) : AliasSearch → AliasSearch
  | .looking index =>
    if aliasTaken text index.toNat then
      if index.toNat + 1 < UInt64.size then .looking (index + 1) else .overflowed
    else .found index
  | ended => ended

/-- How far the search has come after some steps. -/
def after (text : List Char) (steps : Nat) : AliasSearch :=
  (next text)^[steps] (.looking 0)

theorem after_succ (text : List Char) (steps : Nat) :
    after text (steps + 1) = next text (after text steps) :=
  Function.iterate_succ_apply' _ _ _

/-- Past a taken alias the search goes on to the next one. -/
theorem next_looking_of_taken {text : List Char} {n : Nat} (taken : aliasTaken text n = true)
    (fits : n + 1 < UInt64.size) :
    next text (.looking (.ofNat n)) = .looking (.ofNat (n + 1)) := by
  rw [next, UInt64.toNat_ofNat_of_lt' (Nat.lt_of_succ_lt fits), if_pos taken, if_pos fits,
    UInt64.ofNat_add]
  rfl

theorem next_looking_of_free {text : List Char} {n : Nat} (free : aliasTaken text n = false)
    (fits : n < UInt64.size) : next text (.looking (.ofNat n)) = .found (.ofNat n) := by
  rw [next, UInt64.toNat_ofNat_of_lt' fits, free]
  rfl

section

variable {text : List Char} {least : Nat}
  (isLeast : IsLeast {index | aliasTaken text index = false} least)
  (fits : least < UInt64.size)

include isLeast fits

/-- Before it is done the search has made one step for every alias. -/
theorem after_of_le (steps : Nat) (early : steps ≤ least) :
    after text steps = .looking (.ofNat steps) := by
  induction steps with
  | zero => rfl
  | succ steps ih =>
    rw [after_succ, ih (Nat.le_of_succ_le early),
      next_looking_of_taken (taken_of_lt isLeast early) (Nat.lt_of_le_of_lt early fits)]

/-- Then it has found the least free alias, and keeps it. -/
theorem after_of_lt (steps : Nat) (late : least < steps) :
    after text steps = .found (.ofNat least) := by
  induction steps, late using Nat.le_induction with
  | base =>
    rw [after_succ, after_of_le isLeast fits least le_rfl, next_looking_of_free isLeast.1 fits]
  | succ steps _ ih =>
    rw [after_succ, ih]
    rfl

theorem after_ne_overflowed (steps : Nat) : after text steps ≠ .overflowed := by
  rcases Nat.lt_or_ge least steps with late | early
  · rw [after_of_lt isLeast fits steps late]
    nofun
  · rw [after_of_le isLeast fits steps early]
    nofun

end

end AliasSearch

/-! ## Names in any case of letters -/

/-- Aliases are in small letters already. -/
theorem lowerChar_tableAlias (index : Nat) :
    ∀ c ∈ (tableAlias index).toList, c.toNat < 0x80 ∧ Text.lowerChar c = [c] := by
  intro c mem
  rcases eq_or_isDigit_of_mem_tableAlias mem with rfl | digit
  · decide
  · simp only [Char.isDigit, Bool.and_eq_true, decide_eq_true_eq, ge_iff_le,
      UInt32.le_iff_toNat_le] at digit
    change 48 ≤ c.toNat ∧ c.toNat ≤ 57 at digit
    have ascii : c.toNat < 0x80 := by omega
    refine ⟨ascii, Text.lowerChar_of_not_isUpper ascii ?_⟩
    refine decide_eq_false ?_
    rw [ge_iff_le, UInt32.le_iff_toNat_le, UInt32.le_iff_toNat_le]
    change ¬ (65 ≤ c.toNat ∧ c.toNat ≤ 90)
    omega

theorem notMem_tableAlias {c : Char} (large : 0x80 ≤ c.toNat) (index : Nat) :
    c ∉ (tableAlias index).toList :=
  fun mem => Nat.not_lt_of_le large (lowerChar_tableAlias index c mem).1

theorem lower_tableAlias (index : Nat) :
    Text.lower (tableAlias index).toList = (tableAlias index).toList := by
  have small : ∀ c ∈ (tableAlias index).toList, Text.lowerChar c = [c] :=
    fun c mem => (lowerChar_tableAlias index c mem).2
  rw [Text.lower_of_notMem (notMem_tableAlias (by decide) index), List.flatMap_congr small]
  exact List.flatMap_singleton' _

theorem capitalSigma_notMem_quoted {name : List Char} (plain : Text.capitalSigma ∉ name) :
    Text.capitalSigma ∉ quoted name := by
  simpa [quoted, plain] using (by decide : Text.capitalSigma ≠ '\x60')

/-- Quotes stay where they are. -/
theorem lower_quoted {name : List Char} (plain : Text.capitalSigma ∉ name) :
    Text.lower (quoted name) = quoted (Text.lower name) := by
  have backtick : Text.lowerChar '\x60' = ['\x60'] := by decide
  rw [Text.lower_of_notMem (capitalSigma_notMem_quoted plain), Text.lower_of_notMem plain]
  simp [quoted, backtick]

/-- A quoted name that is an alias but for the case of its letters makes the alias a taken one. -/
theorem lower_ne_of_free {text : List Char} {index : Nat}
    (free : aliasTaken (Text.lower text) index = false) {name : List Char}
    (inside : quoted name <:+: text) : Text.lower name ≠ (tableAlias index).toList := by
  intro same
  have plain : Text.capitalSigma ∉ name :=
    Text.capitalSigma_notMem_of_lower (same ▸ notMem_tableAlias (by decide) index)
      (same ▸ notMem_tableAlias (by decide) index)
  have occurs := Text.lower_isInfix (capitalSigma_notMem_quoted plain) inside
  rw [lower_quoted plain, same, ← aliasTaken_iff, free] at occurs
  exact Bool.false_ne_true occurs

theorem toList_tableAlias (index : Nat) :
    (tableAlias index).toList = 't' :: (toString index).toList := by
  rw [tableAlias, String.toList_append]
  rfl

/-- The letter of an alias may be a capital. -/
theorem lower_lettered {letter : Char} (isLetter : letter ∈ ['t', 'T']) (index : Nat) :
    Text.lower (letter :: (toString index).toList) = (tableAlias index).toList := by
  have digits : ∀ c ∈ (toString index).toList, c.toNat < 0x80 ∧ Text.lowerChar c = [c] := by
    intro c mem
    exact lowerChar_tableAlias index c (toList_tableAlias index ▸ List.mem_cons_of_mem _ mem)
  have small : letter ≠ Text.capitalSigma ∧ Text.lowerChar letter = ['t'] := by
    rcases List.mem_pair.1 isLetter with rfl | rfl <;> decide
  have plain : Text.capitalSigma ∉ letter :: (toString index).toList := by
    intro mem
    rcases List.mem_cons.1 mem with same | mem
    · exact small.1 same.symm
    · exact absurd (digits _ mem).1 (by decide)
  rw [Text.lower_of_notMem plain, List.flatMap_cons, small.2,
    List.flatMap_congr fun c mem => (digits c mem).2, List.flatMap_singleton', toList_tableAlias]
  rfl

/-! ## A statement around a statement -/

theorem wrap_eq (inner : String) (list : OuterList) (after : List String) :
    ∃ columns, Assembly.wrap inner list after =
      "SELECT " ++ columns ++ " FROM (" ++ inner ++ ") AS \x60" ++ uniqueTableAlias inner
        ++ "\x60" := by
  refine ⟨text (OuterSelect.listPieces ⟨list, after, inner, uniqueTableAlias inner⟩
    ++ trailing after), ?_⟩
  have isQuoted : quoteIdentifier (uniqueTableAlias inner) =
      "\x60" ++ uniqueTableAlias inner ++ "\x60" := quoteIdentifier_tableAlias _
  rw [Assembly.wrap, OuterSelect.text_pieces, ← String.toList_inj]
  simp [text_toList, OuterSelect.opening, OuterSelect.closing, isQuoted]

/-- **The search ends with a fresh alias.**  The alias of a text is the first of `t0`, `t1`, ...
that does not occur between backticks in the text in small letters.  In a text of fewer than
`2 ^ 64` characters a search that counts in 64 bits comes to it, and never to the end of its
numbers.  Neither the alias nor the same with a capital occurs between backticks in the text,
and where a statement is put around the text, no name that is quoted inside is its alias, in
whatever case of letters. -/
theorem uniqueTableAlias_fresh (sql : String) :
    ∃ index : Nat,
      uniqueTableAlias sql = tableAlias index ∧
      IsLeast {i | ¬ quoted (tableAlias i).toList <:+: Text.lower sql.toList} index ∧
      (sql.length < UInt64.size →
        (∃ steps word, AliasSearch.after (Text.lower sql.toList) steps = .found word ∧
          word.toNat = index) ∧
        ∀ steps, AliasSearch.after (Text.lower sql.toList) steps ≠ .overflowed) ∧
      (∀ letter ∈ ['t', 'T'], ¬ quoted (letter :: (toString index).toList) <:+: sql.toList) ∧
      ∀ list after,
        (∃ columns, Assembly.wrap sql list after =
          "SELECT " ++ columns ++ " FROM (" ++ sql ++ ") AS \x60" ++ tableAlias index ++ "\x60") ∧
        ∀ name, quoted name <:+: sql.toList →
          Text.lower name ≠ Text.lower (tableAlias index).toList := by
  obtain ⟨index, few, isLeast⟩ := exists_isLeast_free (Text.lower sql.toList)
  have found := uniqueTableAlias_eq isLeast
  have free : {i | ¬ quoted (tableAlias i).toList <:+: Text.lower sql.toList} =
      {i | aliasTaken (Text.lower sql.toList) i = false} := by
    simp only [← aliasTaken_iff, Bool.not_eq_true]
  refine ⟨index, found, free ▸ isLeast, fun short => ?_, fun letter isLetter inside => ?_,
    fun list after => ⟨?_, fun name inside => ?_⟩⟩
  · have fits : index < UInt64.size := by
      rw [Text.count_lower_backtick] at few
      exact (few.trans List.count_le_length).trans_lt short
    exact ⟨⟨index + 1, .ofNat index, AliasSearch.after_of_lt isLeast fits _ (Nat.lt_succ_self _),
      UInt64.toNat_ofNat_of_lt' fits⟩, AliasSearch.after_ne_overflowed isLeast fits⟩
  · exact lower_ne_of_free isLeast.1 inside (lower_lettered isLetter index)
  · rw [← found]
    exact wrap_eq sql list after
  · rw [lower_tableAlias]
    exact lower_ne_of_free isLeast.1 inside

/-- A base query that has used two aliases, one of them with a capital. -/
def joinedTables : String :=
  "SELECT * FROM fake AS \x60T0\x60 JOIN other AS \x60t1\x60"

/-- Both are passed over, and neither is the alias of a statement around it. -/
theorem uniqueTableAlias_joinedTables :
    joinedTables.length < UInt64.size ∧ uniqueTableAlias joinedTables = "t2" ∧
      (∃ steps, AliasSearch.after (Text.lower joinedTables.toList) steps = .found 2) ∧
      (∀ steps, AliasSearch.after (Text.lower joinedTables.toList) steps ≠ .overflowed) ∧
      ¬ quoted "T2".toList <:+: joinedTables.toList ∧
      quoted "T0".toList <:+: joinedTables.toList ∧
      Text.lower "T0".toList ≠ Text.lower "t2".toList := by
  have short : joinedTables.length < UInt64.size := by decide +kernel
  have isSecond : uniqueTableAlias joinedTables = "t2" := by decide +kernel
  have inside : quoted "T0".toList <:+: joinedTables.toList := by
    rw [← Text.occursIn_iff]
    decide +kernel
  obtain ⟨index, found, -, run, letters, around⟩ := uniqueTableAlias_fresh joinedTables
  obtain rfl : index = 2 := tableAlias_injective (found.symm.trans isSecond)
  obtain ⟨⟨steps, word, isFound, isWord⟩, never⟩ := run short
  obtain rfl : word = 2 := UInt64.toNat_inj.1 isWord
  exact ⟨short, isSecond, ⟨steps, isFound⟩, never, letters 'T' (by decide), inside,
    (around .countStar []).2 _ inside⟩

end PlanCompiler.Sql
