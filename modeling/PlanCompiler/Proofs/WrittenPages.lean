/-
# Proofs.WrittenPages -- skips and takes against the text of their clause

The skips and takes of a plan can be made on the rows one after the other (`Page.run`), or
be gathered into one clause, of which only the text reaches the database (`Page.clause`).
`Page.select?` reads such a text word by word: no text keeps all rows, `LIMIT l` the first
`l`, and `LIMIT l OFFSET o` drops `o` and keeps the first `l` of the others.

A text is read as the window that it was written for (`select?_text`), and the window
follows every step (`window_gather`).  So both ways keep the same rows (`select?_clause`), as
long as there are fewer of them than the largest count: offsets that would exceed it stop
there, and an offset alone is written with the largest limit, and both are then as far as
any row.
-/
import PlanCompiler.Proofs.PathNames
import PlanCompiler.Proofs.SelectedRows

namespace PlanCompiler

set_option autoImplicit false

/-- One step of paging. -/
inductive Page
  | skip (count : UInt64)
  | take (count : UInt64)

namespace Page

open Sql (Limit)

variable {α : Type}

/-! ## Reading a clause -/

/-- The words of a text, which are separated by single spaces. -/
def words (text : String) : List String :=
  (Text.split ' ' text.toList).map String.ofList

/-- The count that a word of decimal digits stands for. -/
def count? (word : String) : Option Nat :=
  if !word.toList.isEmpty && word.toList.all Char.isDigit then
    some (Nat.ofDigitChars 10 word.toList 0)
  else none

/-- What a written clause keeps of the rows, none if it is no such clause. -/
def select? (clause : String) (rows : List α) : Option (List α) :=
  match words clause with
  | [""] => some rows
  | ["LIMIT", limit] => do return rows.take (← count? limit)
  | ["LIMIT", limit, "OFFSET", offset] => do
    let limit ← count? limit
    let offset ← count? offset
    return (rows.drop offset).take limit
  | _ => none

theorem words_cons {word : String} (plain : ' ' ∉ word.toList) (rest : String) :
    words (word ++ (" " ++ rest)) = word :: words rest := by
  have spaced : (word ++ (" " ++ rest)).toList = word.toList ++ ' ' :: rest.toList := by simp
  rw [words, spaced, Text.split_append, Text.split_of_notMem plain]
  simp [words]

theorem words_of_notMem {word : String} (plain : ' ' ∉ word.toList) : words word = [word] := by
  rw [words, Text.split_of_notMem plain]
  simp

theorem space_notMem_numeral (n : UInt64) : ' ' ∉ (toString n.toNat).toList := by
  intro mem
  exact absurd (Sql.toString_isDigit n.toNat ' ' mem) (by decide)

theorem count?_numeral (n : UInt64) : count? (toString n.toNat) = some n.toNat := by
  have digits : (toString n.toNat).toList = Nat.toDigits 10 n.toNat := Nat.toList_repr
  have isNumeral : (!(toString n.toNat).toList.isEmpty &&
      (toString n.toNat).toList.all Char.isDigit) = true := by
    rw [Bool.and_eq_true, List.all_eq_true, Bool.not_eq_true', List.isEmpty_eq_false_iff]
    exact ⟨Sql.toString_ne_nil n.toNat, Sql.toString_isDigit n.toNat⟩
  rw [count?, if_pos isNumeral, digits, Nat.ofDigitChars_ten_toDigits]

theorem words_limit (limit : UInt64) :
    words (Sql.text [.words "LIMIT ", Limit.numeral limit]) =
      ["LIMIT", toString limit.toNat] := by
  have spaced : Sql.text [.words "LIMIT ", Limit.numeral limit] =
      "LIMIT" ++ (" " ++ toString limit.toNat) := by
    apply String.ext
    simp [Sql.text_toList, Limit.numeral]
  rw [spaced, words_cons (by decide), words_of_notMem (space_notMem_numeral limit)]

theorem words_limitOffset (limit offset : UInt64) :
    words (Sql.text
        [.words "LIMIT ", Limit.numeral limit, .words " OFFSET ", Limit.numeral offset]) =
      ["LIMIT", toString limit.toNat, "OFFSET", toString offset.toNat] := by
  have spaced : Sql.text
      [.words "LIMIT ", Limit.numeral limit, .words " OFFSET ", Limit.numeral offset] =
      "LIMIT" ++ (" " ++ (toString limit.toNat ++ (" " ++ ("OFFSET" ++ (" " ++
        toString offset.toNat))))) := by
    apply String.ext
    simp [Sql.text_toList, Limit.numeral]
  rw [spaced, words_cons (by decide), words_cons (space_notMem_numeral limit),
    words_cons (by decide), words_of_notMem (space_notMem_numeral offset)]

/-- The text of a clause keeps the rows of its window. -/
theorem select?_text (limit : Limit) (rows : List α) :
    select? (Sql.text limit.pieces) rows = some (limit.window rows) := by
  obtain ⟨limit, offset⟩ := limit
  cases written : offset.filter (0 < ·) with
  | none =>
    cases limit with
    | none =>
      simp only [select?, Limit.pieces, Limit.window, written]
      rfl
    | some limit =>
      simp only [select?, Limit.pieces, Limit.window, written, words_limit, count?_numeral]
      rfl
  | some offset =>
    simp only [select?, Limit.pieces, Limit.window, written, words_limitOffset, count?_numeral]
    rfl

/-! ## Steps -/

/-- The rows that a step leaves. -/
def keep (rows : List α) : Page → List α
  | .skip count => rows.drop count.toNat
  | .take count => rows.take count.toNat

/-- The clause with one more step gathered into it. -/
def gather (limit : Limit) : Page → Limit
  | .skip count => limit.skip count
  | .take count => limit.take count

/-- The rows that are left when the steps have been made one after the other. -/
def run (pages : List Page) (rows : List α) : List α :=
  pages.foldl keep rows

/-- The text of the clause that the steps are gathered into. -/
def clause (pages : List Page) : String :=
  Sql.text (pages.foldl gather .none).pieces

theorem window_gather {limit : Limit} {rows : List α} (few : rows.length < UInt64.size)
    (page : Page) : (gather limit page).window rows = keep (limit.window rows) page := by
  cases page with
  | skip count => exact Limit.window_skip few count
  | take count => exact Limit.window_take few count

theorem window_foldl_gather {rows : List α} (few : rows.length < UInt64.size) (pages : List Page) :
    ∀ limit : Limit, (pages.foldl gather limit).window rows = run pages (limit.window rows) := by
  induction pages with
  | nil => exact fun _ => rfl
  | cons page rest ih =>
    intro limit
    calc (rest.foldl gather (gather limit page)).window rows
      _ = run rest ((gather limit page).window rows) := ih _
      _ = run rest (keep (limit.window rows) page) := by rw [window_gather few]
      _ = run (page :: rest) (limit.window rows) := rfl

/-- **Paging composes exactly.**  The clause that the steps are gathered into is written as a text
that keeps the very rows that the steps leave when they are made one after the other. -/
theorem select?_clause (pages : List Page) (rows : List α) (few : rows.length < UInt64.size) :
    select? (clause pages) rows = some (run pages rows) := by
  rw [clause, select?_text, window_foldl_gather few]
  rfl

example : clause [.take 100, .skip 10, .take 200, .skip 5] = "LIMIT 85 OFFSET 15" := by
  rfl

/-- Offsets that exceed the largest count together, and skip more than was taken before. -/
theorem select?_beyondLargest :
    [3, 1, 2].length < UInt64.size ∧
      clause [.take 2, .skip Limit.maxRows, .skip 1, .take 5] =
        "LIMIT 0 OFFSET 18446744073709551615" ∧
      select? (clause [.take 2, .skip Limit.maxRows, .skip 1, .take 5]) [3, 1, 2] = some [] := by
  refine ⟨by decide, rfl, ?_⟩
  exact select?_clause [.take 2, .skip Limit.maxRows, .skip 1, .take 5] [3, 1, 2] (by decide)

end Page

end PlanCompiler
