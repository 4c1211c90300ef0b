/-
# Proofs.TextTests -- tests of texts in conditions and in folding

A test of a field against a written text becomes a `LIKE` whose pattern is put
together from the text and `%`.  `Sql.Expression.likeTruth?` says what that is on a row
of texts and nulls, with the patterns of `Proofs.TextPattern`.  The same test between
two written texts is folded, and there it looks for the text itself.

The text is not escaped on its way into the pattern.  So the two agree on all rows
exactly if it holds no `%`, no `_` and no backslash, other than a last backslash of an
ending (`condition_agrees_iff`).
-/
import PlanCompiler.Proofs.FilterMeaning
import PlanCompiler.Proofs.TextPattern

namespace PlanCompiler

set_option autoImplicit false

/-- A text or null as it is written. -/
def Literal.ofText : Option String → Literal
  | none => .null
  | some text => .string text

/-! ## Matches on a row -/

namespace Sql.Expression

/-- The text that is written between quotes, if it holds no quotes and no escapes. -/
def quoted? (words : String) : Option String :=
  match words.toList with
  | [] => none
  | quote :: rest =>
    if quote == '\'' && rest.getLast? == some '\''
        && rest.dropLast.all (fun c => c != '\'' && c != '\\') then
      some (.ofList rest.dropLast)
    else none

/-- `CONCAT` is null if any part of it is. -/
def concatenated (texts : List (Option String)) : Option String :=
  (texts.mapM id).map String.join

mutual

/-- The text or null that an expression is on a row, none for what is not made of texts. -/
def text? (columns : Column → Option String) : Expression → Option (Option String)
  | .column source => some (columns source)
  | .value .null => some none
  | .value (.string text) => some (some text)
  | .raw words => (quoted? words).map some
  | .function .concat args => (texts? columns args).map concatenated
  | _ => none

def texts? (columns : Column → Option String) : List Expression → Option (List (Option String))
  | [] => some []
  | e :: rest => do return (← text? columns e) :: (← texts? columns rest)

end

/-- The truth of a match on a row, which is null if either side is; none for what is not a match
of texts. -/
def likeTruth? (columns : Column → Option String) : Expression → Option (Option Bool)
  | .binary .like text pattern => do
    let text ← text? columns text
    let pattern ← text? columns pattern
    return do return PatternUnit.accepts (PatternUnit.read (← pattern).toList) (← text).toList
  | _ => none

end Sql.Expression

/-! ## Tests -/

inductive TextTest
  | contains
  | startsWith
  | endsWith
deriving DecidableEq, Repr

namespace TextTest

def method : TextTest → Method
  | .contains => .contains
  | .startsWith => .startsWith
  | .endsWith => .endsWith

/-- What the test says of a text. -/
def Holds : TextTest → (needle text : List Char) → Prop
  | .contains, needle, text => needle <:+: text
  | .startsWith, needle, text => needle <+: text
  | .endsWith, needle, text => needle <:+ text

/-- What stands before and behind the text in the pattern. -/
def before : TextTest → List Char
  | .contains | .endsWith => ['%']
  | .startsWith => []

def behind : TextTest → List Char
  | .contains | .startsWith => ['%']
  | .endsWith => []

/-- Whether the pattern of the test reads a text as itself. -/
def ReadsAsWritten : TextTest → List Char → Prop
  | .contains, needle | .startsWith, needle => ∀ c ∈ needle, PatternUnit.IsPlain c
  | .endsWith, needle => PatternUnit.ReadsAlone needle

def pattern (test : TextTest) (needle : List Char) : List PatternUnit :=
  PatternUnit.read (test.before ++ needle ++ test.behind)

/-- The match that the test of a column against a text is compiled to. -/
def sql (test : TextTest) (column : Sql.Column) (needle : String) : Sql.Expression :=
  let parts := match test with
    | .contains => [Sql.Expression.wildcard, .value (.string needle), Sql.Expression.wildcard]
    | .startsWith => [.value (.string needle), Sql.Expression.wildcard]
    | .endsWith => [Sql.Expression.wildcard, .value (.string needle)]
  .binary .like (.column column) (.function .concat parts)

theorem accepts_pattern {test : TextTest} {needle : List Char}
    (asWritten : test.ReadsAsWritten needle) (text : List Char) :
    PatternUnit.accepts (test.pattern needle) text = true ↔ test.Holds needle text := by
  cases test with
  | contains => exact PatternUnit.accepts_contained asWritten
  | startsWith => exact PatternUnit.accepts_start asWritten
  | endsWith =>
    simp only [pattern, before, behind, List.append_nil]
    exact PatternUnit.accepts_ending asWritten

/-- A text that the pattern of a test finds, although the test does not hold of it unless what it
looks for is read as written. -/
def misreading (test : TextTest) (needle : List Char) : List Char :=
  PatternUnit.sample (PatternUnit.read (needle ++ test.behind))

theorem accepts_misreading (test : TextTest) (needle : List Char) :
    PatternUnit.accepts (test.pattern needle) (test.misreading needle) = true := by
  have accepted := PatternUnit.accepts_sample (PatternUnit.read (needle ++ test.behind))
  cases test with
  | startsWith => exact accepted
  | contains | endsWith =>
    rw [pattern, before, List.append_assoc, List.singleton_append,
      PatternUnit.read_cons (by decide)]
    exact PatternUnit.accepts_anyText.2 ⟨_, List.suffix_rfl, accepted⟩

theorem Holds.contained {test : TextTest} {needle text : List Char}
    (holds : test.Holds needle text) : needle <:+: text := by
  cases test with
  | contains => exact holds
  | startsWith => exact List.IsPrefix.isInfix holds
  | endsWith => exact List.IsSuffix.isInfix holds

theorem readsAsWritten_of_holds {test : TextTest} {needle : List Char}
    (holds : test.Holds needle (test.misreading needle)) : test.ReadsAsWritten needle := by
  have closed : test.behind = [] ∨ test.behind = ['%'] := by cases test <;> simp [behind]
  have read := PatternUnit.readsAlone_of_contained closed holds.contained
  cases test with
  | contains | startsWith => exact read.resolve_right (by simp [behind])
  | endsWith => exact read.elim .inl And.right

/-! ## The condition of a test -/

theorem likeTruth?_sql (test : TextTest) (column : Sql.Column) (needle : String)
    (columns : Sql.Column → Option String) :
    (test.sql column needle).likeTruth? columns =
      some ((columns column).map fun text =>
        PatternUnit.accepts (test.pattern needle.toList) text.toList) := by
  have wildcard : Sql.Expression.text? columns .wildcard = some (some "%") := by
    have quoted : Sql.Expression.quoted? "'%'" = some "%" := by decide
    simp [Sql.Expression.wildcard, Sql.Expression.text?, quoted]
  cases test <;>
    simp [sql, Sql.Expression.likeTruth?, Sql.Expression.text?, Sql.Expression.texts?, wildcard,
      Sql.Expression.concatenated, pattern, before, behind] <;>
    cases columns column <;> rfl

end TextTest

namespace Draft

variable {env : Environment} {field name : String} {test : TextTest}

theorem ofCall?_textTest (known : env.knows field = true)
    (method : Method.ofName? name = some test.method) (needle : String) (isStatic : Bool) :
    Sql.Expression.ofCall? name (some (operand env (.field field)))
      [operand env (.literal (.string needle))] isStatic =
        .ok (some (test.sql (env.resolve field) needle)) := by
  have column : expression env (.field field) = .ok (.column (env.resolve field)) := by
    simp [expression, column_of_knows known]
  unfold Sql.Expression.ofCall?
  rw [method, operand, operand, column]
  cases test <;> rfl

theorem simplify_textTest (known : env.knows field = true)
    (method : Method.ofName? name = some test.method) (needle : String) (isStatic : Bool) :
    simplify env (.call name (some (.field field)) [.literal (.string needle)] isStatic) =
      .leaf (test.sql (env.resolve field) needle) := by
  have reduced : reduce env (ofPredicate
      (.call name (some (.field field)) [.literal (.string needle)] isStatic)) =
        .leaf (test.sql (env.resolve field) needle) := by
    have fieldKept : Term.fold (.field field : Draft) = .field field := rfl
    have needleKept : Term.fold (.literal (.string needle) : Draft) = .literal (.string needle) :=
      rfl
    have reads : readsField (.field field) = true := rfl
    simp only [ofPredicate, Term.mapLeaves, Term.mapTarget, Term.mapArgs, reduce, Term.transform,
      Term.transformTarget, Term.transformArgs, reduceStep]
    have wrapped : unwrapped? name (some (.field field)) [.literal (.string needle)] = none := by
      simp [unwrapped?]
    simp only [wrapped, reducedCall?, Option.map_some, List.map_cons, List.map_nil, fieldKept,
      needleKept, ofCall?_textTest known method, Option.any_some, reads, Bool.true_or, if_true]
  rw [simplify, reduced]
  rfl

theorem condition_textTest (known : env.knows field = true)
    (method : Method.ofName? name = some test.method) (needle : String) (isStatic : Bool) :
    condition env (simplify env
      (.call name (some (.field field)) [.literal (.string needle)] isStatic)) =
        .ok (some (test.sql (env.resolve field) needle)) := by
  rw [simplify_textTest known method]
  rfl

/-! ## The folded test -/

theorem call?_textTest (test : TextTest) (value : Option String) (needle : String) :
    Literal.call? test.method (some (.ofText value)) [.string needle] = some (.bool true) ↔
      ∃ text, value = some text ∧ test.Holds needle.toList text.toList := by
  cases value with
  | none =>
    have noText : Literal.call? test.method (some .null) [.string needle] = none := by
      cases test <;> rfl
    simp [Literal.ofText, noText]
  | some text =>
    rw [Literal.ofText]
    cases test with
    | contains =>
      have tested : Literal.call? .contains (some (.string text)) [.string needle] =
          some (.bool (Text.occursIn needle.toList text.toList)) := rfl
      simp [TextTest.method, TextTest.Holds, tested, Text.occursIn_iff]
    | startsWith =>
      have tested : Literal.call? .startsWith (some (.string text)) [.string needle] =
          some (.bool (needle.toList.isPrefixOf text.toList)) := rfl
      simp [TextTest.method, TextTest.Holds, tested]
    | endsWith =>
      have tested : Literal.call? .endsWith (some (.string text)) [.string needle] =
          some (.bool (needle.toList.isSuffixOf text.toList)) := rfl
      simp [TextTest.method, TextTest.Holds, tested]

theorem fold_textTest (method : Method.ofName? name = some test.method)
    (value : Option String) (needle : String) (isStatic : Bool) :
    Term.fold (.call name (some (.literal (.ofText value))) [.literal (.string needle)] isStatic :
        Draft) = .literal (.bool true) ↔
      ∃ text, value = some text ∧ test.Holds needle.toList text.toList := by
  have valued : Term.callValue? name (some (.literal (.ofText value) : Draft))
      [.literal (.string needle)] =
        Literal.call? test.method (some (.ofText value)) [.string needle] := by
    simp [Term.callValue?, method, Term.targetLiteral?, Term.literal?]
  rw [← call?_textTest, ← valued]
  simp only [Term.fold, Term.transform, Term.transformTarget, Term.transformArgs, Term.foldStep]
  cases Term.callValue? name (some (.literal (.ofText value) : Draft))
    [.literal (.string needle)] <;> simp

/-- **Conditions and folding read the same texts.**  The test of a field against a written text
compiles.  On all rows of texts and nulls its condition is true exactly where folding the same
test of the two texts gives true, if and only if the written text holds no character that a
pattern reads as another. -/
theorem condition_agrees_iff (env : Environment) (field : String) (known : env.knows field = true)
    (test : TextTest) (name : String) (method : Method.ofName? name = some test.method)
    (needle : String) (isStatic : Bool) :
    ∃ sql,
      condition env (simplify env
        (.call name (some (.field field)) [.literal (.string needle)] isStatic)) = .ok (some sql) ∧
      ((∀ columns : Sql.Column → Option String,
          sql.likeTruth? columns = some (some true) ↔
            Term.fold (.call name (some (.literal (.ofText (columns (env.resolve field)))))
              [.literal (.string needle)] isStatic : Draft) = .literal (.bool true)) ↔
        test.ReadsAsWritten needle.toList) := by
  refine ⟨_, condition_textTest known method needle isStatic, ?_, ?_⟩
  · intro agrees
    have holds := (agrees fun _ => some (.ofList (test.misreading needle.toList))).1
      (by simp [TextTest.likeTruth?_sql, TextTest.accepts_misreading])
    obtain ⟨text, same, holds⟩ := (fold_textTest method _ needle isStatic).1 holds
    cases same
    exact TextTest.readsAsWritten_of_holds (by simpa using holds)
  · intro asWritten columns
    rw [TextTest.likeTruth?_sql, fold_textTest method]
    simp [TextTest.accepts_pattern asWritten]

/-- A needle of letters and a dot is found by the condition exactly where folding finds it. -/
theorem condition_agrees_title :
    ∃ sql,
      condition ⟨.empty, .empty, true⟩ (simplify ⟨.empty, .empty, true⟩
        (.call "StartsWith" (some (.field "Name")) [.literal (.string "Dr.")] false)) =
          .ok (some sql) ∧
      ∀ columns : Sql.Column → Option String,
        sql.likeTruth? columns = some (some true) ↔
          Term.fold (.call "StartsWith" (some (.literal (.ofText (columns (.named "Name")))))
            [.literal (.string "Dr.")] false : Draft) = .literal (.bool true) := by
  have startsWith : Method.ofName? "StartsWith" = some TextTest.startsWith.method := rfl
  obtain ⟨sql, compiled, agrees⟩ := condition_agrees_iff ⟨.empty, .empty, true⟩ "Name" rfl
    .startsWith "StartsWith" startsWith "Dr." false
  have asWritten : TextTest.startsWith.ReadsAsWritten "Dr.".toList := by
    simp [TextTest.ReadsAsWritten, PatternUnit.IsPlain]
  exact ⟨sql, compiled, agrees.2 asWritten⟩

/-- A percent sign in the text that is looked for finds what it does not hold: `1000` contains
no `100%`, but the condition is true of it. -/
theorem condition_percent_misread :
    ∃ sql,
      condition ⟨.empty, .empty, true⟩ (simplify ⟨.empty, .empty, true⟩
        (.call "Contains" (some (.field "Name")) [.literal (.string "100%")] false)) =
          .ok (some sql) ∧
      sql.likeTruth? (fun _ => some "1000") = some (some true) ∧
      Term.fold (.call "Contains" (some (.literal (.string "1000")))
        [.literal (.string "100%")] false : Draft) = .literal (.bool false) := by
  have contains : Method.ofName? "Contains" = some TextTest.contains.method := rfl
  refine ⟨_, condition_textTest rfl contains "100%" false, ?_, ?_⟩
  · rw [TextTest.likeTruth?_sql]
    decide
  · rfl

end Draft

end PlanCompiler
