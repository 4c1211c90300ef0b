/-
# Proofs.ExposedColumns -- the names under which columns are selected

A statement that narrows the row lists the selected columns by name: as columns of the statement
that it is put around, or under labels in a list of its own.  `lexemes` reads such a name as the
database does.  A name without backticks is read back if and only if it has no dot
(`lexemes_quoteIdentifier`): names with dots are taken for qualified ones and written as they are,
and then the text has fewer backticks than the names of a list need (`names_le_backticks`).

So the list of a narrowed statement exposes the selected fields under their names exactly if none
of them has a dot (`compile_exposes`).
-/
import PlanCompiler.Proofs.Counting
import PlanCompiler.Proofs.Lexeme
import PlanCompiler.Proofs.PassingPieces
import PlanCompiler.Proofs.SelectedColumns

namespace PlanCompiler

set_option autoImplicit false

namespace Sql

namespace Lexeme

/-! ## Names and backticks -/

def isName : Lexeme → Bool
  | .name _ => true
  | _ => false

/-- How many backticks a name has had when it is read in this state. -/
def State.backticks : State → Nat
  | .name _ => 1
  | .nameEnd _ => 2
  | _ => 0

/-- The number of names among lexemes. -/
def nameCount (read : List Lexeme) : Nat :=
  read.countP isName

theorem nameCount_ended (state : State) : 2 * nameCount state.ended ≤ state.backticks := by
  cases state <;> simp [nameCount, State.ended, State.backticks, isName]

theorem start_backticks (c : Char) :
    nameCount (start c).2 = 0 ∧ (start c).1.backticks ≤ [c].count '\x60' := by
  by_cases isBacktick : c = '\x60'
  · subst isBacktick
    exact ⟨rfl, Nat.le_refl 1⟩
  · unfold start
    rw [if_neg isBacktick]
    -- no other character begins a name
    iterate 8
      refine iteInduction (motive := fun read : State × List Lexeme =>
        nameCount read.2 = 0 ∧ read.1.backticks ≤ [c].count '\x60') (fun _ => ?_) fun _ => ?_
      · exact ⟨rfl, Nat.zero_le _⟩
    exact ⟨rfl, Nat.zero_le _⟩

theorem extend_backticks {state next : State} {c : Char} (goesOn : state.extend? c = some next) :
    next.backticks ≤ state.backticks + [c].count '\x60' := by
  cases state with
  | between => cases goesOn
  | name read =>
    simp only [State.extend?] at goesOn
    split at goesOn <;> cases goesOn
    · subst c
      exact Nat.le_refl 2
    · exact Nat.le_add_right 1 _
  | nameEnd read =>
    simp only [State.extend?] at goesOn
    split at goesOn <;> cases goesOn
    exact Nat.le_trans (Nat.le_succ 1) (Nat.le_add_right 2 _)
  | quoted read =>
    simp only [State.extend?] at goesOn
    split at goesOn <;> cases goesOn <;> exact Nat.zero_le _
  | _ =>
    simp only [State.extend?] at goesOn
    split at goesOn <;> cases goesOn
    exact Nat.zero_le _

/-- Every name that is read takes two backticks. -/
theorem names_le_backticks (text : List Char) :
    ∀ state : State, 2 * nameCount (lexemes state text) ≤ text.count '\x60' + state.backticks := by
  induction text with
  | nil =>
    intro state
    exact Nat.le_trans (nameCount_ended state) (Nat.le_add_left _ _)
  | cons c rest ih =>
    intro state
    have here : (c :: rest).count '\x60' = [c].count '\x60' + rest.count '\x60' := by
      rw [← List.singleton_append, List.count_append]
    rw [lexemes]
    split
    · rename_i next goesOn
      have later := ih next
      have step := extend_backticks goesOn
      omega
    · have later := ih (start c).1
      have step := start_backticks c
      have ended := nameCount_ended state
      unfold nameCount at *
      rw [List.countP_append, List.countP_append]
      omega

/-! ## Names as they are written -/

/-- Names with a dot are written as they are. -/
theorem quoteIdentifier_of_plain {name : String} (plain : '\x60' ∉ name.toList) :
    quoteIdentifier name = if '.' ∈ name.toList then name else "\x60" ++ name ++ "\x60" := by
  have special : (name.toList.any fun c => c == '\x60' || c == '.') =
      decide ('.' ∈ name.toList) := by
    rw [Bool.eq_iff_iff, List.any_eq_true, decide_eq_true_iff]
    constructor
    · rintro ⟨c, mem, isSpecial⟩
      rcases Bool.or_eq_true_iff.1 isSpecial with same | same <;> cases eq_of_beq same
      · exact absurd mem plain
      · exact mem
    · exact fun mem => ⟨'.', mem, rfl⟩
  rw [quoteIdentifier, special]
  simp

theorem count_quoteIdentifier {name : String} (plain : '\x60' ∉ name.toList) :
    (quoteIdentifier name).toList.count '\x60' = if '.' ∈ name.toList then 0 else 2 := by
  rw [quoteIdentifier_of_plain plain]
  split
  · exact List.count_eq_zero.2 plain
  · simp [List.count_eq_zero.2 plain]

/-- A name without dots is read back before anything but a backtick. -/
theorem lexemes_undotted {name : String} (plain : '\x60' ∉ name.toList)
    (undotted : '.' ∉ name.toList) {rest : List Char} (apart : rest.head? ≠ some '\x60') :
    lexemes .between ((quoteIdentifier name).toList ++ rest) =
      .name name :: lexemes .between rest := by
  have quoted : (quoteIdentifier name).toList ++ rest =
      '\x60' :: (name.toList ++ '\x60' :: rest) := by
    simp [quoteIdentifier_of_plain plain, undotted]
  rw [quoted]
  exact lexemes_nameBefore plain apart

/-- A name without backticks is read back if and only if it has no dot. -/
theorem lexemes_quoteIdentifier {name : String} (plain : '\x60' ∉ name.toList) :
    lexemes .between (quoteIdentifier name).toList = [.name name] ↔ '.' ∉ name.toList := by
  constructor
  · intro read dotted
    have counted := names_le_backticks (quoteIdentifier name).toList .between
    rw [read, count_quoteIdentifier plain, if_pos dotted] at counted
    have one : nameCount [.name name] = 1 := rfl
    rw [one] at counted
    exact absurd counted (by decide)
  · intro undotted
    have apart : ([] : List Char).head? ≠ some '\x60' := nofun
    have read := lexemes_undotted plain undotted apart
    rwa [List.append_nil] at read

/-! ## References to columns -/

theorem countP_intercalate_cons {α : Type} {p : α → Bool} {between : List α}
    (none : between.countP p = 0) (part : List α) (rest : List (List α)) :
    (between.intercalate (part :: rest)).countP p =
      part.countP p + (between.intercalate rest).countP p := by
  cases rest with
  | nil => simp
  | cons next others =>
    rw [List.intercalate_cons_cons, List.countP_append, List.countP_append, none, Nat.add_zero]

theorem count_intercalate_cons {between : List Char} {c : Char} (none : between.count c = 0)
    (part : List Char) (rest : List (List Char)) :
    (between.intercalate (part :: rest)).count c =
      part.count c + (between.intercalate rest).count c :=
  countP_intercalate_cons none part rest

end Lexeme

open Lexeme

/-- A reference to a column of a table. -/
def referenceText (table name : String) : String :=
  quoteIdentifier table ++ "." ++ quoteIdentifier name

/-- References to columns of a table, one after the other. -/
def referencesText (table : String) (names : List String) : String :=
  ", ".intercalate (names.map (referenceText table))

/-- What references to columns of these names are read as. -/
def referenceLexemes (table : String) (names : List String) : List Lexeme :=
  [Lexeme.comma].intercalate (names.map fun name => [.name table, .unknown '.', .name name])

section

variable {table : String} {names : List String}

theorem lexemes_referenceText (plainTable : '\x60' ∉ table.toList)
    (undottedTable : '.' ∉ table.toList) {name : String} (plain : '\x60' ∉ name.toList)
    (undotted : '.' ∉ name.toList) {rest : List Char} (apart : rest.head? ≠ some '\x60') :
    lexemes .between ((referenceText table name).toList ++ rest) =
      .name table :: .unknown '.' :: .name name :: lexemes .between rest := by
  have dot (rest : List Char) :
      lexemes .between (".".toList ++ rest) = .unknown '.' :: lexemes .between rest := rfl
  rw [referenceText, String.toList_append, String.toList_append, List.append_assoc,
    List.append_assoc, lexemes_undotted plainTable undottedTable (by simp), dot,
    lexemes_undotted plain undotted apart]

theorem lexemes_referencesText_of_undotted (plainTable : '\x60' ∉ table.toList)
    (undottedTable : '.' ∉ table.toList) (plain : ∀ name ∈ names, '\x60' ∉ name.toList)
    (undotted : ∀ name ∈ names, '.' ∉ name.toList) :
    lexemes .between (referencesText table names).toList = referenceLexemes table names := by
  unfold referencesText referenceLexemes
  rw [String.toList_intercalate, List.map_map]
  induction names with
  | nil => rfl
  | cons name rest ih =>
    obtain ⟨plainName, plainRest⟩ := List.forall_mem_cons.1 plain
    obtain ⟨undottedName, undottedRest⟩ := List.forall_mem_cons.1 undotted
    cases rest with
    | nil =>
      have apart : ([] : List Char).head? ≠ some '\x60' := nofun
      have one := lexemes_referenceText plainTable undottedTable plainName undottedName apart
      rw [List.append_nil] at one
      rw [List.map_singleton, List.map_singleton, List.intercalate_singleton,
        List.intercalate_singleton]
      exact one
    | cons next others =>
      have others' := ih plainRest undottedRest
      rw [List.map_cons, List.map_cons] at others' ⊢
      rw [List.map_cons, List.map_cons, List.intercalate_cons_cons, List.intercalate_cons_cons,
        List.append_assoc, Function.comp_apply,
        lexemes_referenceText plainTable undottedTable plainName undottedName (by simp),
        lexemes_comma, others']
      rfl

theorem count_referenceText (plainTable : '\x60' ∉ table.toList)
    (undottedTable : '.' ∉ table.toList) {name : String} (plain : '\x60' ∉ name.toList) :
    (referenceText table name).toList.count '\x60' = if '.' ∈ name.toList then 2 else 4 := by
  have dot : ".".toList.count '\x60' = 0 := rfl
  rw [referenceText, String.toList_append, String.toList_append, List.count_append,
    List.count_append, count_quoteIdentifier plainTable, count_quoteIdentifier plain, dot,
    if_neg undottedTable]
  split <;> rfl

/-- A reference has the two backticks of its table, and two more if its name has no dot. -/
theorem count_referencesText (plainTable : '\x60' ∉ table.toList)
    (undottedTable : '.' ∉ table.toList) (plain : ∀ name ∈ names, '\x60' ∉ name.toList) :
    (referencesText table names).toList.count '\x60' =
      2 * names.length + 2 * names.countP fun name => '.' ∉ name.toList := by
  have comma : ", ".toList.count '\x60' = 0 := rfl
  unfold referencesText
  rw [String.toList_intercalate, List.map_map]
  induction names with
  | nil => rfl
  | cons name rest ih =>
    obtain ⟨plainName, plainRest⟩ := List.forall_mem_cons.1 plain
    rw [List.map_cons, count_intercalate_cons comma, ih plainRest, Function.comp_apply,
      count_referenceText plainTable undottedTable plainName, List.length_cons, List.countP_cons]
    by_cases dotted : '.' ∈ name.toList
    · simp only [dotted, if_true, not_true, decide_false, Bool.false_eq_true, if_false]
      omega
    · simp only [dotted, if_false, not_false_iff, decide_true, if_true]
      omega

theorem nameCount_referenceLexemes (table : String) (names : List String) :
    nameCount (referenceLexemes table names) = 2 * names.length := by
  have comma : [Lexeme.comma].countP isName = 0 := rfl
  unfold nameCount referenceLexemes
  induction names with
  | nil => rfl
  | cons name rest ih =>
    have two : [Lexeme.name table, .unknown '.', .name name].countP isName = 2 := rfl
    rw [List.map_cons, countP_intercalate_cons comma, ih, two, List.length_cons]
    omega

/-- References that are read back have names without dots: the others lack backticks. -/
theorem undotted_of_lexemes_referencesText (plainTable : '\x60' ∉ table.toList)
    (undottedTable : '.' ∉ table.toList) (plain : ∀ name ∈ names, '\x60' ∉ name.toList)
    (read : lexemes .between (referencesText table names).toList = referenceLexemes table names) :
    ∀ name ∈ names, '.' ∉ name.toList := by
  have counted := names_le_backticks (referencesText table names).toList .between
  have begins : State.between.backticks = 0 := rfl
  rw [read, nameCount_referenceLexemes, count_referencesText plainTable undottedTable plain, begins]
    at counted
  have atMost := List.countP_le_length (p := fun name : String => decide ('.' ∉ name.toList))
    (l := names)
  have all : names.countP (fun name => decide ('.' ∉ name.toList)) = names.length := by omega
  exact fun name mem => of_decide_eq_true (List.countP_eq_length.1 all name mem)

/-- **References to columns are read back if and only if no name has a dot.** -/
theorem lexemes_referencesText (plainTable : '\x60' ∉ table.toList)
    (undottedTable : '.' ∉ table.toList) (plain : ∀ name ∈ names, '\x60' ∉ name.toList) :
    lexemes .between (referencesText table names).toList = referenceLexemes table names ↔
      ∀ name ∈ names, '.' ∉ name.toList :=
  ⟨undotted_of_lexemes_referencesText plainTable undottedTable plain,
    lexemes_referencesText_of_undotted plainTable undottedTable plain⟩

end

/-! ## Lists as they are written -/

/-- Parts without values are written one after the other. -/
theorem text_separated {between : String} {parts : List (List Piece)}
    (none : ∀ part ∈ parts, values part = []) :
    text (separated (.words between) parts) = between.intercalate (parts.map text) := by
  rw [← String.toList_inj, String.toList_intercalate, List.map_map]
  induction parts with
  | nil => rfl
  | cons part rest ih =>
    cases rest with
    | nil =>
      rw [List.map_singleton, List.intercalate_singleton]
      rfl
    | cons next others =>
      obtain ⟨noneHere, noneLater⟩ := List.forall_mem_cons.1 none
      rw [separated_cons, List.map_cons, List.map_cons, List.intercalate_cons_cons, ← List.map_cons,
        ← ih noneLater, text_toList, text_toList, chars_append, noneHere, chars_words,
        Function.comp_apply, text_toList]
      simp

theorem text_referencesText (table : String) (names : List String) :
    text (separated (.words ", ")
        (names.map fun name => [.name table, .words ".", .name name])) =
      referencesText table names := by
  rw [text_separated (by simp), List.map_map]
  have one : (text ∘ fun name => [.name table, .words ".", .name name]) = referenceText table := by
    funext name
    rw [Function.comp_apply, ← String.toList_inj, text_toList, referenceText]
    simp
  rw [one, referencesText]

/-- The list of a statement around a statement. -/
theorem OuterSelect.text_columns (names after : List String) (inner table : String) :
    text (OuterSelect.pieces ⟨.columns names, after, inner, table⟩) =
      "SELECT " ++ referencesText table names ++ text (trailing after) ++ " FROM (" ++ inner
        ++ ") AS " ++ quoteIdentifier table := by
  have none : values (separated (.words ", ")
      (names.map fun name => [.name table, .words ".", .name name])) = [] := by
    rw [values_separated, List.flatMap_map]
    simp
  rw [← text_referencesText, ← String.toList_inj]
  simp only [OuterSelect.pieces, text_toList, String.toList_append]
  simp [none, values_trailing]

end Sql

/-- The column of a field under the name of the field. -/
def Environment.labelledText (env : Environment) (name : String) : String :=
  (env.resolve name).text ++ " AS " ++ Sql.quoteIdentifier name

namespace Assembly

open Sql

/-- The generated list of selected columns. -/
theorem text_selectList (env : Environment) {names : List String} (nonempty : names ≠ [])
    (after : List String) :
    text (selectList env names after).pieces =
      "SELECT " ++ ", ".intercalate (names.map env.labelledText) ++ text (trailing after) := by
  have listed : listedFields env names = names := by
    cases names with
    | nil => exact absurd rfl nonempty
    | cons name rest => rfl
  let items := names.map fun name =>
    (Expression.column (env.resolve name)).pieces ++ [.words " AS ", .name name]
  have someItems : items.isEmpty = false := by
    cases names with
    | nil => exact absurd rfl nonempty
    | cons name rest => rfl
  have noValues : ∀ item ∈ items, values item = [] := by
    refine List.forall_mem_map.2 fun name _ => ?_
    rw [values_append, Expression.values_pieces]
    rfl
  have pieces : (selectList env names after).pieces =
      .words "SELECT " :: separated (.words ", ") items ++ trailing after := by
    rw [SelectList.pieces, selectList, listed]
    simp only [List.map_map]
    change .words "SELECT " :: (if items.isEmpty then _ else separated (.words ", ") items)
      ++ trailing after = _
    rw [someItems]
    rfl
  have texts : text (separated (.words ", ") items) =
      ", ".intercalate (names.map env.labelledText) := by
    rw [text_separated noValues, List.map_map]
    rfl
  have valueless : values (separated (.words ", ") items) = [] := by
    rw [values_separated, List.flatMap_eq_nil_iff]
    exact noValues
  rw [pieces, ← texts, ← String.toList_inj]
  simp only [text_toList, String.toList_append]
  simp [valueless]

theorem addClause_begins (statement : Buffer) (clause : String) :
    statement.text.toList <+: (addClause statement clause).text.toList := by
  have line : statement.text.toList <+: statement.startLine.text.toList := by
    unfold Buffer.startLine
    split
    · exact List.prefix_refl _
    · exact ⟨_, (String.toList_append ..).symm⟩
  unfold addClause
  split
  · exact List.prefix_refl _
  · exact line.trans ⟨_, (String.toList_append ..).symm⟩

/-- A statement begins with the first of its clauses. -/
theorem lines_begin (first : String) (rest : List String) :
    first.toList <+: (lines (first :: rest)).toList := by
  have begins : (addClause .empty first).text = first := by
    unfold addClause
    split
    · rename_i empty
      exact (String.isEmpty_iff.1 empty).symm
    · exact String.empty_append
  have run (clauses : List String) : ∀ statement : Buffer,
      statement.text.toList <+: (clauses.foldl addClause statement).text.toList := by
    induction clauses with
    | nil => exact fun _ => List.prefix_refl _
    | cons clause rest ih => exact fun statement => (addClause_begins statement clause).trans (ih _)
  have whole := run rest (addClause .empty first)
  rw [begins] at whole
  exact whole

end Assembly

/-! ## Statements -/

namespace Query

variable {Row : Type} {query : Query Row}

/-- A query whose columns are not mapped selects from a statement around it. -/
theorem statement_referencesText {clauses : Clauses} {statement : Statement}
    (unmapped : query.allColumnsMapped = false) (narrowed : clauses.selected ≠ [])
    (compiled : query.statement clauses .rows = .ok statement) :
    ∃ inner, statement.statementSql =
      "SELECT " ++ Sql.referencesText (Sql.uniqueTableAlias inner) clauses.selected
        ++ Sql.text (Sql.trailing (Command.inRegion .afterSelectionColumns query.commands))
        ++ " FROM (" ++ inner ++ ") AS " ++ Sql.quoteIdentifier (Sql.uniqueTableAlias inner)
        ++ ";" := by
  have wraps : (query.environment.allColumnsMapped || clauses.selected.isEmpty) = false := by
    rw [List.isEmpty_eq_false_iff.2 narrowed, Bool.or_false]
    exact unmapped
  refine ⟨Assembly.lines (Assembly.clauseTexts query.environment query.baseSql query.commands
    clauses .rows), ?_⟩
  rw [(statement_assembly compiled).1, Assembly.assemble_statementSql, Assembly.body, wraps,
    if_neg Bool.false_ne_true, Assembly.wrap, Sql.OuterSelect.text_columns]

/-- A query whose columns are mapped begins with a list of them. -/
theorem statement_labelledText {clauses : Clauses} {statement : Statement}
    (mapped : query.allColumnsMapped = true) (narrowed : clauses.selected ≠ [])
    (compiled : query.statement clauses .rows = .ok statement) :
    statement.selectSql =
        "SELECT " ++ ", ".intercalate (clauses.selected.map query.environment.labelledText)
          ++ Sql.text (Sql.trailing (Command.inRegion .afterSelectionColumns query.commands)) ∧
      statement.selectSql.toList <+: statement.statementSql.toList := by
  have whole : query.environment.allColumnsMapped = true := mapped
  have listed : Sql.text (Assembly.listClause query.environment query.commands clauses) =
      "SELECT " ++ ", ".intercalate (clauses.selected.map query.environment.labelledText)
        ++ Sql.text (Sql.trailing (Command.inRegion .afterSelectionColumns query.commands)) := by
    rw [Assembly.listClause, whole, if_pos rfl, Assembly.text_selectList _ narrowed]
  rw [(statement_assembly compiled).1, Assembly.assemble_selectSql, Assembly.assemble_statementSql,
    Assembly.body, whole, Bool.true_or, if_pos rfl, String.toList_append]
  have begins : (Sql.text (Assembly.listClause query.environment query.commands clauses)).toList <+:
      (Assembly.lines (Assembly.clauseTexts query.environment query.baseSql query.commands clauses
        .rows)).toList := Assembly.lines_begin _ _
  exact ⟨listed, begins.trans (List.prefix_append _ _)⟩

/-- **A narrowed statement exposes the selected fields under their names, unless they have dots.**
The list of the statement has one item for each of them, in order: a reference to a column of the
statement inside, or the mapped column under a label.  Names without backticks are read back
exactly if they have no dot, and with one they are written as they are. -/
theorem compile_exposes {statement : Statement} {transform : ItemTransform Row}
    (compiled : query.compile = .ok (statement, transform))
    (narrowed : statement.selectedColumns ≠ [])
    (plain : ∀ name ∈ statement.selectedColumns, '\x60' ∉ name.toList) :
    (query.allColumnsMapped = false → ∃ inner,
      statement.statementSql =
          "SELECT " ++ Sql.referencesText (Sql.uniqueTableAlias inner) statement.selectedColumns
            ++ Sql.text (Sql.trailing (Command.inRegion .afterSelectionColumns query.commands))
            ++ " FROM (" ++ inner ++ ") AS " ++ Sql.quoteIdentifier (Sql.uniqueTableAlias inner)
            ++ ";" ∧
        (Sql.lexemes .between
            (Sql.referencesText (Sql.uniqueTableAlias inner) statement.selectedColumns).toList =
              Sql.referenceLexemes (Sql.uniqueTableAlias inner) statement.selectedColumns ↔
          ∀ name ∈ statement.selectedColumns, '.' ∉ name.toList)) ∧
      (query.allColumnsMapped = true →
        statement.selectSql =
            "SELECT " ++ ", ".intercalate
              (statement.selectedColumns.map query.environment.labelledText)
              ++ Sql.text (Sql.trailing
                (Command.inRegion .afterSelectionColumns query.commands)) ∧
          statement.selectSql.toList <+: statement.statementSql.toList) ∧
      ∀ name ∈ statement.selectedColumns,
        (Sql.lexemes .between (Sql.quoteIdentifier name).toList = [.name name] ↔
          '.' ∉ name.toList) ∧
        ('.' ∈ name.toList → Sql.quoteIdentifier name = name) := by
  obtain ⟨clauses, -, isStatement⟩ := compile_eq_ok.1 compiled
  rw [statement_selectedColumns isStatement] at narrowed plain ⊢
  refine ⟨fun unmapped => ?_, fun mapped => statement_labelledText mapped narrowed isStatement,
    fun name mem => ⟨Sql.Lexeme.lexemes_quoteIdentifier (plain name mem), fun dotted => ?_⟩⟩
  · obtain ⟨inner, text⟩ := statement_referencesText unmapped narrowed isStatement
    have letters : ∀ c ∈ (Sql.uniqueTableAlias inner).toList, c ≠ '.' ∧ c ≠ '\x60' ∧ c ≠ '@' :=
      Sql.tableAlias_letters _
    have plainTable : '\x60' ∉ (Sql.uniqueTableAlias inner).toList :=
      fun mem => (letters _ mem).2.1 rfl
    have undottedTable : '.' ∉ (Sql.uniqueTableAlias inner).toList :=
      fun mem => (letters _ mem).1 rfl
    exact ⟨inner, text, Sql.lexemes_referencesText plainTable undottedTable plain⟩
  · rw [Sql.Lexeme.quoteIdentifier_of_plain (plain name mem), if_pos dotted]

/-- The columns of the contacts are read back from the statement around theirs. -/
theorem compile_exposes_contacts :
    ∃ statement transform inner, contacts.compile = .ok (statement, transform) ∧
      statement.statementSql = "SELECT \x60t0\x60.\x60Name\x60, \x60t0\x60.\x60City\x60"
        ++ " FROM (SELECT * FROM people\nLIMIT 10) AS \x60t0\x60;" ∧
      statement.statementSql =
        "SELECT " ++ Sql.referencesText (Sql.uniqueTableAlias inner) ["Name", "City"]
          ++ " FROM (" ++ inner ++ ") AS " ++ Sql.quoteIdentifier (Sql.uniqueTableAlias inner)
          ++ ";" ∧
      Sql.lexemes .between
          (Sql.referencesText (Sql.uniqueTableAlias inner) ["Name", "City"]).toList =
        Sql.referenceLexemes (Sql.uniqueTableAlias inner) ["Name", "City"] := by
  have evaluated : (contacts.compile.toOption.map fun result =>
      (result.1.selectedColumns, result.1.statementSql)) =
        some (["Name", "City"], "SELECT \x60t0\x60.\x60Name\x60, \x60t0\x60.\x60City\x60"
          ++ " FROM (SELECT * FROM people\nLIMIT 10) AS \x60t0\x60;") := by decide +kernel
  have noCommands :
      Sql.text (Sql.trailing (Command.inRegion .afterSelectionColumns contacts.commands)) = "" := by
    decide
  obtain ⟨⟨statement, transform⟩, compiled, both⟩ := Except.toOption_map_eq_some.1 evaluated
  obtain ⟨selected, isStatement⟩ := Prod.mk.inj both
  obtain ⟨inner, text, readBack⟩ := (compile_exposes compiled
    (selected ▸ List.cons_ne_nil _ _) (by rw [selected]; decide)).1 rfl
  rw [selected, noCommands, String.append_empty] at text
  rw [selected] at readBack
  exact ⟨statement, transform, inner, compiled, isStatement, text, readBack.2 (by decide)⟩

/-- The cities of people, where the field has the name of a qualified column. -/
def citiesOfPeople : Query Nat :=
  (Query.ofSql "SELECT * FROM people").project (.field "address.city")

/-- The name that is selected is read as words without backticks, and so is its label. -/
theorem citiesOfPeople_unquoted :
    (citiesOfPeople.compile.toOption.map fun result =>
        (result.1.selectedColumns, result.1.statementSql)) =
      some (["address.city"],
        "SELECT \x60t0\x60.address.city FROM (SELECT * FROM people) AS \x60t0\x60;") ∧
    (citiesOfPeople.ensureAllColumnsMapped.compile.toOption.map fun result =>
        (result.1.selectedColumns, result.1.selectSql)) =
      some (["address.city"], "SELECT address.city AS address.city") ∧
    "\x60t0\x60.address.city" = Sql.referencesText "t0" ["address.city"] ∧
    Sql.lexemes .between (Sql.referencesText "t0" ["address.city"]).toList =
      [.name "t0", .unknown '.', .word "address", .unknown '.', .word "city"] ∧
    Sql.lexemes .between (Sql.referencesText "t0" ["address.city"]).toList ≠
      Sql.referenceLexemes "t0" ["address.city"] :=
  ⟨by decide +kernel, by decide +kernel, by decide, by decide, by decide⟩

end Query

end PlanCompiler
