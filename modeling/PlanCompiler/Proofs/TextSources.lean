/-
# Proofs.TextSources -- where the text of a statement comes from

`Drawn` lists what generated SQL is written with: a fixed vocabulary, numbers,
placeholders and aliases, the commands, and what is known of the row, that is the
names of the fields that are declared or mapped and what these are read from.  None of
it depends on the plan or on the values that are bound.

Where the row is declared, all generated clauses are put together from such texts and
nothing else, and so is what is put around a statement (`compileAs_textsComposed`).  The
plan only chooses among them.  This rests on each name of the plan being checked
before it is written: columns are those of fields that the row has
(`filterConditions_generatedFrom`, `SortKey.ordering_columns`), and so are the selected
names (`Query.progress_selected`).
-/
import PlanCompiler.Proofs.Binding
import PlanCompiler.Proofs.SortKeys

namespace PlanCompiler

set_option autoImplicit false

variable {Row : Type}

/-! ## What may be written -/

/-- The words, the punctuation and the wildcard of generated SQL. -/
def Sql.vocabulary : List String := [
  "SELECT ", "*", " AS ", ", ", " ", "WHERE ", "HAVING ", "ORDER BY ", " ASC", " DESC", "LIMIT ",
  " OFFSET ", "COUNT(*)", ".", " FROM (", ") AS ", ";",
  "(", ")", "))", " AND ", " OR ", "NOT (", "-", " IS NULL", " IS NOT NULL", " IN ", "'%'",
  " = ", " != ", " < ", " <= ", " > ", " >= ", " + ", " - ", " * ", " / ", " % ", " LIKE ",
  "CONCAT", "IF", "NOW", "UTC_TIMESTAMP", "CURDATE", "UUID", "YEAR", "MONTH", "DAY", "HOUR",
  "MINUTE", "SECOND", "DAYOFWEEK", "DAYOFYEAR", "UPPER", "LOWER", "TRIM"]

/-- Whether the field is declared or mapped. -/
def Environment.Has (env : Environment) (field : String) : Prop :=
  field ∈ env.fields.names ∨ field ∈ env.mappings.names

/-- What a text may be drawn from: the row, the commands, and the counts of a page. -/
structure Sources where
  env : Environment
  commands : List Command
  counts : List UInt64

/-- The texts that generated SQL is put together from. -/
inductive Drawn (sources : Sources) : String → Prop
  | word {text : String} (known : text ∈ Sql.vocabulary) : Drawn sources text
  | placeholder (position : Nat) : Drawn sources (Sql.parameterName position)
  | numeral {count : UInt64} (counted : count ∈ sources.counts) :
      Drawn sources (toString count.toNat)
  | tableAlias (index : Nat) : Drawn sources (Sql.quoteIdentifier (Sql.tableAlias index))
  | command {command : Command} (configured : command ∈ sources.commands) :
      Drawn sources command.sql
  | name {field : String} (has : sources.env.Has field) :
      Drawn sources (Sql.quoteIdentifier field)
  | column {field : String} (has : sources.env.Has field) :
      Drawn sources (sources.env.resolve field).text

/-- The text is one drawn text after the other. -/
def Composed (sources : Sources) (text : String) : Prop :=
  ∃ parts, (∀ part ∈ parts, Drawn sources part) ∧ text = String.join parts

/-! ## Pieces -/

namespace Sql

/-- What a piece is written as after this many values. -/
def Piece.textAt (position : Nat) : Piece → String
  | .words text => text
  | .name identifier => quoteIdentifier identifier
  | .verbatim text => text
  | .value _ => parameterName position

/-- The piece is written as a drawn text wherever it stands. -/
def Piece.IsDrawn (sources : Sources) (piece : Piece) : Prop :=
  ∀ position, Drawn sources (piece.textAt position)

theorem written_textAt {pieces : List Piece} :
    ∀ {position : Nat} {pair : Piece × String}, pair ∈ written position pieces →
      pair.1 ∈ pieces ∧ ∃ before, pair.2 = pair.1.textAt before := by
  induction pieces with
  | nil => exact nofun
  | cons piece rest ih =>
    intro position pair mem
    cases piece <;>
    · rcases List.mem_cons.1 mem with rfl | mem
      · exact ⟨List.mem_cons_self, position, rfl⟩
      · exact ⟨List.mem_cons_of_mem _ (ih mem).1, (ih mem).2⟩

/-- All pieces are written as drawn texts. -/
abbrev AreDrawn (sources : Sources) (pieces : List Piece) : Prop :=
  ∀ piece ∈ pieces, piece.IsDrawn sources

variable {sources : Sources}

/-- Drawn pieces compose their text. -/
theorem composed_text {pieces : List Piece} (drawn : AreDrawn sources pieces) :
    Composed sources (text pieces) := by
  refine ⟨(written 0 pieces).map Prod.snd, fun part mem => ?_, text_eq pieces⟩
  obtain ⟨pair, isWritten, rfl⟩ := List.mem_map.1 mem
  obtain ⟨isPiece, before, same⟩ := written_textAt isWritten
  rw [same]
  exact drawn pair.1 isPiece before

theorem isDrawn_words {word : String} (known : word ∈ vocabulary) :
    (Piece.words word).IsDrawn sources := fun _ => .word known

theorem isDrawn_name {field : String} (has : sources.env.Has field) :
    (Piece.name field).IsDrawn sources := fun _ => .name has

theorem areDrawn_cons {piece : Piece} {rest : List Piece} (first : piece.IsDrawn sources)
    (others : AreDrawn sources rest) : AreDrawn sources (piece :: rest) :=
  List.forall_mem_cons.2 ⟨first, others⟩

theorem areDrawn_append {a b : List Piece} (first : AreDrawn sources a)
    (second : AreDrawn sources b) : AreDrawn sources (a ++ b) :=
  List.forall_mem_append.2 ⟨first, second⟩

theorem areDrawn_enclosed {opening closing : String} {pieces : List Piece}
    (opens : opening ∈ vocabulary) (inside : AreDrawn sources pieces)
    (closes : closing ∈ vocabulary) :
    AreDrawn sources (.words opening :: pieces ++ [.words closing]) :=
  areDrawn_append (areDrawn_cons (isDrawn_words opens) inside)
    (areDrawn_cons (isDrawn_words closes) nofun)

theorem areDrawn_separated {word : String} (known : word ∈ vocabulary) {parts : List (List Piece)}
    (drawn : ∀ part ∈ parts, AreDrawn sources part) :
    AreDrawn sources (separated (.words word) parts) := by
  induction parts with
  | nil => exact nofun
  | cons part rest ih =>
    rw [List.forall_mem_cons] at drawn
    cases rest with
    | nil => exact drawn.1
    | cons next rest =>
      rw [separated_cons]
      exact areDrawn_append drawn.1 (areDrawn_cons (isDrawn_words known) (ih drawn.2))

/-! ## Expressions -/

theorem operator_mem_vocabulary (op : Operator) : " " ++ op.word ++ " " ∈ vocabulary := by
  cases op with
  | comparison op => cases op <;> decide
  | calculation op => cases op <;> decide
  | like => decide

theorem function_mem_vocabulary (f : Function) : f.word ∈ vocabulary := by
  cases f <;> decide

/-- The column is that of a field of the row. -/
def Column.IsOf (env : Environment) (column : Column) : Prop :=
  ∃ field, env.Has field ∧ column = env.resolve field

theorem Column.IsOf.isDrawn {column : Column} (known : column.IsOf sources.env) :
    column.piece.IsDrawn sources := by
  obtain ⟨field, has, rfl⟩ := known
  intro position
  have written : (sources.env.resolve field).piece.textAt position = (sources.env.resolve field).text := by
    rw [Column.text, text_eq]
    cases sources.env.resolve field <;> simp [piece, Piece.textAt, written, joined]
  rw [written]
  exact .column has

/-- What is generated from the columns of the row is written as drawn texts. -/
theorem Expression.Generated.areDrawn {e : Expression}
    (generated : e.Generated fun column => column.IsOf sources.env) : AreDrawn sources e.pieces := by
  have opens : "(" ∈ vocabulary := by decide
  have closes : ")" ∈ vocabulary := by decide
  have comma : ", " ∈ vocabulary := by decide
  have node : ∀ {word : String} {left right : List Piece}, word ∈ vocabulary →
      AreDrawn sources left → AreDrawn sources right →
        AreDrawn sources (.words "(" :: left ++ .words word :: right ++ [.words ")"]) := by
    intro word left right known inLeft inRight
    have inside := areDrawn_append inLeft (areDrawn_cons (isDrawn_words known) inRight)
    exact areDrawn_enclosed opens inside closes
  induction generated with
  | column known => exact areDrawn_cons known.isDrawn nofun
  | value _ => exact areDrawn_cons (fun position => .placeholder position) nofun
  | wildcard => exact areDrawn_cons (isDrawn_words (by decide)) nofun
  | and _ _ inLeft inRight => exact node (by decide) inLeft inRight
  | or _ _ inLeft inRight => exact node (by decide) inLeft inRight
  | binary op _ _ inLeft inRight => exact node (operator_mem_vocabulary op) inLeft inRight
  | not _ inside => exact areDrawn_enclosed (by decide) inside closes
  | unary op _ inside =>
    have test : ∀ {word : String} {pieces : List Piece}, word ∈ vocabulary →
        AreDrawn sources pieces →
          AreDrawn sources (.words "(" :: pieces ++ [.words word, .words ")"]) := by
      intro word pieces known inside
      exact areDrawn_append (areDrawn_cons (isDrawn_words opens) inside)
        (areDrawn_cons (isDrawn_words known) (areDrawn_cons (isDrawn_words closes) nofun))
    cases op with
    | isNull => exact test (by decide) inside
    | isNotNull => exact test (by decide) inside
    | negate =>
      exact areDrawn_cons (isDrawn_words (by decide))
        (areDrawn_enclosed opens inside closes)
  | inList _ _ _ inItem inItems =>
    have items := areDrawn_separated comma (List.forall_mem_map.2 inItems)
    rw [← Expression.allPieces_eq_map] at items
    have list := areDrawn_cons (isDrawn_words (by decide : " IN " ∈ vocabulary))
      (areDrawn_cons (isDrawn_words opens) items)
    exact areDrawn_enclosed opens (areDrawn_append inItem list) (by decide)
  | function f _ inArgs =>
    have args := areDrawn_separated comma (List.forall_mem_map.2 inArgs)
    rw [← Expression.allPieces_eq_map] at args
    exact areDrawn_cons (isDrawn_words (function_mem_vocabulary f))
      (areDrawn_enclosed opens args closes)

/-! ## Clauses -/

theorem Filter.areDrawn {filter : Filter}
    (generated : ∀ e ∈ filter.conditions, e.Generated fun column => column.IsOf sources.env) :
    AreDrawn sources filter.pieces := by
  unfold Filter.pieces
  split
  · exact nofun
  · have clause : filter.clause.word ∈ vocabulary := by
      cases filter.clause <;> decide
    refine areDrawn_cons (isDrawn_words clause) (areDrawn_separated (by decide) ?_)
    exact List.forall_mem_map.2 fun e mem => (generated e mem).areDrawn

theorem orderByPieces_areDrawn {keys : List (Expression × Direction)}
    (columns : ∀ key ∈ keys, key.1.Generated fun column => column.IsOf sources.env) :
    AreDrawn sources (orderByPieces keys) := by
  unfold orderByPieces
  split
  · exact nofun
  · refine areDrawn_cons (isDrawn_words (by decide))
      (areDrawn_separated (by decide) (List.forall_mem_map.2 fun key mem => ?_))
    have direction : " " ++ key.2.keyword ∈ vocabulary := by
      cases key.2 <;> decide
    exact areDrawn_append (columns key mem).areDrawn
      (areDrawn_cons (isDrawn_words direction) nofun)

/-- The counts that the clause is written with. -/
def Limit.counts (limit : Limit) : List UInt64 :=
  [limit.limit.getD maxRows, limit.offset.getD 0]

theorem Limit.areDrawn {limit : Limit} (counted : sources.counts = limit.counts) :
    AreDrawn sources limit.pieces := by
  have word : (Piece.words "LIMIT ").IsDrawn sources := isDrawn_words (by decide)
  have rows : (numeral (limit.limit.getD maxRows)).IsDrawn sources :=
    fun _ => .numeral (by simp [counted, counts])
  have offset : (numeral (limit.offset.getD 0)).IsDrawn sources :=
    fun _ => .numeral (by simp [counted, counts])
  unfold Limit.pieces
  split
  · exact nofun
  · rename_i count isCount _
    rw [isCount] at rows
    exact areDrawn_cons word (areDrawn_cons rows nofun)
  · rename_i start isOffset
    rw [(Option.filter_eq_some_iff.1 isOffset).1] at offset
    exact areDrawn_cons word (areDrawn_cons rows
      (areDrawn_cons (isDrawn_words (by decide)) (areDrawn_cons offset nofun)))

theorem trailing_areDrawn {texts : List String}
    (configured : ∀ text ∈ texts, ∃ command ∈ sources.commands, command.sql = text) :
    AreDrawn sources (trailing texts) := by
  intro piece mem
  obtain ⟨text, isText, mem⟩ := List.mem_flatMap.1 mem
  obtain ⟨command, isCommand, rfl⟩ := configured text isText
  have parts : AreDrawn sources [.words " ", .verbatim command.sql] :=
    areDrawn_cons (isDrawn_words (by decide))
      (areDrawn_cons (fun _ => .command isCommand) nofun)
  exact parts piece mem

theorem SelectList.areDrawn {list : SelectList}
    (listed : ∀ item ∈ list.columns, ∃ field, sources.env.Has field ∧
      item = (field, .column (sources.env.resolve field)))
    (configured : ∀ text ∈ list.after, ∃ command ∈ sources.commands, command.sql = text) :
    AreDrawn sources list.pieces := by
  have items : ∀ item ∈ list.columns,
      AreDrawn sources (item.2.pieces ++ [.words " AS ", .name item.1]) := by
    intro item mem
    obtain ⟨field, has, rfl⟩ := listed item mem
    have column : Column.IsOf sources.env (sources.env.resolve field) := ⟨field, has, rfl⟩
    exact areDrawn_append (areDrawn_cons column.isDrawn nofun)
      (areDrawn_cons (isDrawn_words (by decide)) (areDrawn_cons (isDrawn_name has) nofun))
  unfold SelectList.pieces
  simp only
  refine areDrawn_append (areDrawn_cons (isDrawn_words (by decide)) ?_)
    (trailing_areDrawn configured)
  split
  · exact areDrawn_cons (isDrawn_words (by decide)) nofun
  · exact areDrawn_separated (by decide) (List.forall_mem_map.2 items)

theorem OuterSelect.opening_areDrawn {select : OuterSelect} {index : Nat}
    (isAlias : select.table = tableAlias index)
    (configured : ∀ text ∈ select.after, ∃ command ∈ sources.commands, command.sql = text)
    (selected : ∀ names, select.list = .columns names → ∀ name ∈ names, sources.env.Has name) :
    AreDrawn sources select.opening := by
  have list : AreDrawn sources select.listPieces := by
    unfold OuterSelect.listPieces
    split
    · rename_i names isList
      refine areDrawn_separated (by decide) (List.forall_mem_map.2 fun name mem => ?_)
      have table : (Piece.name select.table).IsDrawn sources := by
        rw [isAlias]
        exact fun _ => .tableAlias index
      exact areDrawn_cons table (areDrawn_cons (isDrawn_words (by decide))
        (areDrawn_cons (isDrawn_name (selected names isList name mem)) nofun))
    · exact areDrawn_cons (isDrawn_words (by decide)) nofun
  exact areDrawn_append
    (areDrawn_append (areDrawn_cons (isDrawn_words (by decide)) list)
      (trailing_areDrawn configured))
    (areDrawn_cons (isDrawn_words (by decide)) nofun)

theorem OuterSelect.closing_areDrawn {select : OuterSelect} {index : Nat}
    (isAlias : select.table = tableAlias index) : AreDrawn sources select.closing := by
  refine areDrawn_cons (isDrawn_words (by decide)) (areDrawn_cons ?_ nofun)
  rw [isAlias]
  exact fun _ => .tableAlias index

end Sql

/-! ## Fields of the row -/

theorem Dictionary.mem_names_of_lookup {α : Type} {d : Dictionary α} {name : String}
    (found : (d.lookup name).isSome = true) : name ∈ d.names := by
  obtain ⟨entry, mem, same⟩ := List.lookup_isSome_iff.1 found
  rw [beq_iff_eq.1 same]
  exact List.mem_map_of_mem mem

/-- Where fields are declared, the row knows no others than the declared and the mapped ones. -/
theorem Environment.has_of_knows {env : Environment} {field : String}
    (declared : env.fields.isEmpty = false) (known : env.knows field = true) : env.Has field := by
  rw [knows, declared, Bool.false_or, Bool.or_eq_true] at known
  exact known.imp Dictionary.mem_names_of_lookup Dictionary.mem_names_of_lookup

/-! ## Sort keys -/

namespace SortKey

variable {env : Environment}

/-- The key sorts by the column of a field of the row. -/
def IsResolved (env : Environment) (key : SortKey) : Prop :=
  env.knows key.field = true ∧ key.column = env.resolve key.field

theorem isResolved_ofStep {step : SortStep} {index : Nat} {key : SortKey}
    (compiled : ofStep env step index = .ok key) : key.IsResolved env := by
  unfold ofStep at compiled
  split at compiled
  · obtain ⟨column, isColumn, same⟩ := Except.bind_eq_ok.1 compiled
    cases same
    exact Environment.of_column isColumn
  · cases compiled

theorem isResolved_ofSteps {steps : List SortStep} :
    ∀ {index : Nat} {keys : List (SortKey × Bool)}, ofSteps env index steps = .ok keys →
      ∀ pair ∈ keys, pair.1.IsResolved env := by
  induction steps with
  | nil =>
    intro index keys compiled
    cases compiled
    exact nofun
  | cons step rest ih =>
    intro index keys compiled
    obtain ⟨later, areLater, compiled⟩ := Except.bind_eq_ok.1 compiled
    obtain ⟨key, isKey, same⟩ := Except.bind_eq_ok.1 compiled
    cases same
    exact List.forall_mem_cons.2 ⟨isResolved_ofStep isKey, ih areLater⟩

/-- Rows are ordered by columns of the row. -/
theorem ordering_columns {steps : List SortStep} {keys : List SortKey}
    (ordered : ordering env steps = .ok keys) : ∀ key ∈ keys, key.IsResolved env := by
  intro key mem
  obtain ⟨pairs, arePairs, -, rfl⟩ := ordering_eq_ok.1 ordered
  have inChains : key ∈ (chains pairs).2.flatten := by simpa using List.mem_of_mem_filter mem
  have isKey : key ∈ pairs.map Prod.fst := by
    rw [← chains_flatten]
    exact List.mem_append_right _ inChains
  obtain ⟨pair, isPair, rfl⟩ := List.mem_map.1 isKey
  exact isResolved_ofSteps arePairs pair isPair

end SortKey

/-! ## Selected names -/

namespace Projection

variable {env : Environment}

/-- All selected fields are fields of the row. -/
def IsKnown (env : Environment) (state : Projection Row) : Prop :=
  ∀ field ∈ state.selected, env.knows field = true

/-- What two steps keep, their sequence keeps, whether or not the first one fails. -/
theorem isKnown_andThen {first : Outcome Row} {second : Projection Row → Outcome Row}
    (known : first.1.IsKnown env)
    (kept : ∀ {state : Projection Row}, state.IsKnown env → (second state).1.IsKnown env) :
    (first.andThen second).1.IsKnown env := by
  unfold Outcome.andThen
  split
  · exact kept known
  · exact known

theorem isKnown_selectIfSimple {state : Projection Row} (known : state.IsKnown env)
    (field : String) : (state.selectIfSimple env field).1.IsKnown env := by
  unfold selectIfSimple
  split
  · rename_i simple isSimple
    obtain ⟨_, checked, -⟩ := Except.bind_eq_ok.1 isSimple
    simp only
    split
    · unfold select
      split
      · exact known
      · exact List.forall_mem_append.2
          ⟨known, List.forall_mem_singleton.2 (Environment.of_check checked)⟩
    · exact known
  · exact known

theorem isKnown_selectMembers (members : List Predicate) :
    ∀ {state : Projection Row}, state.IsKnown env →
      (state.selectMembers env members).1.IsKnown env := by
  induction members with
  | nil => exact fun known => known
  | cons member rest ih =>
    intro state known
    unfold selectMembers
    split
    · exact isKnown_andThen (isKnown_selectIfSimple known _) ih
    · exact ih known

theorem isKnown_narrow {state : Projection Row} (known : state.IsKnown env) :
    state.narrow.1.IsKnown env := by
  unfold narrow
  split <;> exact known

theorem isKnown_selectShape {state : Projection Row} (known : state.IsKnown env) (shape : Shape) :
    (state.selectShape env shape).1.IsKnown env := by
  cases shape with
  | row => exact known
  | field field =>
    exact isKnown_andThen (isKnown_narrow known) fun known => isKnown_selectIfSimple known field
  | composite members =>
    exact isKnown_andThen (isKnown_narrow known) (isKnown_selectMembers members)

theorem isKnown_collect {state : Projection Row} (known : state.IsKnown env)
    (mutators : List (Row → Row)) (mutator : Option Nat) :
    (state.collect mutators mutator).1.IsKnown env := by
  unfold collect
  split
  · exact known
  · split <;> exact known

theorem isKnown_project {state : Projection Row} (known : state.IsKnown env)
    (mutators : List (Row → Row)) (shape : Shape) (mutator : Option Nat) :
    (state.project env mutators shape mutator).1.IsKnown env :=
  isKnown_andThen (isKnown_collect known mutators mutator) fun known =>
    isKnown_selectShape known shape

end Projection

/-! ## Statements -/

/-- The texts of the commands are those of the configured commands. -/
theorem Command.configured_of_inRegion {region : Region} {commands : List Command} {text : String}
    (mem : text ∈ Command.inRegion region commands) : ∃ command ∈ commands, command.sql = text := by
  obtain ⟨command, inRegion, same⟩ := List.mem_map.1 mem
  exact ⟨command, List.mem_of_mem_filter inRegion, same⟩

theorem Composed.append {sources : Sources} {a b : String} (first : Composed sources a)
    (second : Composed sources b) : Composed sources (a ++ b) := by
  obtain ⟨parts, areDrawn, rfl⟩ := first
  obtain ⟨others, othersDrawn, rfl⟩ := second
  exact ⟨parts ++ others, List.forall_mem_append.2 ⟨areDrawn, othersDrawn⟩, by simp⟩

namespace Assembly

open Sql

variable {env : Environment} {sources : Sources} {selected : List String}

theorem listedFields_has (has : ∀ field ∈ selected, env.Has field) :
    ∀ field ∈ listedFields env selected, env.Has field := by
  unfold listedFields
  split
  · exact has
  · split
    · exact fun field mem => .inr mem
    · exact fun field mem => .inl mem

theorem listClause_areDrawn {clauses : Clauses}
    (has : ∀ field ∈ clauses.selected, sources.env.Has field) :
    AreDrawn sources (listClause sources.env sources.commands clauses) := by
  unfold listClause
  split
  · refine SelectList.areDrawn ?_ fun text mem => Command.configured_of_inRegion mem
    exact List.forall_mem_map.2 fun field mem => ⟨field, listedFields_has has field mem, rfl⟩
  · exact nofun

/-- What is put around a statement is composed. -/
theorem body_composed (has : ∀ field ∈ selected, sources.env.Has field) (output : Output)
    (inner : String) :
    ∃ opening closing, Composed sources opening ∧ Composed sources closing ∧
      body sources.env sources.commands selected output inner = opening ++ inner ++ closing := by
  have wrapped : ∀ (list : OuterList) (after : List String),
      (∀ text ∈ after, ∃ command ∈ sources.commands, command.sql = text) →
      (∀ names, list = .columns names → names = selected) →
      ∃ opening closing, Composed sources opening ∧ Composed sources closing ∧
        wrap inner list after = opening ++ inner ++ closing := by
    intro list after configured isSelected
    refine ⟨_, _, composed_text ?_, composed_text ?_, OuterSelect.text_pieces _⟩
    · refine OuterSelect.opening_areDrawn rfl configured fun names isList => ?_
      rw [isSelected names isList]
      exact has
    · exact OuterSelect.closing_areDrawn rfl
  cases output with
  | count => exact wrapped .countStar [] nofun nofun
  | rows =>
    unfold body
    simp only
    split
    · exact ⟨"", "", ⟨[], nofun, rfl⟩, ⟨[], nofun, rfl⟩, by simp⟩
    · refine wrapped _ _ (fun text mem => Command.configured_of_inRegion mem) fun names same => ?_
      cases same
      rfl

end Assembly

/-- What generated SQL of a query is drawn from, besides the counts of its page. -/
def Query.sources (query : Query Row) (counts : List UInt64) : Sources :=
  ⟨query.environment, query.commands, counts⟩

namespace Statement

/-- The clauses of a statement in their order, the base query and the commands among them. -/
def inner (statement : Statement) (query : Query Row) (output : Output) : String :=
  let filtered :=
    if query.allColumnsMapped then statement.filterSql :: Assembly.groupings query.commands
    else Assembly.groupings query.commands ++ [statement.filterSql]
  let page := match output with
    | .rows => [statement.orderBySql, statement.limitSql]
    | .count => []
  Assembly.lines ([statement.selectSql, Assembly.trimStatement query.baseSql] ++ filtered ++ page)

/-- All that is generated is composed: the clauses of the statement, of which only that of the
page has numbers, and what is put around them. -/
structure TextsComposed (statement : Statement) (query : Query Row) (output : Output)
    (page : Sql.Limit) : Prop where
  selectSql : Composed (query.sources []) statement.selectSql
  filterSql : Composed (query.sources []) statement.filterSql
  orderBySql : Composed (query.sources []) statement.orderBySql
  limitSql : Composed (query.sources page.counts) statement.limitSql
  wrapper : ∃ opening closing, Composed (query.sources []) opening ∧
    Composed (query.sources []) closing ∧
    statement.statementSql = opening ++ statement.inner query output ++ closing

end Statement

namespace Query

variable {query : Query Row}

/-- One operation selects no fields but those of the row. -/
theorem advance_selected {before after : Progress Row} {operation : Operation}
    (advanced : query.advance before operation = .ok after)
    (known : before.projection.IsKnown query.environment) :
    after.projection.IsKnown query.environment := by
  cases advance_eq_ok.1 advanced with
  | @project shape mutator projection projects =>
    have kept := Projection.isKnown_project known query.mutators shape mutator
    rw [projects] at kept
    exact kept
  | filter | sortBy | thenSortBy | skip | take => exact known

/-- A plan selects no fields but those of the row. -/
theorem progress_selected {progress : Progress Row} (compiled : query.progress = .ok progress) :
    progress.projection.IsKnown query.environment := by
  refine Except.foldlM_induction (motive := fun _ (before after : Progress Row) =>
    before.projection.IsKnown query.environment → after.projection.IsKnown query.environment)
    ?_ ?_ compiled nofun
  · exact fun _ known => known
  · exact fun first later known => later (advance_selected first known)

/-- Names that the clauses of a plan hold are of fields of the row. -/
theorem clauses_known {clauses : Clauses} {transform : ItemTransform Row}
    (compiled : query.clauses = .ok (clauses, transform)) :
    (∀ key ∈ clauses.order, key.IsResolved query.environment) ∧
      ∀ field ∈ clauses.selected, query.environment.knows field = true := by
  obtain ⟨progress, order, isProgress, isOrder, rfl, -⟩ := clauses_eq_ok.1 compiled
  exact ⟨SortKey.ordering_columns isOrder, progress_selected isProgress⟩

/-- A statement is composed where its clauses have the columns and names of the row only. -/
theorem statement_textsComposed {clauses : Clauses} {output : Output} {statement : Statement}
    (compiled : query.statement clauses output = .ok statement)
    (conditions : ∀ e ∈ clauses.conditions,
      e.Generated fun column => column.IsOf query.environment)
    (order : ∀ key ∈ clauses.order, key.column.IsOf query.environment)
    (selected : ∀ field ∈ clauses.selected, query.environment.Has field) :
    statement.TextsComposed query output clauses.limit := by
  have assembled := (statement_assembly compiled).1
  constructor
  case selectSql =>
    rw [assembled, Assembly.assemble_selectSql]
    exact Sql.composed_text (Assembly.listClause_areDrawn selected)
  case filterSql =>
    rw [assembled]
    exact Sql.composed_text (Sql.Filter.areDrawn conditions)
  case orderBySql =>
    rw [assembled]
    refine Sql.composed_text (Sql.orderByPieces_areDrawn ?_)
    exact List.forall_mem_map.2 fun key mem => .column (order key mem)
  case limitSql =>
    rw [assembled]
    exact Sql.composed_text (Sql.Limit.areDrawn rfl)
  case wrapper =>
    have inner : statement.inner query output = Assembly.lines
        (Assembly.clauseTexts query.environment query.baseSql query.commands clauses output) := by
      unfold Statement.inner
      rw [assembled, Assembly.assemble_selectSql]
      cases output <;> rfl
    have has : ∀ field ∈ clauses.selected, (query.sources []).env.Has field := selected
    obtain ⟨opening, closing, opens, closes, same⟩ :=
      Assembly.body_composed has output (statement.inner query output)
    have terminator : Composed (query.sources []) ";" :=
      ⟨[";"], List.forall_mem_singleton.2 (.word (by decide)), rfl⟩
    refine ⟨opening, closing ++ ";", opens, closes.append terminator, ?_⟩
    rw [← String.append_assoc, ← same, inner, assembled, Assembly.assemble_statementSql]
    rfl

/-- **What a plan says is not written into SQL.**  Where the row is declared, all generated text
is composed of words, numbers, placeholders, aliases and commands, and of the names of declared
and mapped fields and what these are read from.  Only the clause of the page has counts. -/
theorem compileAs_textsComposed {output : Output} {statement : Statement}
    (declared : query.fields.isEmpty = false)
    (compiled : query.compileAs output = .ok statement) :
    ∃ clauses transform, query.clauses = .ok (clauses, transform) ∧
      statement.TextsComposed query output clauses.limit := by
  obtain ⟨clauses, transform, areClauses, isStatement⟩ := compileAs_statement compiled
  have columns : ∀ field, query.environment.knows field = true →
      (query.environment.resolve field).IsOf query.environment :=
    fun field known => ⟨field, Environment.has_of_knows declared known, rfl⟩
  have conditions := filterConditions_generatedFrom columns (clauses_conditions areClauses)
  obtain ⟨resolved, selected⟩ := clauses_known areClauses
  have order : ∀ key ∈ clauses.order, key.column.IsOf query.environment := by
    intro key mem
    obtain ⟨known, same⟩ := resolved key mem
    rw [same]
    exact columns key.field known
  have has : ∀ field ∈ clauses.selected, query.environment.Has field :=
    fun field mem => Environment.has_of_knows declared (selected field mem)
  refine ⟨clauses, transform, areClauses, ?_⟩
  have composed := statement_textsComposed isStatement
  cases output with
  | rows => exact composed conditions order has
  | count => exact composed conditions order nofun

/-- The totals of one customer, whose name would end a string and begin a comment. -/
def totalsOfOne : Query Nat :=
  (Query.ofSql "SELECT * FROM orders")
    |>.withFields (.ofList [("Name", ⟨.string, false, none⟩)])
    |>.mapField "Total" (.mapped "Amount + 0")
    |>.filter (.call "StartsWith" (some (.field "Name")) [.literal (.string "' OR 1 = 1 -- ")] false)
    |>.sortBy (.field "Total") .descending
    |>.project (Shape.fields ["Name", "Total"])
    |>.take 10

theorem compileAs_totalsOfOne :
    totalsOfOne.fields.isEmpty = false ∧
      ∃ statement clauses transform, totalsOfOne.compileAs .rows = .ok statement ∧
        statement.statementSql = "SELECT `t0`.`Name`, `t0`.`Total` FROM (SELECT * FROM orders\n"
          ++ "HAVING (`Name` LIKE CONCAT(@P1000, '%'))\n"
          ++ "ORDER BY Amount + 0 DESC\nLIMIT 10) AS `t0`;" ∧
        totalsOfOne.clauses = .ok (clauses, transform) ∧
        statement.TextsComposed totalsOfOne .rows clauses.limit := by
  have written : ((totalsOfOne.compileAs .rows).toOption.map fun statement =>
      statement.statementSql) = some ("SELECT `t0`.`Name`, `t0`.`Total` FROM (SELECT * FROM orders\n"
        ++ "HAVING (`Name` LIKE CONCAT(@P1000, '%'))\n"
        ++ "ORDER BY Amount + 0 DESC\nLIMIT 10) AS `t0`;") := by
    decide +kernel
  obtain ⟨statement, compiled, isStatement⟩ := Except.toOption_map_eq_some.1 written
  obtain ⟨clauses, transform, areClauses, composed⟩ := compileAs_textsComposed rfl compiled
  exact ⟨rfl, statement, clauses, transform, compiled, isStatement, areClauses, composed⟩

end Query

end PlanCompiler
