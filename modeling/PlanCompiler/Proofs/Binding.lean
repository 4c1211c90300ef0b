/-
# Proofs.Binding -- every compiled statement can be bound

The placeholders that a statement binds are those of its parameters, in their order,
as long as the texts of the caller are clean (`compileAs_bindable`).  Clauses stand on
lines of their own, so what trimming leaves of a comment ends with its line
(`settles_lines`); and what follows the last clause holds no name.

All values are bound before a connection is asked for, so whether they can be does not
depend on the pool (`Execution.execute_error`).
-/
import PlanCompiler.Execute.Fetch
import PlanCompiler.Proofs.PassingPieces

namespace PlanCompiler

set_option autoImplicit false

open Placeholder

/-! ## Lines -/

namespace Assembly

open Sql

/-- After the end of a line, what leaves nothing open is code. -/
theorem scan_newline {text : List Char} (closed : (scan .code (text ++ ['\n'])).isOpen = false) :
    scan .code (text ++ ['\n']) = .code := by
  rw [scan_append] at closed ⊢
  refine next_newline (scan_code_sound text) ?_
  rw [← Bool.not_eq_true]
  intro isOpen
  have still : ((scan .code text).next '\n').isOpen = true :=
    next_isOpen (by decide) (scan_code_sound text) isOpen
  rw [show scan (scan .code text) ['\n'] = (scan .code text).next '\n' from rfl, still] at closed
  cases closed

/-- A buffer at the beginning of a line. -/
theorem scan_lineStart {text : String} (closed : (scan .code text.toList).isOpen = false)
    (atStart : (text.isEmpty || text.toList.getLast? == some '\n') = true) :
    scan .code text.toList = .code := by
  rw [Bool.or_eq_true, beq_iff_eq] at atStart
  rcases atStart with empty | ends
  · rw [String.isEmpty_iff.1 empty]
    rfl
  · obtain ⟨line, same⟩ := List.getLast?_eq_some_iff.1 ends
    rw [same] at closed ⊢
    exact scan_newline closed

/-- What stands before an added clause leads to code, and has the names of the statement. -/
theorem exists_before_addClause {statement : Buffer} {clause : String}
    (closed : Closed statement.text) (nonempty : clause.isEmpty = false) :
    ∃ before, (addClause statement clause).text.toList = before ++ clause.toList ∧
      scan .code before = .code ∧
      generatedNames .code before = generatedNames .code statement.text.toList := by
  have added : addClause statement clause = statement.startLine.append clause := by
    rw [addClause, nonempty]
    rfl
  rw [added]
  unfold Buffer.startLine
  split
  · rename_i atStart
    refine ⟨statement.text.toList, ?_, scan_lineStart closed atStart, rfl⟩
    rw [Buffer.append, String.toList_append]
  · have back := next_newline (scan_code_sound statement.text.toList) closed
    have breaks : isBreak '\n' = true := rfl
    refine ⟨statement.text.toList ++ ['\n'], ?_, ?_, generatedNames_tail breaks List.not_mem_nil⟩
    · simp [Buffer.append]
    · rw [scan_append]
      exact back

/-- A settled clause on a line of its own keeps the statement settled. -/
theorem addClause_settles {statement : Buffer} {clause : String} {m n : List String}
    (before : Settles statement.text.toList m) (added : Settles clause.toList n) :
    Settles (addClause statement clause).text.toList (m ++ n) := by
  cases empty : clause.isEmpty with
  | true =>
    have nameless : n = [] := by
      rw [← added.names, String.isEmpty_iff.1 empty]
      rfl
    have same : addClause statement clause = statement := by
      rw [addClause, empty]
      rfl
    rw [nameless, List.append_nil, same]
    exact before
  | false =>
    obtain ⟨start, text, code, names⟩ := exists_before_addClause before.closed empty
    rw [text]
    constructor
    · rw [scan_append, code]
      exact added.closed
    · rw [generatedNames_append code, names, before.names, added.names]

theorem foldl_addClause_settles : ∀ (clauses : List String) {statement : Buffer} {m : List String},
    Settles statement.text.toList m →
    (∀ clause ∈ clauses, (scan .code clause.toList).isOpen = false) →
    Settles (clauses.foldl addClause statement).text.toList
      (m ++ clauses.flatMap fun clause => generatedNames .code clause.toList) := by
  intro clauses
  induction clauses with
  | nil =>
    intro statement m before _
    rw [List.flatMap_nil, List.append_nil]
    exact before
  | cons clause rest ih =>
    intro statement m before closed
    have added : Settles clause.toList (generatedNames .code clause.toList) :=
      ⟨closed clause List.mem_cons_self, rfl⟩
    rw [List.flatMap_cons, ← List.append_assoc]
    exact ih (addClause_settles before added) fun other mem =>
      closed other (List.mem_cons_of_mem _ mem)

/-- Clauses one below the other hold the names that they hold alone. -/
theorem settles_lines {clauses : List String}
    (closed : ∀ clause ∈ clauses, (scan .code clause.toList).isOpen = false) :
    Settles (lines clauses).toList
      (clauses.flatMap fun clause => generatedNames .code clause.toList) := by
  have empty : Settles Buffer.empty.text.toList [] := passes_nil.settles
  exact foldl_addClause_settles clauses empty closed

/-- A clause between others that hold no names. -/
theorem settles_between {before after : List String} {clause : String} {names : List String}
    (namelessBefore : ∀ other ∈ before, Settles other.toList [])
    (middle : Settles clause.toList names)
    (namelessAfter : ∀ other ∈ after, Settles other.toList []) :
    Settles (lines (before ++ clause :: after)).toList names := by
  have nothing : ∀ {others : List String}, (∀ other ∈ others, Settles other.toList []) →
      (others.flatMap fun other => generatedNames .code other.toList) = [] :=
    fun nameless => List.flatMap_eq_nil_iff.2 fun other mem => (nameless other mem).names
  have whole : Settles (lines (before ++ clause :: after)).toList
      ((before ++ clause :: after).flatMap fun other => generatedNames .code other.toList) := by
    refine settles_lines fun other mem => ?_
    rcases List.mem_append.1 mem with mem | mem
    · exact (namelessBefore other mem).closed
    · rcases List.mem_cons.1 mem with rfl | mem
      · exact middle.closed
      · exact (namelessAfter other mem).closed
  rw [List.flatMap_append, List.flatMap_cons, nothing namelessBefore, nothing namelessAfter,
    middle.names, List.nil_append, List.append_nil] at whole
  exact whole

/-! ## The statement -/

/-- The generated list of columns, if there is one. -/
def listClause (env : Environment) (commands : List Command) (clauses : Clauses) : List Piece :=
  if env.allColumnsMapped then
    (selectList env clauses.selected (Command.inRegion .afterSelectionColumns commands)).pieces
  else []

def filterClause (env : Environment) (clauses : Clauses) : List Piece :=
  Filter.pieces ⟨env.filterClause, clauses.conditions⟩

def groupings (commands : List Command) : List String :=
  (Command.inRegion .beforeGroupingOrHaving commands).map trimStatement

/-- The order and the page, which do not matter where rows are counted. -/
def pageTexts (clauses : Clauses) : Output → List String
  | .rows => [text (orderByPieces clauses.order), text clauses.limit.pieces]
  | .count => []

/-- The texts that are set one below the other. -/
def clauseTexts (env : Environment) (baseSql : String) (commands : List Command)
    (clauses : Clauses) (output : Output) : List String :=
  [text (listClause env commands clauses), trimStatement baseSql]
    ++ (if env.allColumnsMapped then text (filterClause env clauses) :: groupings commands
      else groupings commands ++ [text (filterClause env clauses)])
    ++ pageTexts clauses output

theorem assemble_selectSql (env : Environment) (baseSql : String) (commands : List Command)
    (clauses : Clauses) (output : Output) :
    (assemble env baseSql commands clauses output).selectSql =
      text (listClause env commands clauses) := by
  unfold listClause
  split
  · rename_i mapped
    exact if_pos mapped
  · rename_i unmapped
    exact if_neg unmapped

theorem assemble_statementSql (env : Environment) (baseSql : String) (commands : List Command)
    (clauses : Clauses) (output : Output) :
    (assemble env baseSql commands clauses output).statementSql =
      body env commands clauses.selected output
        (lines (clauseTexts env baseSql commands clauses output)) ++ ";" := by
  rw [clauseTexts, ← assemble_selectSql env baseSql commands clauses output]
  cases output <;> rfl

/-- The pieces that the plan adds to the base query, except for the page. -/
def emitted (env : Environment) (commands : List Command) (clauses : Clauses) :
    Output → List Piece
  | .count => listClause env commands clauses ++ filterClause env clauses
  | .rows => listClause env commands clauses ++ filterClause env clauses
      ++ orderByPieces clauses.order
      ++ if env.allColumnsMapped then [] else clauses.selected.map .name

/-- The texts of the caller that a statement is put together from. -/
def callerTexts (env : Environment) (baseSql : String) (commands : List Command)
    (clauses : Clauses) (output : Output) : List String :=
  baseSql :: commands.map Command.sql ++ Sql.callerTexts (emitted env commands clauses output)

section

variable {env : Environment} {baseSql : String} {commands : List Command} {clauses : Clauses}
  {output : Output}

theorem clean_region (clean : ∀ text ∈ callerTexts env baseSql commands clauses output, Clean text)
    (region : Region) : ∀ text ∈ Command.inRegion region commands, Clean text := by
  intro text mem
  obtain ⟨command, inRegion, rfl⟩ := List.mem_map.1 mem
  have isCommand : command.sql ∈ commands.map Command.sql :=
    List.mem_map_of_mem (List.mem_of_mem_filter inRegion)
  exact clean _ (List.mem_append_left _ (List.mem_cons_of_mem _ isCommand))

theorem clean_emitted
    (clean : ∀ text ∈ callerTexts env baseSql commands clauses output, Clean text) :
    ∀ text ∈ Sql.callerTexts (emitted env commands clauses output), Clean text :=
  fun text mem => clean text (List.mem_append_right _ mem)

/-- What holds of all texts of the caller holds of those in each clause. -/
theorem forall_clauses {motive : String → Prop}
    (all : ∀ text ∈ Sql.callerTexts (emitted env commands clauses output), motive text) :
    (∀ text ∈ Sql.callerTexts (listClause env commands clauses), motive text) ∧
      ∀ text ∈ Sql.callerTexts (filterClause env clauses), motive text := by
  cases output with
  | count => simpa only [emitted, callerTexts_append, List.forall_mem_append] using all
  | rows =>
    simp only [emitted, callerTexts_append, List.forall_mem_append] at all
    exact all.1.1

theorem forall_page {motive : String → Prop}
    (all : ∀ text ∈ Sql.callerTexts (emitted env commands clauses .rows), motive text) :
    (∀ text ∈ Sql.callerTexts (orderByPieces clauses.order), motive text) ∧
      (env.allColumnsMapped = false →
        ∀ text ∈ Sql.callerTexts (clauses.selected.map .name), motive text) := by
  simp only [emitted, callerTexts_append, List.forall_mem_append] at all
  refine ⟨all.1.2, fun unmapped => ?_⟩
  have inSelected := all.2
  rw [unmapped] at inSelected
  exact inSelected

/-- The generated list of columns, scanned apart from the other clauses. -/
theorem listClause_passApart
    (outside : ∀ text ∈ Sql.callerTexts (listClause env commands clauses), EndsOutside text) :
    PassApart 0 (listClause env commands clauses) := by
  unfold listClause at outside ⊢
  split
  · rename_i mapped
    rw [if_pos mapped] at outside
    exact SelectList.passApart (selectList_columns _ _ _) outside 0
  · exact passApart_nil 0

theorem listClause_values : values (listClause env commands clauses) = [] := by
  unfold listClause
  split
  · exact SelectList.values_pieces (selectList_columns _ _ _)
  · rfl

theorem listClause_settles
    (clean : ∀ text ∈ Sql.callerTexts (listClause env commands clauses), Clean text) :
    Settles (text (listClause env commands clauses)).toList [] := by
  have apart := listClause_passApart (endsOutside_of_clean clean)
  have settled := (apart.passFrom clean).settles
  rw [listClause_values] at settled
  exact settled

theorem pageTexts_settle
    (clean : ∀ text ∈ callerTexts env baseSql commands clauses output, Clean text) :
    ∀ clause ∈ pageTexts clauses output, Settles clause.toList [] := by
  cases output with
  | count => exact nofun
  | rows =>
    have inOrder := (forall_page (clean_emitted clean)).1
    have apart :=
      orderByPieces_passApart (SortKey.clause_columns _) (endsOutside_of_clean inOrder) 0
    have order := (apart.passFrom inOrder).settles
    have noTexts : ∀ text ∈ Sql.callerTexts clauses.limit.pieces, Clean text := by
      rw [clauses.limit.callerTexts_pieces]
      exact nofun
    have page := ((clauses.limit.passApart 0).passFrom noTexts).settles
    rw [orderByPieces_values (SortKey.clause_columns _)] at order
    rw [clauses.limit.values_pieces] at page
    rw [pageTexts, List.forall_mem_cons, List.forall_mem_singleton]
    exact ⟨order, page⟩

/-- Clean texts are settled on their lines, and only the filter has names. -/
theorem clauseTexts_settle (generated : ∀ e ∈ clauses.conditions, e.Generated fun _ => True)
    (clean : ∀ text ∈ callerTexts env baseSql commands clauses output, Clean text) :
    Settles (lines (clauseTexts env baseSql commands clauses output)).toList
      (namesFrom 0 (values (filterClause env clauses))) := by
  obtain ⟨inList, inFilter⟩ := forall_clauses (clean_emitted clean)
  have filter : Settles (text (filterClause env clauses)).toList
      (namesFrom 0 (values (filterClause env clauses))) :=
    ((Filter.passApart generated (endsOutside_of_clean inFilter) 0).passFrom inFilter).settles
  have first : ∀ clause ∈ [text (listClause env commands clauses), trimStatement baseSql],
      Settles clause.toList [] := by
    rw [List.forall_mem_cons, List.forall_mem_singleton]
    exact ⟨listClause_settles inList, (clean baseSql List.mem_cons_self).trimStatement⟩
  have grouping : ∀ clause ∈ groupings commands, Settles clause.toList [] := by
    intro clause mem
    obtain ⟨sql, isCommand, rfl⟩ := List.mem_map.1 mem
    exact (clean_region clean _ sql isCommand).trimStatement
  have last := pageTexts_settle clean
  have groupingLast := List.forall_mem_append.2 ⟨grouping, last⟩
  have firstGrouping := List.forall_mem_append.2 ⟨first, grouping⟩
  unfold clauseTexts
  split
  · have whole := settles_between first filter groupingLast
    simpa only [List.append_assoc, List.cons_append, List.nil_append] using whole
  · have whole := settles_between firstGrouping filter last
    simpa only [List.append_assoc, List.cons_append, List.nil_append] using whole

/-- The names in a statement are those of the values of its filter. -/
theorem statementSql_names (generated : ∀ e ∈ clauses.conditions, e.Generated fun _ => True)
    (clean : ∀ text ∈ callerTexts env baseSql commands clauses output, Clean text) :
    generatedNames .code (assemble env baseSql commands clauses output).statementSql.toList =
      namesFrom 0 (values (filterClause env clauses)) := by
  rw [← (clauseTexts_settle generated clean).names, assemble_statementSql, String.toList_append]
  have unwrapped : ∀ inner : String,
      generatedNames .code (inner.toList ++ [';']) = generatedNames .code inner.toList :=
    fun inner => generatedNames_tail (by decide) nofun
  cases output with
  | count =>
    refine OuterSelect.names_text rfl ?_
    rw [OuterSelect.callerTexts_opening rfl]
    exact nofun
  | rows =>
    unfold body
    simp only
    split
    · exact unwrapped _
    · rename_i wrapped
      rw [Bool.or_eq_true, not_or, Bool.not_eq_true] at wrapped
      refine OuterSelect.names_text rfl ?_
      rw [OuterSelect.callerTexts_opening rfl, List.forall_mem_append]
      exact ⟨(forall_page (clean_emitted clean)).2 wrapped.1, clean_region clean _⟩

end

end Assembly

/-! ## Values for names -/

namespace Statement

variable {statement : Statement}

/-- The names among the placeholders that look generated. -/
theorem names_filter (statement : Statement) :
    (Placeholder.ofStatement statement).names.filter isGenerated =
      (generatedNames .code statement.statementSql.toList).filter isGenerated := by
  have wanted : ∀ name,
      ((isGenerated name || (statement.parameter? name).isSome) && isGenerated name) =
        (looksGenerated name && isGenerated name) := by
    intro name
    by_cases generated : isGenerated name = true
    · simp [generated, isGenerated_looksGenerated generated]
    · simp [generated]
  calc (Placeholder.ofStatement statement).names.filter isGenerated
    _ = found (fun name => (isGenerated name || (statement.parameter? name).isSome)
          && isGenerated name) (tokens .code statement.statementSql.toList) := found_filter _ _ _
    _ = found (fun name => looksGenerated name && isGenerated name)
          (tokens .code statement.statementSql.toList) :=
      congrArg (found · _) (funext wanted)
    _ = _ := (found_filter _ _ _).symm

/-- A bound name has a value. -/
theorem parameter?_isSome {name : String} {value : Literal}
    (mem : (name, value) ∈ statement.allParameters) :
    (statement.parameter? name).isSome = true := by
  rw [parameter?, Option.isSome_map, List.find?_isSome]
  exact ⟨_, mem, Text.sameName_refl name⟩

/-- A value is one that was bound under this name, in whatever case of letters. -/
theorem exists_of_parameter? {name : String} {value : Literal}
    (found : statement.parameter? name = some value) :
    ∃ bound, (bound, value) ∈ statement.allParameters ∧ Text.sameName bound name = true := by
  obtain ⟨⟨bound, value'⟩, isFirst, same⟩ := Option.map_eq_some_iff.1 found
  cases same
  have isSame := List.find?_some isFirst
  exact ⟨bound, List.mem_of_find?_eq_some isFirst, isSame⟩

/-- The caller bound a collection to the name. -/
def CallerBindsCollection (statement : Statement) (name : String) : Prop :=
  ∃ bound items, (bound, Literal.array items) ∈ statement.callerParameters ∧
    Text.sameName bound name = true

/-- The placeholders of a statement are those of its generated parameters, in order, among those
of the caller, and each of them has a value.  On whichever pool the statement is executed, the
only values that it is refused for are collections of the caller. -/
structure Bindable (statement : Statement) : Prop where
  generated : (Placeholder.ofStatement statement).names.filter isGenerated =
    statement.parameters.entries.map Prod.fst
  distinct : (statement.parameters.entries.map Prod.fst).Nodup
  bound : ∀ name ∈ (Placeholder.ofStatement statement).names,
    (statement.parameter? name).isSome = true
  neverUnbound : ∀ (Record : Type) (pool : Acquisition Record) metrics name,
    (Execution.execute pool statement metrics).1 ≠ .error (.unboundParameter name)
  unsupported : ∀ (Record : Type) (pool : Acquisition Record) metrics name reason,
    (Execution.execute pool statement metrics).1 = .error (.unsupportedParameter name reason) →
      statement.CallerBindsCollection name

end Statement

namespace Execution

variable {statement : Statement}

/-- Names without a value cannot be bound, and neither can collections. -/
theorem valueOf_eq_error_iff {name : String} {e : ExecutionError} :
    valueOf statement name = .error e ↔
      (statement.parameter? name = none ∧ e = .unboundParameter name) ∨
        ∃ items, statement.parameter? name = some (.array items) ∧
          e = .unsupportedParameter name collectionReason := by
  unfold valueOf
  cases statement.parameter? name with
  | none => simp [eq_comm]
  | some value => cases value <;> simp [eq_comm]

/-- Only collections have values that cannot be bound. -/
theorem valueOf_error {name : String} {e : ExecutionError}
    (hasValue : (statement.parameter? name).isSome = true)
    (failed : valueOf statement name = .error e) :
    e = .unsupportedParameter name collectionReason ∧
      ∃ items, statement.parameter? name = some (.array items) := by
  rcases valueOf_eq_error_iff.1 failed with ⟨valueless, -⟩ | ⟨items, isArray, same⟩
  · rw [valueless] at hasValue
    cases hasValue
  · exact ⟨same, items, isArray⟩

/-- Where every name has a value, a statement fails for a collection, or else for what the pool
or its connection answers. -/
theorem execute_error {Record : Type} {pool : Acquisition Record} {metrics : Metrics}
    {e : ExecutionError}
    (bound : ∀ name ∈ (Placeholder.ofStatement statement).names,
      (statement.parameter? name).isSome = true)
    (failed : (execute pool statement metrics).1 = .error e) :
    (∃ inner, e = failure statement "Could not fetch rows" inner) ∨
      ∃ name items, e = .unsupportedParameter name collectionReason ∧
        statement.parameter? name = some (.array items) := by
  unfold execute at failed
  split at failed
  · rename_i e' isError
    cases failed
    obtain ⟨name, mem, isError⟩ := Except.exists_of_mapM_error isError
    obtain ⟨same, items, isArray⟩ := valueOf_error (bound name mem) isError
    exact .inr ⟨name, items, same, isArray⟩
  · split at failed <;> cases failed
    exact .inl ⟨_, rfl⟩

end Execution

/-! ## Queries -/

/-- The clauses that matter for what is returned. -/
def Clauses.forOutput (clauses : Clauses) : Output → Clauses
  | .rows => clauses
  | .count => { clauses with selected := [] }

namespace Query

variable {Row : Type}

/-- The statement that fetches the rows, or the one that counts them. -/
def compileAs (query : Query Row) : Output → Except CompileError Statement
  | .rows => Prod.fst <$> query.compile
  | .count => query.compileCount

/-- The texts of the caller that the statement of a query is put together from: its base query
and commands, and of the fragments and names those that are written as they are. -/
def callerTexts (query : Query Row) (output : Output) : List String :=
  match query.clauses with
  | .ok (clauses, _) => Assembly.callerTexts query.environment query.baseSql query.commands
      (clauses.forOutput output) output
  | .error _ => []

theorem compileAs_statement {query : Query Row} {output : Output} {statement : Statement}
    (compiled : query.compileAs output = .ok statement) :
    ∃ clauses transform, query.clauses = .ok (clauses, transform) ∧
      query.statement (clauses.forOutput output) output = .ok statement := by
  cases output with
  | rows =>
    obtain ⟨⟨first, transform'⟩, isCompiled, isFirst⟩ := Except.map_eq_ok.1 compiled
    cases isFirst
    obtain ⟨clauses, areClauses, isStatement⟩ := compile_eq_ok.1 isCompiled
    exact ⟨clauses, _, areClauses, isStatement⟩
  | count =>
    obtain ⟨clauses, transform, areClauses, isStatement⟩ := compileCount_eq_ok.1 compiled
    exact ⟨clauses, transform, areClauses, isStatement⟩

/-- The conditions that matter are generated. -/
theorem forOutput_generated {query : Query Row} {clauses : Clauses} {transform : ItemTransform Row}
    (compiled : query.clauses = .ok (clauses, transform)) (output : Output) :
    ∀ e ∈ (clauses.forOutput output).conditions, e.Generated fun _ => True := by
  have conditions : (clauses.forOutput output).conditions = clauses.conditions := by
    cases output <;> rfl
  rw [conditions]
  exact filterConditions_generated (clauses_conditions compiled)

/-- The names that look generated are those of the generated parameters. -/
theorem statement_names {query : Query Row} {clauses : Clauses} {output : Output}
    {statement : Statement} (generated : ∀ e ∈ clauses.conditions, e.Generated fun _ => True)
    (clean : ∀ text ∈ Assembly.callerTexts query.environment query.baseSql query.commands clauses
      output, Clean text)
    (compiled : query.statement clauses output = .ok statement) :
    generatedNames .code statement.statementSql.toList =
      statement.parameters.entries.map Prod.fst := by
  rw [(statement_assembly compiled).1, Assembly.statementSql_names generated clean,
    ← (statement_assembly compiled).1, statement_parameters compiled, Assembly.filterClause,
    Sql.Filter.values_pieces]
  rfl

theorem statement_bindable {query : Query Row} {clauses : Clauses} {output : Output}
    {statement : Statement} (generated : ∀ e ∈ clauses.conditions, e.Generated fun _ => True)
    (clean : ∀ text ∈ Assembly.callerTexts query.environment query.baseSql query.commands clauses
      output, Clean text)
    (compiled : query.statement clauses output = .ok statement) : statement.Bindable := by
  have numbered := statement_numbersParameters generated compiled
  have names : (Placeholder.ofStatement statement).names.filter isGenerated =
      statement.parameters.entries.map Prod.fst := by
    rw [Statement.names_filter, statement_names generated clean compiled, List.filter_eq_self,
      numbered.names]
    intro name mem
    obtain ⟨position, -, rfl⟩ := List.mem_map.1 mem
    exact isGenerated_parameterName position
  have bound : ∀ name ∈ (Placeholder.ofStatement statement).names,
      (statement.parameter? name).isSome = true := by
    intro name mem
    by_cases generated : isGenerated name = true
    · have isKey : name ∈ statement.parameters.entries.map Prod.fst := by
        rw [← names]
        exact List.mem_filter.2 ⟨mem, generated⟩
      obtain ⟨⟨key, value⟩, isEntry, rfl⟩ := List.mem_map.1 isKey
      exact Statement.parameter?_isSome (List.mem_append_left _ isEntry)
    · obtain ⟨token, -, isName⟩ := List.mem_filterMap.1 mem
      have wanted := Token.wanted_of_parameter? isName
      rw [Bool.or_eq_true] at wanted
      exact wanted.resolve_left generated
  constructor
  case generated => exact names
  case distinct => exact numbered.distinct
  case bound => exact bound
  case neverUnbound =>
    intro Record pool metrics name failed
    rcases Execution.execute_error bound failed with ⟨_, same⟩ | ⟨_, _, same, -⟩
    · cases same
    · cases same
  case unsupported =>
    intro Record pool metrics name reason failed
    rcases Execution.execute_error bound failed with ⟨_, same⟩ | ⟨name', items, same, isArray⟩
    · cases same
    · cases same
      obtain ⟨key, mem, sameName⟩ := Statement.exists_of_parameter? isArray
      rcases List.mem_append.1 mem with isEntry | isCaller
      · cases numbered.single _ isEntry
      · exact ⟨key, items, isCaller, sameName⟩

/-- **Every compiled statement can be bound.**  Where the texts of the caller are clean, the
placeholders of the statement are in the order of its parameters, and all have values, on whichever
pool it is executed. -/
theorem compileAs_bindable {query : Query Row} {output : Output} {statement : Statement}
    (compiled : query.compileAs output = .ok statement)
    (clean : ∀ text ∈ query.callerTexts output, Clean text) : statement.Bindable := by
  obtain ⟨clauses, transform, areClauses, compiled⟩ := compileAs_statement compiled
  have generated := forOutput_generated areClauses output
  have texts : query.callerTexts output = Assembly.callerTexts query.environment query.baseSql
      query.commands (clauses.forOutput output) output := by
    rw [callerTexts, areClauses]
  rw [texts] at clean
  exact statement_bindable generated clean compiled

/-- The large orders of one customer.  The base query mentions a generated name in a string and
another in a comment. -/
def largeOrders : Query Nat :=
  (Query.ofSql "SELECT *, '@P1' FROM orders WHERE Id = @Id -- @P2\n;")
    |>.mapField "Total" (.mapped "Total + 0")
    |>.filter (.greaterThan (.field "Total") (.literal (.int 100)))
    |>.filter (.notEquals (.field "Name") (.literal (.string "@P3")))
    |>.bindParameter "id" (.int 7)

theorem compileAs_largeOrders :
    (∀ text ∈ largeOrders.callerTexts .rows, Clean text) ∧
      ∃ statement, largeOrders.compileAs .rows = .ok statement ∧
        (Placeholder.ofStatement statement).names = ["@Id", "@P1000", "@P1001"] ∧
        statement.Bindable := by
  have clean : ∀ text ∈ largeOrders.callerTexts .rows, Clean text := by decide +kernel
  have names : ((largeOrders.compileAs .rows).toOption.map fun statement =>
      (Placeholder.ofStatement statement).names) = some ["@Id", "@P1000", "@P1001"] := by
    decide +kernel
  obtain ⟨statement, compiled, areNames⟩ := Except.toOption_map_eq_some.1 names
  exact ⟨clean, statement, compiled, areNames, compileAs_bindable compiled clean⟩

end Query

end PlanCompiler
