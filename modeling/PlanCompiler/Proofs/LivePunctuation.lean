/-
# Proofs.LivePunctuation -- the signs that end headers and statements

Behind a text of the caller stand signs of the language: the parenthesis and the alias of
a statement around a statement, and the semicolons.  They are `Live` where scanning leads
to them outside quotes and comments.

Clauses stand on lines of their own, so closed texts leave nothing to the clauses after
them, and the state at the end is that of the last clause alone (`scan_lines`).  A clause
that is generated ends outside.  But trimming takes the line end off a comment that ends
a base query or a command, and no new line is begun before what follows it.  So signs are
live unless such a comment stands right before them (`compileAs_punctuation`); then they
belong to it, as where the rows of `everyone` are counted.
-/
import PlanCompiler.Proofs.Binding

namespace PlanCompiler

set_option autoImplicit false

open Placeholder

/-! ## Live signs -/

namespace Placeholder

/-- Outside quotes and comments, or after dashes, which are a comment only before a blank. -/
def State.isLive : State → Bool
  | .lineComment => false
  | state => !state.isOpen

/-- What follows the text is outside quotes and comments, unless it is a blank after dashes. -/
def Live (text : String) : Prop :=
  (scan .code text.toList).isLive = true

/-- The text ends in a comment that the end of the line would close. -/
def EndsInComment (text : String) : Prop :=
  scan .code text.toList = .lineComment

instance (text : String) : Decidable (Live text) :=
  inferInstanceAs (Decidable (_ = _))

instance (text : String) : Decidable (EndsInComment text) :=
  inferInstanceAs (Decidable (_ = _))

/-- After a live text, and only there, parentheses and semicolons are read as code. -/
theorem live_iff_next {text : String} {sign : Char} (isSign : sign = ')' ∨ sign = ';') :
    Live text ↔ (scan .code text.toList).next sign = .code := by
  have sound := scan_code_sound text.toList
  rw [Live]
  generalize scan .code text.toList = state at sound ⊢
  have noQuote : State.isQuote sign = false := by rcases isSign with rfl | rfl <;> decide
  have other : ∀ {quote : Char}, State.isQuote quote = true → sign ≠ quote := by
    rintro quote isQuote rfl
    rw [noQuote] at isQuote
    cases isQuote
  cases state with
  | quoted quote =>
    have differs := other sound
    refine iff_of_false Bool.false_ne_true ?_
    rcases isSign with rfl | rfl <;> simp [State.next, differs]
  | escaped quote => exact iff_of_false Bool.false_ne_true State.noConfusion
  | closing quote =>
    have differs := other sound
    refine iff_of_true rfl ?_
    rcases isSign with rfl | rfl <;> simp [State.next, differs, State.ofCode]
  | name read =>
    refine iff_of_true rfl ?_
    rcases isSign with rfl | rfl <;> simp [State.next, isNameChar, State.ofCode]
  | _ => rcases isSign with rfl | rfl <;> decide

theorem live_append (a b : String) :
    Live (a ++ b) ↔ (scan (scan .code a.toList) b.toList).isLive = true := by
  rw [Live, String.toList_append, scan_append]

theorem Closed.live_iff {text : String} (closed : Closed text) :
    Live text ↔ ¬EndsInComment text := by
  rw [Closed] at closed
  rw [Live, EndsInComment]
  generalize scan .code text.toList = state at closed ⊢
  cases state with
  | lineComment => exact iff_of_false Bool.false_ne_true (not_not_intro rfl)
  | _ => first | exact iff_of_true rfl State.noConfusion | cases closed

theorem EndsOutside.not_endsInComment {text : String} (outside : EndsOutside text) :
    ¬EndsInComment text := by
  intro inComment
  rw [EndsOutside, inComment] at outside
  cases outside

theorem scan_lineComment {text : List Char} (oneLine : '\n' ∉ text) :
    scan .lineComment text = .lineComment := by
  induction text with
  | nil => rfl
  | cons c rest ih =>
    have goesOn : c ≠ '\n' := fun same => oneLine (same ▸ List.mem_cons_self)
    have next : State.next .lineComment c = .lineComment := if_neg goesOn
    have others := ih fun mem => oneLine (List.mem_cons_of_mem c mem)
    exact (congrArg (scan · rest) next).trans others

/-- A closed text with the terminator of a header ends in code. -/
theorem scan_terminated {text : String} (closed : Closed text) :
    scan .code (text ++ ";\n").toList = .code := by
  rw [String.toList_append, scan_append]
  by_cases live : Live text
  · have semicolon := (live_iff_next (.inr rfl)).1 live
    exact congrArg (State.next · '\n') semicolon
  · have inComment : scan .code text.toList = .lineComment :=
      Classical.byContradiction fun notIn => live (closed.live_iff.2 notIn)
    rw [inComment]
    rfl

end Placeholder

/-! ## Clauses one below the other -/

namespace Assembly

open Sql

/-- The last clause that is not empty. -/
def lastClause (clauses : List String) : String :=
  (clauses.filter fun clause => !clause.isEmpty).getLastD ""

theorem lastClause_mem (clauses : List String) :
    lastClause clauses ∈ clauses ∨ lastClause clauses = "" := by
  rw [lastClause, List.getLastD_eq_getLast?]
  cases last : (clauses.filter fun clause => !clause.isEmpty).getLast? with
  | none => exact .inr rfl
  | some clause => exact .inl (List.mem_of_mem_filter (List.mem_of_getLast? last))

theorem foldl_addClause_scan : ∀ (clauses : List String) {statement : Buffer} {last : String},
    Closed statement.text → scan .code statement.text.toList = scan .code last.toList →
    (∀ clause ∈ clauses, Closed clause) →
    scan .code (clauses.foldl addClause statement).text.toList =
      scan .code ((clauses.filter fun clause => !clause.isEmpty).getLastD last).toList := by
  intro clauses
  induction clauses with
  | nil => exact fun _ same _ => same
  | cons clause rest ih =>
    intro statement last before same closed
    rw [List.forall_mem_cons] at closed
    cases empty : clause.isEmpty with
    | true =>
      have kept : addClause statement clause = statement := by
        rw [addClause, empty]
        rfl
      rw [List.foldl_cons, kept, List.filter_cons_of_neg (by simp [empty])]
      exact ih before same closed.2
    | false =>
      obtain ⟨start, text, code, -⟩ := exists_before_addClause before empty
      have after : scan .code (addClause statement clause).text.toList =
          scan .code clause.toList := by
        rw [text, scan_append, code]
      have stillClosed : Closed (addClause statement clause).text := by
        rw [Closed, after]
        exact closed.1
      rw [List.foldl_cons, List.filter_cons_of_pos (by simp [empty]), List.getLastD_cons]
      exact ih stillClosed after closed.2

/-- Closed clauses one below the other end as the last of them ends alone. -/
theorem scan_lines {clauses : List String} (closed : ∀ clause ∈ clauses, Closed clause) :
    scan .code (lines clauses).toList = scan .code (lastClause clauses).toList :=
  foldl_addClause_scan clauses (passes_nil.settles.closed : Closed Buffer.empty.text) rfl closed

/-! ## The statement -/

/-- The list and the commands of the statement that is put around the clauses, if one is. -/
def wrapper? (env : Environment) (commands : List Command) (selected : List String) :
    Output → Option (OuterList × List String)
  | .count => some (.countStar, [])
  | .rows =>
    if env.allColumnsMapped || selected.isEmpty then none
    else some (.columns selected, Command.inRegion .afterSelectionColumns commands)

/-- The texts of the caller that stand on a line together with generated ones. -/
def inlineTexts (env : Environment) (commands : List Command) (clauses : Clauses)
    (output : Output) : List String :=
  Sql.callerTexts (emitted env commands clauses output)
    ++ ((wrapper? env commands clauses.selected output).map Prod.snd).getD []

section

variable {env : Environment} {baseSql : String} {commands : List Command} {clauses : Clauses}
  {output : Output}

theorem pageTexts_endOutside
    (outside : ∀ text ∈ Sql.callerTexts (emitted env commands clauses output), EndsOutside text) :
    ∀ clause ∈ pageTexts clauses output, EndsOutside clause := by
  cases output with
  | count => exact nofun
  | rows =>
    have order := orderByPieces_passApart (SortKey.clause_columns _) (forall_page outside).1 0
    rw [pageTexts, List.forall_mem_cons, List.forall_mem_singleton]
    exact ⟨order.endsOutside, (clauses.limit.passApart 0).endsOutside⟩

/-- A clause is a trimmed text of the caller, or it ends outside. -/
theorem clauseTexts_cases (generated : ∀ e ∈ clauses.conditions, e.Generated fun _ => True)
    (outside : ∀ text ∈ Sql.callerTexts (emitted env commands clauses output), EndsOutside text)
    {clause : String} (mem : clause ∈ clauseTexts env baseSql commands clauses output) :
    (∃ text ∈ baseSql :: commands.map Command.sql, clause = trimStatement text) ∨
      EndsOutside clause := by
  obtain ⟨inList, inFilter⟩ := forall_clauses outside
  have list := (listClause_passApart inList).endsOutside
  have filter : EndsOutside (text (filterClause env clauses)) :=
    (Filter.passApart generated inFilter 0).endsOutside
  have grouping : clause ∈ groupings commands →
      ∃ text ∈ baseSql :: commands.map Command.sql, clause = trimStatement text := by
    intro isGrouping
    obtain ⟨text, inRegion, rfl⟩ := List.mem_map.1 isGrouping
    obtain ⟨command, isCommand, rfl⟩ := List.mem_map.1 inRegion
    refine ⟨command.sql, List.mem_cons_of_mem _ ?_, rfl⟩
    exact List.mem_map_of_mem (List.mem_of_mem_filter isCommand)
  have filtered : clause ∈ (if env.allColumnsMapped
      then text (filterClause env clauses) :: groupings commands
      else groupings commands ++ [text (filterClause env clauses)]) →
      clause = text (filterClause env clauses) ∨ clause ∈ groupings commands := by
    split
    · exact List.mem_cons.1
    · intro mem
      rw [List.mem_append, List.mem_singleton] at mem
      exact mem.symm
  simp only [clauseTexts, List.mem_append, List.mem_cons, List.not_mem_nil, or_false] at mem
  rcases mem with ((rfl | rfl) | mem) | mem
  · exact .inr list
  · exact .inl ⟨baseSql, List.mem_cons_self, rfl⟩
  · rcases filtered mem with rfl | isGrouping
    · exact .inr filter
    · exact .inl (grouping isGrouping)
  · exact .inr (pageTexts_endOutside outside clause mem)

end

/-- A statement up to the signs that end it: its clauses, and what is put before them. -/
def enclosed (env : Environment) (commands : List Command) (selected : List String)
    (output : Output) (inner : String) : String :=
  match wrapper? env commands selected output with
  | none => inner
  | some (list, after) =>
    text (OuterSelect.opening ⟨list, after, inner, uniqueTableAlias inner⟩) ++ inner

/-- The signs that end a statement, but for its semicolon. -/
def closing (env : Environment) (commands : List Command) (selected : List String)
    (output : Output) (inner : String) : String :=
  match wrapper? env commands selected output with
  | none => ""
  | some _ => ") AS " ++ quoteIdentifier (uniqueTableAlias inner)

theorem body_eq (env : Environment) (commands : List Command) (selected : List String)
    (output : Output) (inner : String) :
    body env commands selected output inner =
      enclosed env commands selected output inner ++
        closing env commands selected output inner := by
  have wrapped : ∀ (list : OuterList) (after : List String), wrap inner list after =
      text (OuterSelect.opening ⟨list, after, inner, uniqueTableAlias inner⟩) ++ inner ++
        (") AS " ++ quoteIdentifier (uniqueTableAlias inner)) := by
    intro list after
    have closes : text (OuterSelect.closing ⟨list, after, inner, uniqueTableAlias inner⟩) =
        ") AS " ++ quoteIdentifier (uniqueTableAlias inner) := by
      rw [← String.toList_inj, text_toList]
      simp [OuterSelect.closing]
    rw [← closes]
    exact OuterSelect.text_pieces _
  unfold body enclosed closing wrapper?
  cases output with
  | count => exact wrapped _ _
  | rows =>
    simp only
    split
    · exact (String.append_empty).symm
    · exact wrapped _ _

/-- What is put before the clauses leads from code to code. -/
theorem scan_enclosed {env : Environment} {commands : List Command} {clauses : Clauses}
    {output : Output}
    (outside : ∀ text ∈ inlineTexts env commands clauses output, EndsOutside text)
    (inner : String) :
    scan .code (enclosed env commands clauses.selected output inner).toList =
      scan .code inner.toList := by
  have texts : ∀ {list after}, wrapper? env commands clauses.selected output = some (list, after) →
      ∀ text ∈ Sql.callerTexts (list.names.map .name) ++ after, EndsOutside text := by
    intro list after isWrapper
    rw [inlineTexts, isWrapper, List.forall_mem_append] at outside
    refine List.forall_mem_append.2 ⟨?_, outside.2⟩
    cases output with
    | count =>
      cases isWrapper
      exact nofun
    | rows =>
      obtain ⟨wraps, same⟩ := Option.ite_none_left_eq_some.1 isWrapper
      rw [Bool.or_eq_true, not_or, Bool.not_eq_true] at wraps
      cases same
      exact (forall_page outside.1).2 wraps.1
  unfold enclosed
  split
  · rfl
  · rename_i list after isWrapper
    rw [String.toList_append, scan_append, OuterSelect.scan_opening rfl]
    rw [OuterSelect.callerTexts_opening rfl]
    exact texts isWrapper

theorem quoteIdentifier_tableAlias_toList (index : Nat) :
    (quoteIdentifier (tableAlias index)).toList =
      '\x60' :: ((tableAlias index).toList ++ ['\x60']) := by
  rw [quoteIdentifier_tableAlias, String.toList_append, String.toList_append]
  rfl

/-- An alias is read as a quoted identifier. -/
theorem scan_tableAlias (index : Nat) :
    scan .code (quoteIdentifier (tableAlias index)).toList = .closing '\x60' := by
  have plain : '\x60' ∉ (tableAlias index).toList := fun mem =>
    (tableAlias_letters index _ mem).2.1 rfl
  rw [quoteIdentifier_tableAlias_toList]
  exact (scan_quotedName _ plain).1

theorem newline_notMem_tableAlias (index : Nat) :
    '\n' ∉ (quoteIdentifier (tableAlias index)).toList := by
  have inAlias : '\n' ∉ (tableAlias index).toList := fun mem =>
    absurd (eq_or_isDigit_of_mem_tableAlias mem) (by decide)
  rw [quoteIdentifier_tableAlias_toList]
  simp [inAlias]

/-- The parenthesis and the alias do not change whether what follows them is live. -/
theorem live_closing {before : String} (closed : Closed before) (index : Nat) :
    (Live (before ++ ") AS ") ↔ Live before) ∧
      (Live (before ++ (") AS " ++ quoteIdentifier (tableAlias index))) ↔ Live before) := by
  have opens : '\n' ∉ ") AS ".toList := by decide
  have named := newline_notMem_tableAlias index
  rw [live_append, live_append, String.toList_append, scan_append]
  by_cases live : Live before
  · have code : scan (scan .code before.toList) ") AS ".toList = .code :=
      congrArg (scan · " AS ".toList) ((live_iff_next (.inl rfl)).1 live)
    rw [code, scan_tableAlias]
    exact ⟨iff_of_true rfl live, iff_of_true rfl live⟩
  · have inComment : scan .code before.toList = .lineComment :=
      Classical.byContradiction fun notIn => live (closed.live_iff.2 notIn)
    rw [inComment, scan_lineComment opens, scan_lineComment named]
    exact ⟨iff_of_false nofun live, iff_of_false nofun live⟩

/-! ## The script -/

/-- Headers with their terminators. -/
def script (headers : List String) : String :=
  String.join (headers.map (· ++ ";\n"))

theorem finalSql_eq (assembly : Assembly) :
    assembly.finalSql = script assembly.headerSql ++ assembly.statementSql := by
  rw [finalSql, script]
  induction assembly.headerSql with
  | nil => simp
  | cons header rest ih =>
    rw [List.foldr_cons, ih, List.map_cons, String.join_cons]
    simp only [String.append_assoc]

theorem scan_script {headers : List String} (closed : ∀ header ∈ headers, Closed header) :
    scan .code (script headers).toList = .code := by
  rw [script]
  induction headers with
  | nil => rfl
  | cons header rest ih =>
    rw [List.forall_mem_cons] at closed
    rw [List.map_cons, String.join_cons, String.toList_append, scan_append,
      scan_terminated closed.1]
    exact ih closed.2

theorem headers_closed {commands : List Command}
    (closed : ∀ command ∈ commands, Closed command.sql) :
    ∀ header ∈ headers commands, Closed header := by
  intro header mem
  obtain ⟨text, inRegion, rfl⟩ := List.mem_map.1 (List.mem_of_mem_filter mem)
  obtain ⟨command, isCommand, rfl⟩ := List.mem_map.1 inRegion
  exact (closed command (List.mem_of_mem_filter isCommand)).trimStatement

/-- Behind headers a text is read as it is alone. -/
theorem live_script {headers : List String} (closed : ∀ header ∈ headers, Closed header)
    (text : String) : Live (script headers ++ text) ↔ Live text := by
  rw [live_append, scan_script closed]
  rfl

section

variable {env : Environment} {baseSql : String} {commands : List Command} {clauses : Clauses}
  {output : Output}

theorem clauseTexts_closed (generated : ∀ e ∈ clauses.conditions, e.Generated fun _ => True)
    (closed : ∀ text ∈ baseSql :: commands.map Command.sql, Closed text)
    (outside : ∀ text ∈ inlineTexts env commands clauses output, EndsOutside text) :
    ∀ clause ∈ clauseTexts env baseSql commands clauses output, Closed clause := by
  intro clause mem
  rcases clauseTexts_cases generated (List.forall_mem_append.1 outside).1 mem with
    ⟨text, isCaller, rfl⟩ | endsOutside
  · exact (closed text isCaller).trimStatement
  · exact endsOutside.closed

/-- What the signs at the end of a statement enclose ends as the last clause ends alone. -/
theorem scan_enclosed_lines (generated : ∀ e ∈ clauses.conditions, e.Generated fun _ => True)
    (closed : ∀ text ∈ baseSql :: commands.map Command.sql, Closed text)
    (outside : ∀ text ∈ inlineTexts env commands clauses output, EndsOutside text) :
    scan .code (enclosed env commands clauses.selected output
        (lines (clauseTexts env baseSql commands clauses output))).toList =
      scan .code (lastClause (clauseTexts env baseSql commands clauses output)).toList := by
  rw [scan_enclosed outside, scan_lines (clauseTexts_closed generated closed outside)]

theorem closing_cases (env : Environment) (commands : List Command) (selected : List String)
    (output : Output) (inner : String) :
    closing env commands selected output inner = "" ∨
      ∃ index, closing env commands selected output inner =
        ") AS " ++ quoteIdentifier (tableAlias index) := by
  unfold closing
  split
  · exact .inl rfl
  · exact .inr ⟨_, rfl⟩

theorem lastClause_closed (generated : ∀ e ∈ clauses.conditions, e.Generated fun _ => True)
    (closed : ∀ text ∈ baseSql :: commands.map Command.sql, Closed text)
    (outside : ∀ text ∈ inlineTexts env commands clauses output, EndsOutside text) :
    Closed (lastClause (clauseTexts env baseSql commands clauses output)) := by
  rcases lastClause_mem (clauseTexts env baseSql commands clauses output) with mem | none
  · exact clauseTexts_closed generated closed outside _ mem
  · rw [none]
    rfl

/-- A comment at the end of the last clause is one of the caller. -/
theorem lastClause_of_endsInComment
    (generated : ∀ e ∈ clauses.conditions, e.Generated fun _ => True)
    (outside : ∀ text ∈ inlineTexts env commands clauses output, EndsOutside text)
    (inComment : EndsInComment (lastClause (clauseTexts env baseSql commands clauses output))) :
    ∃ text ∈ baseSql :: commands.map Command.sql,
      lastClause (clauseTexts env baseSql commands clauses output) = trimStatement text := by
  rcases lastClause_mem (clauseTexts env baseSql commands clauses output) with mem | none
  · refine (clauseTexts_cases generated (List.forall_mem_append.1 outside).1 mem).resolve_right ?_
    exact fun endsOutside => endsOutside.not_endsInComment inComment
  · rw [none] at inComment
    cases inComment

end

/-- Which signs behind texts of the caller are live.  What the signs of a statement enclose ends
with the last of its clauses; they stand at the same places of the statement alone and of the
statement behind its headers. -/
structure Punctuation (assembly : Assembly) (last enclosed closing : String) : Prop where
  statementSql : assembly.statementSql = enclosed ++ closing ++ ";"
  finalSql : assembly.finalSql = script assembly.headerSql ++ assembly.statementSql
  closes : closing = "" ∨ ∃ index, closing = ") AS " ++ quoteIdentifier (tableAlias index)
  header : ∀ before header after, assembly.headerSql = before ++ header :: after →
    (Live (script before ++ header) ↔ ¬EndsInComment header)
  parenthesis : ∀ preamble ∈ [[], assembly.headerSql],
    (Live (script preamble ++ enclosed) ↔ ¬EndsInComment last)
  tableName : ∀ preamble ∈ [[], assembly.headerSql],
    (Live (script preamble ++ enclosed ++ ") AS ") ↔ ¬EndsInComment last)
  terminator : ∀ preamble ∈ [[], assembly.headerSql],
    (Live (script preamble ++ enclosed ++ closing) ↔ ¬EndsInComment last)

theorem assemble_punctuation {env : Environment} {baseSql : String} {commands : List Command}
    {clauses : Clauses} {output : Output}
    (generated : ∀ e ∈ clauses.conditions, e.Generated fun _ => True)
    (closed : ∀ text ∈ baseSql :: commands.map Command.sql, Closed text)
    (outside : ∀ text ∈ inlineTexts env commands clauses output, EndsOutside text) :
    ∃ enclosed closing, (assemble env baseSql commands clauses output).Punctuation
      (lastClause (clauseTexts env baseSql commands clauses output)) enclosed closing := by
  have ends := scan_enclosed_lines generated closed outside
  have closedLast := lastClause_closed generated closed outside
  have closes := closing_cases env commands clauses.selected output
    (lines (clauseTexts env baseSql commands clauses output))
  have split := body_eq env commands clauses.selected output
    (lines (clauseTexts env baseSql commands clauses output))
  revert ends closes split
  generalize enclosed env commands clauses.selected output _ = inside
  generalize Assembly.closing env commands clauses.selected output _ = closing
  intro ends closes split
  have live : Live inside ↔
      ¬EndsInComment (lastClause (clauseTexts env baseSql commands clauses output)) := by
    rw [Live, ends]
    exact closedLast.live_iff
  have insideClosed : Closed inside := by
    rw [Closed, ends]
    exact closedLast
  have headersClosed : ∀ header ∈ headers commands, Closed header :=
    headers_closed (List.forall_mem_map.1 (List.forall_mem_cons.1 closed).2)
  have behind : ∀ preamble ∈ [[], headers commands], ∀ text,
      Live (script preamble ++ text) ↔ Live text := by
    rw [List.forall_mem_cons, List.forall_mem_singleton]
    exact ⟨live_script (List.forall_mem_nil _), live_script headersClosed⟩
  refine ⟨inside, closing, ?_⟩
  constructor
  case statementSql => rw [assemble_statementSql, split]
  case finalSql => exact finalSql_eq _
  case closes => exact closes
  case header =>
    intro before header after isSplit
    rw [show headers commands = _ from isSplit, List.forall_mem_append,
      List.forall_mem_cons] at headersClosed
    rw [live_script headersClosed.1]
    exact headersClosed.2.1.live_iff
  case parenthesis =>
    intro preamble mem
    rw [behind preamble mem]
    exact live
  case tableName =>
    intro preamble mem
    rw [String.append_assoc, behind preamble mem, (live_closing insideClosed 0).1]
    exact live
  case terminator =>
    intro preamble mem
    rw [String.append_assoc, behind preamble mem]
    rcases closes with none | ⟨index, isAlias⟩
    · rw [none, String.append_empty]
      exact live
    · rw [isAlias, (live_closing insideClosed index).2]
      exact live

end Assembly

/-! ## Queries -/

namespace Query

variable {Row : Type} {query : Query Row} {output : Output}

/-- The last clause of the statement, which is the base query where nothing follows it. -/
def lastClause (query : Query Row) (output : Output) : String :=
  match query.clauses with
  | .ok (clauses, _) => Assembly.lastClause (Assembly.clauseTexts query.environment query.baseSql
      query.commands (clauses.forOutput output) output)
  | .error _ => ""

/-- The texts of the caller that stand on a line together with generated ones: fragments and names
that are written as they are, and the commands behind a generated list of columns. -/
def inlineTexts (query : Query Row) (output : Output) : List String :=
  match query.clauses with
  | .ok (clauses, _) => Assembly.inlineTexts query.environment query.commands
      (clauses.forOutput output) output
  | .error _ => []

/-- **Signs behind texts of the caller are live unless a comment stands right before them.**
Where the base query and the commands leave no quotes or block comments open, the semicolon of a
header is live unless the header ends in a line comment.  The signs at the end of a statement are
live unless its last clause does, and then that is a base query or a command that was trimmed. -/
theorem compileAs_punctuation {statement : Statement}
    (compiled : query.compileAs output = .ok statement)
    (closed : ∀ text ∈ query.baseSql :: query.commands.map Command.sql, Closed text)
    (outside : ∀ text ∈ query.inlineTexts output, EndsOutside text) :
    (∃ enclosed closing,
      statement.toAssembly.Punctuation (query.lastClause output) enclosed closing) ∧
    (EndsInComment (query.lastClause output) →
      ∃ text ∈ query.baseSql :: query.commands.map Command.sql,
        query.lastClause output = Assembly.trimStatement text) := by
  obtain ⟨clauses, transform, areClauses, isStatement⟩ := compileAs_statement compiled
  have generated := forOutput_generated areClauses output
  have last : query.lastClause output = Assembly.lastClause (Assembly.clauseTexts
      query.environment query.baseSql query.commands (clauses.forOutput output) output) := by
    rw [lastClause, areClauses]
  have texts : query.inlineTexts output = Assembly.inlineTexts query.environment query.commands
      (clauses.forOutput output) output := by
    rw [inlineTexts, areClauses]
  rw [texts] at outside
  rw [last, (statement_assembly isStatement).1]
  exact ⟨Assembly.assemble_punctuation generated closed outside,
    Assembly.lastClause_of_endsInComment generated outside⟩

/-- The totals of all cities.  The comment of the base query ends where the next clause begins. -/
def totalsByCity : Query Nat :=
  (Query.ofSql "SELECT City, COUNT(*) AS Total FROM people -- all of them\n;")
    |>.insertCommand ⟨.header, "SET @size = '--'"⟩
    |>.insertCommand ⟨.beforeGroupingOrHaving, "GROUP BY City"⟩
    |>.project (Shape.fields ["Total"])

theorem compileAs_totalsByCity :
    (∀ text ∈ totalsByCity.baseSql :: totalsByCity.commands.map Command.sql, Closed text) ∧
      (∀ text ∈ totalsByCity.inlineTexts .rows, EndsOutside text) ∧
      ¬EndsInComment (totalsByCity.lastClause .rows) ∧
      ∃ statement enclosed closing, totalsByCity.compileAs .rows = .ok statement ∧
        statement.finalSql = "SET @size = '--';\nSELECT \x60t0\x60.\x60Total\x60 FROM ("
          ++ "SELECT City, COUNT(*) AS Total FROM people -- all of them\nGROUP BY City"
          ++ ") AS \x60t0\x60;" ∧
        statement.toAssembly.Punctuation (totalsByCity.lastClause .rows) enclosed closing := by
  have closed : ∀ text ∈ totalsByCity.baseSql :: totalsByCity.commands.map Command.sql,
      Closed text := by decide +kernel
  have outside : ∀ text ∈ totalsByCity.inlineTexts .rows, EndsOutside text := by decide +kernel
  have last : ¬EndsInComment (totalsByCity.lastClause .rows) := by decide +kernel
  have written : ((totalsByCity.compileAs .rows).toOption.map fun statement =>
      statement.finalSql) = some ("SET @size = '--';\nSELECT \x60t0\x60.\x60Total\x60 FROM ("
        ++ "SELECT City, COUNT(*) AS Total FROM people -- all of them\nGROUP BY City"
        ++ ") AS \x60t0\x60;") := by
    decide +kernel
  obtain ⟨statement, compiled, isFinal⟩ := Except.toOption_map_eq_some.1 written
  obtain ⟨⟨enclosed, closing, punctuation⟩, -⟩ := compileAs_punctuation compiled closed outside
  exact ⟨closed, outside, last, statement, enclosed, closing, compiled, isFinal, punctuation⟩

/-- All people, with a comment that the base query ends with. -/
def everyone : Query Nat :=
  Query.ofSql "SELECT * FROM people -- everyone"

/-- Counting them, the comment goes on to the end of the statement. -/
theorem everyone_countInComment :
    (∀ text ∈ everyone.baseSql :: everyone.commands.map Command.sql, Closed text) ∧
      ∃ statement enclosed, everyone.compileAs .count = .ok statement ∧
        statement.statementSql = enclosed ++ ") AS \x60t0\x60" ++ ";" ∧
        ¬Live enclosed ∧ ¬Live (enclosed ++ ") AS ") ∧ ¬Live (enclosed ++ ") AS \x60t0\x60") := by
  have written : ((everyone.compileAs .count).toOption.map fun statement =>
      statement.statementSql) =
        some ("SELECT COUNT(*) FROM (SELECT * FROM people -- everyone" ++ ") AS \x60t0\x60"
          ++ ";") := by
    decide +kernel
  obtain ⟨statement, compiled, isStatement⟩ := Except.toOption_map_eq_some.1 written
  exact ⟨by decide +kernel, statement, _, compiled, isStatement, by decide +kernel,
    by decide +kernel, by decide +kernel⟩

end Query

end PlanCompiler
