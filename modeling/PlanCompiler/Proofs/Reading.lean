/-
# Proofs.Reading -- reading back what was written

The text of an expression is read as one operand: after it, the reader is in the
state of the regrouped tree, whatever is on its stack and wherever the numbering of
the values stands (`Expression.Generated.reads`).  So a text is read back as the tree
that was written, exactly where its negations stand apart (`expression_read_text`).
-/
import PlanCompiler.Proofs.GeneratedExpression
import PlanCompiler.Proofs.Reader

namespace PlanCompiler

set_option autoImplicit false

namespace Sql

namespace Reader

open Expression (regrouped allRegrouped numbered allNumbered floated)

/-! ## Expressions -/

/-- The text of an expression, written after this many values, is read as one operand. -/
def Reads (e : Expression) (position : Nat) : Prop :=
  ∀ stack rest, Lexeme.Ends rest →
    run (.operand stack) (lexemes .between (chars position e.pieces ++ rest)) =
      run (reading stack (e.numbered position)) (lexemes .between rest)

theorem chars_node (position : Nat) (left right : Expression) (word : String) (rest : List Char) :
    chars position (.words "(" :: left.pieces ++ .words word :: right.pieces ++ [.words ")"])
        ++ rest =
      "(".toList ++ (chars position left.pieces ++ (word.toList ++
        (chars (position + left.leafValues.length) right.pieces ++ (")".toList ++ rest)))) := by
  simp [Expression.values_pieces]

/-- A node of an operator that is weaker than `NOT` is read back. -/
theorem reads_weak (connector : Connector) {left right : Expression} {position : Nat}
    (inLeft : Reads left position) (inRight : Reads right (position + left.leafValues.length))
    (positive : 0 < connector.level) (weak : connector.level ≤ 3) {word : String}
    {lexeme : Lexeme} (isWord : ∀ rest, lexemes .between (word.toList ++ rest) =
      lexeme :: lexemes .between rest) (blank : ∀ rest, Lexeme.Ends (word.toList ++ rest))
    (isLexeme : ∀ stack e, next (.after stack e) lexeme = join stack e (some connector))
    {node : Expression}
    (pieces : node.pieces =
      .words "(" :: left.pieces ++ .words word :: right.pieces ++ [.words ")"])
    (notNot : (node.numbered position).isNot = false)
    (regroup : regrouped (node.numbered position) = do
      return connector.node (← regrouped (left.numbered position))
        (← regrouped (right.numbered (position + left.leafValues.length)))) :
    Reads node position := by
  intro stack rest ends
  rw [pieces, chars_node, Lexeme.lexemes_opening, run_cons, reading_other notNot, regroup]
  change run (.operand (.group :: stack)) _ = _
  rw [inLeft _ _ (blank _), isWord]
  cases first : regrouped (left.numbered position) with
  | none =>
    rw [reading_none first, run_failed]
    exact (run_failed _).symm
  | some l =>
    rw [run_weakFirst positive weak isLexeme first]
    rw [inRight _ (")".toList ++ rest) (.closing _), Lexeme.lexemes_closing]
    cases second : regrouped (right.numbered (position + left.leafValues.length)) with
    | none =>
      rw [reading_none second, run_failed]
      exact (run_failed _).symm
    | some r =>
      rw [run_weakSecond positive weak second]
      rfl

theorem reads_and {left right : Expression} {position : Nat} (inLeft : Reads left position)
    (inRight : Reads right (position + left.leafValues.length)) :
    Reads (.and left right) position := by
  refine reads_weak .and inLeft inRight (by decide) (by decide) Lexeme.lexemes_and
    (fun _ => .blank _) (fun _ _ => rfl) rfl rfl ?_
  rw [numbered, regrouped]
  rfl

theorem reads_or {left right : Expression} {position : Nat} (inLeft : Reads left position)
    (inRight : Reads right (position + left.leafValues.length)) :
    Reads (.or left right) position := by
  refine reads_weak .or inLeft inRight (by decide) (by decide) Lexeme.lexemes_or (fun _ => .blank _)
    (fun _ _ => rfl) rfl rfl ?_
  rw [numbered, regrouped]
  rfl

/-- A node of an operator that is stronger than `NOT` is regrouped. -/
theorem reads_binary (op : Operator) {left right : Expression} {position : Nat}
    (inLeft : Reads left position) (inRight : Reads right (position + left.leafValues.length)) :
    Reads (.binary op left right) position := by
  intro stack rest ends
  rw [Expression.pieces, chars_node, Lexeme.lexemes_opening, run_cons, numbered, reading_other rfl,
    regrouped]
  change run (.operand (.group :: stack)) _ = _
  rw [inLeft _ ((" " ++ op.word ++ " ").toList ++ _) (Lexeme.ends_operator op _)]
  rw [Lexeme.lexemes_operator]
  cases first : regrouped (left.numbered position) with
  | none =>
    rw [reading_none first, run_failed]
    exact (run_failed _).symm
  | some l =>
    obtain ⟨stack', inner, step, given⟩ := run_strongFirst op first stack
    rw [step]
    rw [inRight _ (")".toList ++ rest) (.closing _), Lexeme.lexemes_closing]
    cases isNot : (right.numbered (position + left.leafValues.length)).isNot with
    | true =>
      rw [reading_strongSecond_not op isNot, run_failed]
      exact (run_failed _).symm
    | false =>
      cases second : regrouped (right.numbered (position + left.leafValues.length)) with
      | none =>
        rw [reading_none second, run_failed]
        exact (run_failed _).symm
      | some r =>
        rw [run_strongSecond op isNot second (given fun first => .binary op first r)]
        rfl

theorem reads_not {e : Expression} {position : Nat} (inside : Reads e position) :
    Reads (.not e) position := by
  intro stack rest ends
  have text : chars position (Expression.not e).pieces ++ rest =
      "NOT (".toList ++ (chars position e.pieces ++ (")".toList ++ rest)) := by
    simp [Expression.pieces]
  rw [text, Lexeme.lexemes_not, numbered, run_cons]
  change run (if allowsNot stack then .operand (.not :: stack) else .failed) _ = _
  cases allowed : allowsNot stack with
  | false =>
    have refused : reading stack (.not (e.numbered position)) = .failed := by
      cases isRead : regrouped (e.numbered position) with
      | none => rw [reading, isRead]
      | some e' => rw [reading_not isRead, allowed]; rfl
    rw [refused, run_failed]
    exact run_failed _
  | true =>
    rw [if_pos rfl, run_cons]
    change run (.operand (.group :: .not :: stack)) _ = _
    rw [inside _ (")".toList ++ rest) (.closing _), Lexeme.lexemes_closing]
    cases isRead : regrouped (e.numbered position) with
    | none =>
      have unreadable : regrouped (.not (e.numbered position)) = none := by
        rw [regrouped, isRead]
        rfl
      rw [reading_none isRead, reading_none unreadable, run_failed, run_failed]
    | some e' =>
      rw [run_group isRead, reading_not isRead, allowed]
      rfl

theorem reads_minus {e : Expression} {position : Nat} (inside : Reads e position) :
    Reads (.unary .negate e) position := by
  intro stack rest ends
  have text : chars position (Expression.unary .negate e).pieces ++ rest =
      "-(".toList ++ (chars position e.pieces ++ (")".toList ++ rest)) := by
    simp [Expression.pieces, UnaryOperator.word]
  rw [text, Lexeme.lexemes_minus, run_cons, run_cons, numbered, reading_other rfl, regrouped]
  change run (.operand (.group :: .minus :: stack)) _ = _
  rw [inside _ (")".toList ++ rest) (.closing _), Lexeme.lexemes_closing]
  cases isRead : regrouped (e.numbered position) with
  | none =>
    rw [reading_none isRead, run_failed]
    exact (run_failed _).symm
  | some e' =>
    rw [run_group isRead]
    rfl

/-- Null tests read from the words that follow their operand. -/
theorem reads_test {e : Expression} {position : Nat} (inside : Reads e position)
    {test : UnaryOperator} (isTest : test ≠ .negate) {word : List Char}
    (words : ∀ rest, lexemes .between (word ++ rest) =
      .word "IS" :: (if test = .isNull then [] else [.word "NOT"]) ++
        .word "NULL" :: .closing :: lexemes .between rest)
    (blank : ∀ rest, Lexeme.Ends (word ++ rest))
    (text : ∀ rest, chars position (Expression.unary test e).pieces ++ rest =
      "(".toList ++ (chars position e.pieces ++ (word ++ rest))) :
    Reads (.unary test e) position := by
  intro stack rest ends
  have regroup : regrouped (.unary test (e.numbered position)) = do
      return floated (.unary test) (e.numbered position) (← regrouped (e.numbered position)) := by
    cases test with
    | negate => exact absurd rfl isTest
    | isNull | isNotNull =>
      rw [regrouped]
      intro same
      cases same
  rw [text, Lexeme.lexemes_opening, run_cons, numbered, reading_other rfl, regroup]
  change run (.operand (.group :: stack)) _ = _
  rw [inside _ (word ++ rest) (blank rest), words]
  cases isRead : regrouped (e.numbered position) with
  | none =>
    rw [reading_none isRead, run_failed]
    exact (run_failed _).symm
  | some e' =>
    obtain ⟨stack', first, isAfter, kept, given⟩ :=
      reading_strong isRead stack (by decide : 3 < 4)
    have tested : next (.after stack' first) (.word "IS") = .tested stack' first .isNull := by
      change Reader.tested (reduce 4 stack' first).1 (reduce 4 stack' first).2 .isNull = _
      rw [kept]
    have closed : next (.after stack' (.unary test first)) .closing =
        complete stack (floated (.unary test) (e.numbered position) e') := by
      rw [next, given (.unary test)]
      rfl
    rw [isAfter, List.cons_append, run_cons, tested]
    cases test with
    | negate => exact absurd rfl isTest
    | isNull =>
      change run (next (.after stack' (.unary .isNull first)) .closing) _ = _
      rw [closed]
      rfl
    | isNotNull =>
      change run (next (.after stack' (.unary .isNotNull first)) .closing) _ = _
      rw [closed]
      rfl

theorem reads_unary (op : UnaryOperator) {e : Expression} {position : Nat}
    (inside : Reads e position) : Reads (.unary op e) position := by
  cases op with
  | negate => exact reads_minus inside
  | isNull =>
    refine reads_test inside (by decide) Lexeme.lexemes_isNull (fun _ => .blank _) fun rest => ?_
    simp [Expression.pieces, UnaryOperator.word]
  | isNotNull =>
    refine reads_test inside (by decide) Lexeme.lexemes_isNotNull (fun _ => .blank _) fun rest => ?_
    simp [Expression.pieces, UnaryOperator.word]

/-! ## Lists -/

theorem allRegrouped_cons_none {e : Expression} {rest : List Expression}
    (unreadable : regrouped e = none) : allRegrouped (e :: rest) = none := by
  rw [allRegrouped, unreadable]
  rfl

/-- The items in parentheses are read one after the other. -/
theorem run_items (owner : Owner) (stack : List Frame) (rest : List Char) :
    ∀ (items : List Expression) (position : Nat) (read : List Expression), items ≠ [] →
      (∀ e ∈ items, ∀ position, Reads e position) →
      run (.operand (.items owner read :: stack)) (lexemes .between
          (chars position (separated (.words ", ") (Expression.allPieces items)) ++
            (")".toList ++ rest))) =
        match allRegrouped (allNumbered position items) with
        | some items' => run (finish stack (read ++ items') owner) (lexemes .between rest)
        | none => .failed := by
  intro items
  induction items with
  | nil => exact fun _ _ nonempty => absurd rfl nonempty
  | cons e later ih =>
    intro position read _ inItems
    have inFirst := inItems e List.mem_cons_self position
    cases later with
    | nil =>
      change run _ (lexemes .between (chars position e.pieces ++ (")".toList ++ rest))) = _
      rw [inFirst _ (")".toList ++ rest) (.closing _), Lexeme.lexemes_closing, allNumbered]
      cases isRead : regrouped (e.numbered position) with
      | none => rw [reading_none isRead, run_failed, allRegrouped_cons_none isRead]
      | some e' =>
        rw [run_lastItem isRead, allRegrouped, isRead]
        rfl
    | cons e₂ later =>
      have text : chars position (separated (.words ", ") (Expression.allPieces (e :: e₂ :: later)))
            ++ (")".toList ++ rest) =
          chars position e.pieces ++ (", ".toList ++
            (chars (position + e.leafValues.length)
              (separated (.words ", ") (Expression.allPieces (e₂ :: later))) ++
              (")".toList ++ rest))) := by
        simp only [Expression.allPieces, separated_cons, chars_append, chars_words,
          Expression.values_pieces, List.append_assoc]
      rw [text, inFirst _ (", ".toList ++ _) (.comma _), Lexeme.lexemes_comma, allNumbered]
      cases isRead : regrouped (e.numbered position) with
      | none => rw [reading_none isRead, run_failed, allRegrouped_cons_none isRead]
      | some e' =>
        rw [run_item isRead, ih _ _ nofun fun e mem => inItems e (List.mem_cons_of_mem _ mem)]
        rw [allRegrouped, isRead]
        cases allRegrouped (allNumbered (position + e.leafValues.length) (e₂ :: later)) with
        | none => rfl
        | some items' => simp [List.append_assoc]

theorem reads_inList {item : Expression} {items : List Expression} {position : Nat}
    (inItem : Reads item position) (nonempty : items ≠ [])
    (inItems : ∀ e ∈ items, ∀ position, Reads e position) :
    Reads (.inList item items) position := by
  intro stack rest ends
  have text : chars position (Expression.inList item items).pieces ++ rest =
      "(".toList ++ (chars position item.pieces ++ (" IN (".toList ++
        (chars (position + item.leafValues.length)
          (separated (.words ", ") (Expression.allPieces items)) ++
          (")".toList ++ (")".toList ++ rest))))) := by
    simp [Expression.pieces, Expression.values_pieces]
  rw [text, Lexeme.lexemes_opening, run_cons, numbered, reading_other rfl, regrouped]
  change run (.operand (.group :: stack)) _ = _
  rw [inItem _ (" IN (".toList ++ _) (.blank _), Lexeme.lexemes_in]
  cases first : regrouped (item.numbered position) with
  | none =>
    rw [reading_none first, run_failed]
    exact (run_failed _).symm
  | some item' =>
    obtain ⟨stack', inner, isAfter, kept, given⟩ := reading_strong first stack (by decide : 3 < 4)
    have isWithin : next (.after stack' inner) (.word "IN") = .within stack' inner := by
      change Reader.within (reduce 4 stack' inner).1 (reduce 4 stack' inner).2 = _
      rw [kept]
    rw [isAfter, run_cons, isWithin, run_cons]
    change run (.operand (.items (.membership inner) [] :: stack')) _ = _
    rw [run_items (.membership inner) stack' (")".toList ++ rest) items _ [] nonempty inItems]
    cases allRegrouped (allNumbered (position + item.leafValues.length) items) with
    | none => exact (run_failed _).symm
    | some items' =>
      simp only [List.nil_append]
      rw [Lexeme.lexemes_closing, run_cons]
      change run (close (reduce 1 stack' (.inList inner items'))) _ = _
      rw [given fun first => .inList first items']
      rfl

theorem next_function (f : Function) (stack : List Frame) :
    next (.operand stack) (.word f.word) = .called stack f := by
  have notNot : f.word ≠ "NOT" := by cases f <;> decide
  rw [next, if_neg notNot, Function.ofWord?_word]

theorem reads_function (f : Function) {args : List Expression} {position : Nat}
    (inArgs : ∀ e ∈ args, ∀ position, Reads e position) : Reads (.function f args) position := by
  intro stack rest ends
  have text : chars position (Expression.function f args).pieces ++ rest =
      (f.word ++ "(").toList ++
        (chars position (separated (.words ", ") (Expression.allPieces args)) ++
          (")".toList ++ rest)) := by
    simp [Expression.pieces]
  rw [text, Lexeme.lexemes_function, run_cons, next_function, run_cons, numbered,
    reading_other rfl, regrouped]
  change run (.operand (.items (.call f) [] :: stack)) _ = _
  cases args with
  | nil => rfl
  | cons e later =>
    rw [run_items (.call f) stack rest (e :: later) position [] nofun inArgs]
    cases allRegrouped (allNumbered position (e :: later)) with
    | none => exact (run_failed _).symm
    | some args' => rfl

/-! ## Leaves -/

theorem reads_column {name : String} (plain : ∀ c ∈ name.toList, c ≠ '.' ∧ c ≠ '\x60')
    (position : Nat) : Reads (.column (.named name)) position := by
  intro stack rest ends
  have unquoted : (name.toList.any fun c => c == '\x60' || c == '.') = false := by
    rw [List.any_eq_false]
    intro c mem
    have := plain c mem
    simp [this]
  have text : chars position (Expression.column (.named name)).pieces ++ rest =
      '\x60' :: (name.toList ++ '\x60' :: rest) := by
    simp [Expression.pieces, Column.piece, quoteIdentifier, unquoted]
  have noBacktick : '\x60' ∉ name.toList := fun mem => (plain _ mem).2 rfl
  rw [text, Lexeme.lexemes_name noBacktick ends, run_cons]
  rfl

theorem reads_value (literal : Literal) (position : Nat) : Reads (.value literal) position := by
  intro stack rest ends
  have text : chars position (Expression.value literal).pieces = (parameterName position).toList := by
    simp [Expression.pieces]
  have whole : "@" ++ ("P" ++ toString (firstParameterIndex + position)) =
      parameterName position := by
    rw [← String.append_assoc]
    rfl
  rw [text, Lexeme.lexemes_parameterName position ends, run_cons, next, whole]
  rfl

theorem reads_wildcard (position : Nat) : Reads Expression.wildcard position := by
  intro stack rest ends
  have text : chars position Expression.wildcard.pieces = "'%'".toList := by
    simp [Expression.wildcard, Expression.pieces]
  rw [text, Lexeme.lexemes_wildcard ends]
  rfl

end Reader

/-! ## Generated expressions -/

/-- A column whose name stands between backticks as it is. -/
def Column.IsPlain : Column → Prop
  | .named name => ∀ c ∈ name.toList, c ≠ '.' ∧ c ≠ '\x60'
  | .mapped _ => False

theorem Expression.Generated.reads {e : Expression} (generated : e.Generated Column.IsPlain) :
    ∀ position, Reader.Reads e position := by
  induction generated with
  | @column source plain =>
    intro position
    cases source with
    | named name => exact Reader.reads_column plain position
    | mapped fragment => exact plain.elim
  | value _ => exact Reader.reads_value _
  | wildcard => exact Reader.reads_wildcard
  | and _ _ inLeft inRight => exact fun position => Reader.reads_and (inLeft _) (inRight _)
  | or _ _ inLeft inRight => exact fun position => Reader.reads_or (inLeft _) (inRight _)
  | not _ inside => exact fun position => Reader.reads_not (inside _)
  | unary op _ inside => exact fun position => Reader.reads_unary op (inside _)
  | binary op _ _ inLeft inRight =>
    exact fun position => Reader.reads_binary op (inLeft _) (inRight _)
  | inList _ nonempty _ inItem inItems =>
    exact fun position => Reader.reads_inList (inItem _) nonempty inItems
  | function f _ inArgs => exact fun position => Reader.reads_function f inArgs

theorem Reader.result?_reading (e : Expression) : (reading [] e).result? = e.regrouped := by
  cases isRead : e.regrouped with
  | none =>
    rw [reading_none isRead]
    rfl
  | some e' =>
    have allowed : allowsNot [] = true := rfl
    obtain ⟨stack, first, isAfter, reduced⟩ := reading_weak allowed isRead 1 (by decide)
    rw [isAfter, result?, reduced]
    rfl

/-- The text of a generated expression is read as its regrouped tree. -/
theorem Expression.Generated.read_text {e : Expression} (generated : e.Generated Column.IsPlain) :
    read e.text = (e.numbered 0).regrouped := by
  have whole := generated.reads 0 [] [] .nothing
  rw [List.append_nil] at whole
  rw [read, Expression.text, text_toList, whole]
  exact Reader.result?_reading _

end Sql

namespace Draft

/-- **What a compiled predicate is read as.**  Its text is read as the regrouped tree, and that is
the tree itself, with a placeholder for each value, exactly when no `NOT` stands as an operand of
a comparison, a null test, `LIKE`, `IN` or a calculation. -/
theorem expression_read_text (env : Environment) (p : Predicate)
    (plain : p.EveryField fun field => (env.resolve field).IsPlain) (draft : Draft)
    (isDraft : draft = ofPredicate p ∨ draft = simplify env p) (e : Sql.Expression)
    (compiled : draft.expression env = .ok e) :
    Sql.read e.text = (e.numbered 0).regrouped ∧
      (Sql.read e.text = some (e.numbered 0) ↔ e.negationsApart = true) := by
  have every : EveryGenerated Sql.Column.IsPlain env draft := by
    rcases isDraft with rfl | rfl
    · exact ofPredicate_every plain
    · exact simplify_every plain
  have generated := expression_generated every e compiled
  have isRead := generated.read_text
  refine ⟨isRead, ?_⟩
  rw [isRead, Sql.Expression.regrouped_eq_some_iff, Sql.Expression.negationsApart_numbered]

/-- A row without declared fields, whose fields are the columns of their names. -/
def anyRow : Environment := ⟨.empty, .empty, true⟩

/-- `!(Age + 1 > 17) || Name == null`. -/
def minorOrNameless : Predicate :=
  .orElse (.not (.greaterThan (.add (.field "Age") (.literal (.int 1))) (.literal (.int 17))))
    (.equals (.field "Name") .null)

theorem expression_read_text_minorOrNameless :
    ∃ e, expression anyRow (ofPredicate minorOrNameless) = .ok e ∧
      Sql.read e.text = some (e.numbered 0) := by
  have plain : minorOrNameless.EveryField fun field => (anyRow.resolve field).IsPlain := by
    have age : (anyRow.resolve "Age").IsPlain := by
      change ∀ c ∈ ['A', 'g', 'e'], c ≠ '.' ∧ c ≠ '\x60'
      simp
    have name : (anyRow.resolve "Name").IsPlain := by
      change ∀ c ∈ ['N', 'a', 'm', 'e'], c ≠ '.' ∧ c ≠ '\x60'
      simp
    exact .binary _ (.unary _ (.binary _ (.binary _ (.field age) (.literal _)) (.literal _)))
      (.binary _ (.field name) (.literal _))
  refine ⟨_, rfl, ?_⟩
  exact (expression_read_text anyRow minorOrNameless plain _ (.inl rfl) _ rfl).2.2 rfl

/-- `!A == null`, a null test of a negation. -/
def negationIsNull : Predicate :=
  .equals (.not (.field "A")) .null

/-- The null test of a negation is read as the negation of a null test. -/
theorem negationIsNull_misread :
    ∃ e, expression anyRow (ofPredicate negationIsNull) = .ok e ∧
      Sql.read e.text = some (.not (.unary .isNull (.column (.named "A")))) ∧
      Sql.read e.text ≠ some (e.numbered 0) := by
  refine ⟨.unary .isNull (.not (.column (.named "A"))), rfl, ?_⟩
  have plain : Sql.Column.IsPlain (.named "A") := by
    change ∀ c ∈ ['A'], c ≠ '.' ∧ c ≠ '\x60'
    simp
  have generated : (Sql.Expression.unary .isNull (.not (.column (.named "A")))).Generated
      Sql.Column.IsPlain := .unary _ (.not (.column plain))
  rw [generated.read_text]
  exact ⟨rfl, nofun⟩

end Draft

end PlanCompiler
