/-
# Proofs.Reader -- how the database groups the words of an expression

The documented precedence of operators, from the weakest to the strongest:

1. `OR`
2. `AND`
3. `NOT`
4. comparisons, `IS`, `LIKE` and `IN`
5. `+` and `-`
6. `*`, `/` and `%`
7. `-` before an operand

Operators of one level group from left to right; parentheses and calls are operands.
The reader keeps what waits for its last operand on a stack of frames, the innermost
first.  An operator takes the operand before it from all frames that bind at least as
strongly as itself (`reduce`).

`reading` is the state after a whole tree has been read as an operand: the negation
that it may begin with still waits.  What the next word makes of it is said once for
each kind of word (`run_group` to `run_strongSecond`).
-/
import PlanCompiler.Proofs.Grouping
import PlanCompiler.Proofs.Lexeme

namespace PlanCompiler.Sql

set_option autoImplicit false

/-! ## Operators by their words -/

/-- What stands between two operands. -/
inductive Connector
  | and
  | or
  | operator (op : Operator)

namespace Connector

def level : Connector → Nat
  | .or => 1
  | .and => 2
  | .operator (.comparison _) | .operator .like => 4
  | .operator (.calculation .add) | .operator (.calculation .subtract) => 5
  | .operator (.calculation _) => 6

def node : Connector → Expression → Expression → Expression
  | .and => .and
  | .or => .or
  | .operator op => .binary op

def words : List (String × Connector) := [
  ("AND", .and),
  ("OR", .or),
  ("LIKE", .operator .like)]

def symbols : List (String × Connector) := [
  ("=", .operator (.comparison .equal)),
  ("!=", .operator (.comparison .notEqual)),
  ("<>", .operator (.comparison .notEqual)),
  ("<", .operator (.comparison .less)),
  ("<=", .operator (.comparison .lessOrEqual)),
  (">", .operator (.comparison .greater)),
  (">=", .operator (.comparison .greaterOrEqual)),
  ("+", .operator (.calculation .add)),
  ("-", .operator (.calculation .subtract)),
  ("*", .operator (.calculation .multiply)),
  ("/", .operator (.calculation .divide)),
  ("%", .operator (.calculation .modulo))]

end Connector

namespace Function

def all : List Function :=
  [.concat, .conditional, .now, .utcTimestamp, .currentDate, .uuid, .year, .month, .day, .hour,
    .minute, .second, .dayOfWeek, .dayOfYear, .upper, .lower, .trim]

def ofWord? (word : String) : Option Function :=
  all.find? fun f => f.word == word

theorem ofWord?_word (f : Function) : ofWord? f.word = some f := by
  cases f <;> decide

end Function

/-! ## The reader -/

/-- What the items in parentheses belong to. -/
inductive Owner
  | call (f : Function)
  | membership (item : Expression)

/-- What waits for its last operand, with the operands before it. -/
inductive Frame
  | group
  | items (owner : Owner) (read : List Expression)
  | not
  | minus
  | join (connector : Connector) (left : Expression)

namespace Frame

/-- How strongly it binds; what is closed by a parenthesis does not. -/
def level : Frame → Nat
  | .group | .items _ _ => 0
  | .join connector _ => connector.level
  | .not => 3
  | .minus => 7

/-- The frame with its last operand. -/
def apply : Frame → Expression → Expression
  | .group, e | .items _ _, e => e
  | .not, e => .not e
  | .minus, e => .unary .negate e
  | .join connector left, e => connector.node left e

end Frame

/-- The state of the reader. -/
inductive Reader
  /-- An operand is to come. -/
  | operand (stack : List Frame)
  /-- An operand has been read. -/
  | after (stack : List Frame) (e : Expression)
  /-- The name of a function has been read. -/
  | called (stack : List Frame) (f : Function)
  /-- `IS`, and perhaps `NOT`, has been read. -/
  | tested (stack : List Frame) (e : Expression) (test : UnaryOperator)
  /-- `IN` has been read. -/
  | within (stack : List Frame) (e : Expression)
  | failed

namespace Reader

/-- Give an operand to all frames that bind at least so strongly. -/
def reduce (level : Nat) : List Frame → Expression → List Frame × Expression
  | [], e => ([], e)
  | frame :: stack, e =>
    if level ≤ frame.level then reduce level stack (frame.apply e) else (frame :: stack, e)

/-- Whether `NOT` may begin an operand here. -/
def allowsNot : List Frame → Bool
  | [] => true
  | frame :: _ => frame.level ≤ Frame.not.level

/-- An operand that no operator follows inside it. -/
def complete : List Frame → Expression → Reader
  | .minus :: stack, e => complete stack (.unary .negate e)
  | stack, e => .after stack e

/-- The items in parentheses have all been read. -/
def finish (stack : List Frame) (items : List Expression) : Owner → Reader
  | .call f => complete stack (.function f items)
  | .membership item => .after stack (.inList item items)

def join (stack : List Frame) (e : Expression) : Option Connector → Reader
  | none => .failed
  | some connector =>
    let (stack, left) := reduce connector.level stack e
    .operand (.join connector left :: stack)

/-- After a closing parenthesis. -/
def close : List Frame × Expression → Reader
  | (.group :: stack, e) => complete stack e
  | (.items owner read :: stack, e) => finish stack (read ++ [e]) owner
  | _ => .failed

/-- After a comma. -/
def separate : List Frame × Expression → Reader
  | (.items owner read :: stack, e) => .operand (.items owner (read ++ [e]) :: stack)
  | _ => .failed

/-- The state after one more lexeme. -/
def next : Reader → Lexeme → Reader
  | .operand stack, .name text => complete stack (.column (.named text))
  | .operand stack, .quoted text => complete stack (.raw ("'" ++ text ++ "'"))
  | .operand stack, .variable text => complete stack (.raw ("@" ++ text))
  | .operand stack, .opening => .operand (.group :: stack)
  | .operand stack, .symbol text => if text = "-" then .operand (.minus :: stack) else .failed
  | .operand stack, .word text =>
    if text = "NOT" then if allowsNot stack then .operand (.not :: stack) else .failed
    else match Function.ofWord? text with
      | some f => .called stack f
      | none => .failed
  | .operand (.items (.call f) [] :: stack), .closing => finish stack [] (.call f)
  | .called stack f, .opening => .operand (.items (.call f) [] :: stack)
  | .after stack e, .word text =>
    if text = "IS" then
      let (stack, e) := reduce 4 stack e
      .tested stack e .isNull
    else if text = "IN" then
      let (stack, e) := reduce 4 stack e
      .within stack e
    else join stack e (Connector.words.lookup text)
  | .after stack e, .symbol text => join stack e (Connector.symbols.lookup text)
  | .after stack e, .closing => close (reduce 1 stack e)
  | .after stack e, .comma => separate (reduce 1 stack e)
  | .tested stack e test, .word text =>
    if text = "NULL" then .after stack (.unary test e)
    else if text = "NOT" && test = .isNull then .tested stack e .isNotNull
    else .failed
  | .within stack e, .opening => .operand (.items (.membership e) [] :: stack)
  | _, _ => .failed

def run (reader : Reader) (lexemes : List Lexeme) : Reader :=
  lexemes.foldl next reader

/-- The whole expression, if nothing waits any more. -/
def result? : Reader → Option Expression
  | .after stack e =>
    match reduce 1 stack e with
    | ([], e) => some e
    | _ => none
  | _ => none

end Reader

/-- The tree that a text is read as. -/
def read (sql : String) : Option Expression :=
  ((Reader.operand []).run (lexemes .between sql.toList)).result?

/-! ## The reader on one expression -/

namespace Reader

open Expression (regrouped regrouped_not_eq_some floated)

/-- The state after a tree has been read as an operand. -/
def reading (stack : List Frame) : Expression → Reader
  | .not negated =>
    match regrouped negated with
    | some inner => if allowsNot stack then .after (.not :: stack) inner else .failed
    | none => .failed
  | e =>
    match regrouped e with
    | some read => complete stack read
    | none => .failed

theorem run_failed (lexemes : List Lexeme) : run .failed lexemes = .failed := by
  induction lexemes with
  | nil => rfl
  | cons lexeme rest ih => exact ih

theorem reading_not {a a' : Expression} (isRead : regrouped a = some a') (stack : List Frame) :
    reading stack (.not a) =
      if allowsNot stack then .after (.not :: stack) a' else .failed := by
  rw [reading, isRead]

theorem reading_other {e : Expression} (notNot : e.isNot = false) (stack : List Frame) :
    reading stack e =
      match regrouped e with
      | some read => complete stack read
      | none => .failed := by
  cases e with
  | not a => cases notNot
  | _ => rfl

theorem reading_none {e : Expression} (unreadable : regrouped e = none) (stack : List Frame) :
    reading stack e = .failed := by
  cases isNot : e.isNot with
  | false => rw [reading_other isNot, unreadable]
  | true =>
    cases e with
    | not a =>
      have inside : regrouped a = none := by
        cases isRead : regrouped a with
        | none => rfl
        | some a' => simp [regrouped, isRead] at unreadable
      rw [reading, inside]
    | _ => cases isNot

/-- Where `NOT` may begin, no `-` waits for an operand. -/
theorem complete_of_allowsNot {stack : List Frame} (allowed : allowsNot stack = true)
    (e : Expression) : complete stack e = .after stack e := by
  cases stack with
  | nil => rfl
  | cons frame stack =>
    cases frame with
    | minus => simp [allowsNot, Frame.level] at allowed
    | _ => rfl

/-- What a parenthesis closes takes no operand from an operator. -/
theorem reduce_bracket {frame : Frame} (bracket : frame.level = 0) {level : Nat}
    (positive : 0 < level) (stack : List Frame) (e : Expression) :
    reduce level (frame :: stack) e = (frame :: stack, e) := by
  rw [reduce, if_neg (by omega)]

/-- An operand under weak operators is read as its tree, once something weak follows it. -/
theorem reading_weak {stack : List Frame} (allowed : allowsNot stack = true) {e e' : Expression}
    (isRead : regrouped e = some e') (level : Nat) (weak : level ≤ 3) :
    ∃ stack' first, reading stack e = .after stack' first ∧
      reduce level stack' first = reduce level stack e' := by
  cases isNot : e.isNot with
  | false =>
    refine ⟨stack, e', ?_, rfl⟩
    rw [reading_other isNot, isRead]
    exact complete_of_allowsNot allowed e'
  | true =>
    cases e with
    | not a =>
      obtain ⟨a', inside, rfl⟩ := regrouped_not_eq_some isRead
      refine ⟨.not :: stack, a', ?_, ?_⟩
      · rw [reading_not inside, if_pos allowed]
      · rw [reduce, if_pos (show level ≤ Frame.not.level from weak)]
        rfl
    | _ => cases isNot

/-- An operand in parentheses under a strong operator keeps its `NOT` waiting. -/
theorem reading_strong {e e' : Expression} (isRead : regrouped e = some e') (stack : List Frame)
    {level : Nat} (strong : 3 < level) :
    ∃ stack' first, reading (.group :: stack) e = .after stack' first ∧
      reduce level stack' first = (stack', first) ∧
      ∀ node, reduce 1 stack' (node first) = (.group :: stack, floated node e e') := by
  cases isNot : e.isNot with
  | false =>
    refine ⟨.group :: stack, e', ?_, ?_, fun node => ?_⟩
    · rw [reading_other isNot, isRead]
      rfl
    · exact reduce_bracket rfl (by omega) stack e'
    · rw [reduce_bracket rfl (by omega)]
      cases e with
      | not a => cases isNot
      | _ => rfl
  | true =>
    cases e with
    | not a =>
      obtain ⟨a', inside, rfl⟩ := regrouped_not_eq_some isRead
      refine ⟨.not :: .group :: stack, a', ?_, ?_, fun node => ?_⟩
      · rw [reading_not inside]
        rfl
      · rw [reduce, if_neg (by simp only [Frame.level]; omega)]
      · rfl
    | _ => cases isNot

/-! ### One word after an operand -/

theorem run_cons (reader : Reader) (lexeme : Lexeme) (rest : List Lexeme) :
    run reader (lexeme :: rest) = run (reader.next lexeme) rest := rfl

/-- The last operand of a group. -/
theorem run_group {e e' : Expression} (isRead : regrouped e = some e') (stack : List Frame)
    (rest : List Lexeme) :
    run (reading (.group :: stack) e) (.closing :: rest) = run (complete stack e') rest := by
  have allowed : allowsNot (.group :: stack) = true := rfl
  obtain ⟨stack', first, isAfter, reduced⟩ := reading_weak allowed isRead 1 (by decide)
  rw [isAfter, run_cons, next, reduced, reduce_bracket rfl (by decide)]
  rfl

/-- An item in parentheses, which is not the last one. -/
theorem run_item {e e' : Expression} (isRead : regrouped e = some e') (owner : Owner)
    (read : List Expression) (stack : List Frame) (rest : List Lexeme) :
    run (reading (.items owner read :: stack) e) (.comma :: rest) =
      run (.operand (.items owner (read ++ [e']) :: stack)) rest := by
  have allowed : allowsNot (.items owner read :: stack) = true := rfl
  obtain ⟨stack', first, isAfter, reduced⟩ := reading_weak allowed isRead 1 (by decide)
  rw [isAfter, run_cons, next, reduced, reduce_bracket rfl (by decide)]
  rfl

/-- The last item in parentheses. -/
theorem run_lastItem {e e' : Expression} (isRead : regrouped e = some e') (owner : Owner)
    (read : List Expression) (stack : List Frame) (rest : List Lexeme) :
    run (reading (.items owner read :: stack) e) (.closing :: rest) =
      run (finish stack (read ++ [e']) owner) rest := by
  have allowed : allowsNot (.items owner read :: stack) = true := rfl
  obtain ⟨stack', first, isAfter, reduced⟩ := reading_weak allowed isRead 1 (by decide)
  rw [isAfter, run_cons, next, reduced, reduce_bracket rfl (by decide)]
  rfl

/-- The first operand of an operator that is weaker than `NOT`. -/
theorem run_weakFirst {connector : Connector} (positive : 0 < connector.level)
    (weak : connector.level ≤ 3) {lexeme : Lexeme}
    (isLexeme : ∀ stack e, next (.after stack e) lexeme = join stack e (some connector))
    {e e' : Expression} (isRead : regrouped e = some e') (stack : List Frame)
    (rest : List Lexeme) :
    run (reading (.group :: stack) e) (lexeme :: rest) =
      run (.operand (.join connector e' :: .group :: stack)) rest := by
  have allowed : allowsNot (.group :: stack) = true := rfl
  obtain ⟨stack', first, isAfter, reduced⟩ := reading_weak allowed isRead _ weak
  rw [isAfter, run_cons, isLexeme, join, reduced, reduce_bracket rfl positive]

/-- The second operand of an operator that is weaker than `NOT`. -/
theorem run_weakSecond {connector : Connector} (positive : 0 < connector.level)
    (weak : connector.level ≤ 3) {e e' : Expression} (isRead : regrouped e = some e')
    (left : Expression) (stack : List Frame) (rest : List Lexeme) :
    run (reading (.join connector left :: .group :: stack) e) (.closing :: rest) =
      run (complete stack (connector.node left e')) rest := by
  have allowed : allowsNot (.join connector left :: .group :: stack) = true :=
    decide_eq_true weak
  have given : reduce 1 (.join connector left :: .group :: stack) e' =
      (.group :: stack, connector.node left e') := by
    rw [reduce, if_pos (show 1 ≤ (Frame.join connector left).level from positive)]
    exact reduce_bracket rfl (by decide) stack _
  obtain ⟨stack', first, isAfter, reduced⟩ := reading_weak allowed isRead 1 (by decide)
  rw [isAfter, run_cons, next, reduced, given]
  rfl

theorem next_operator (op : Operator) (stack : List Frame) (e : Expression) :
    next (.after stack e) (.ofOperator op) = join stack e (some (.operator op)) := by
  cases op with
  | comparison op => cases op <;> rfl
  | calculation op => cases op <;> rfl
  | like => rfl

theorem operator_strong (op : Operator) : 3 < (Connector.operator op).level := by
  cases op with
  | comparison op => exact (by decide : 3 < 4)
  | calculation op => cases op <;> decide
  | like => exact (by decide : 3 < 4)

/-- The operands of an operator that is stronger than `NOT`. -/
theorem run_strongFirst (op : Operator) {e e' : Expression} (isRead : regrouped e = some e')
    (stack : List Frame) :
    ∃ stack' first,
      (∀ rest, run (reading (.group :: stack) e) (.ofOperator op :: rest) =
        run (.operand (.join (.operator op) first :: stack')) rest) ∧
      ∀ node, reduce 1 stack' (node first) = (.group :: stack, floated node e e') := by
  obtain ⟨stack', first, isAfter, kept, given⟩ :=
    reading_strong isRead stack (operator_strong op)
  refine ⟨stack', first, fun rest => ?_, given⟩
  rw [isAfter, run_cons, next_operator, join, kept]

theorem run_strongSecond (op : Operator) {e e' : Expression} (notNot : e.isNot = false)
    (isRead : regrouped e = some e') {first whole : Expression} {stack stack' : List Frame}
    (given : reduce 1 stack' (.binary op first e') = (.group :: stack, whole))
    (rest : List Lexeme) :
    run (reading (.join (.operator op) first :: stack') e) (.closing :: rest) =
      run (complete stack whole) rest := by
  have positive : 1 ≤ (Frame.join (.operator op) first).level :=
    Nat.le_of_lt (Nat.lt_of_le_of_lt (by decide) (operator_strong op))
  rw [reading_other notNot, isRead]
  change run (next (.after (.join (.operator op) first :: stack') e') .closing) rest = _
  rw [next, reduce, if_pos positive]
  change run (close (reduce 1 stack' (.binary op first e'))) rest = _
  rw [given]
  rfl

/-- `NOT` cannot be read as the second operand of a strong operator. -/
theorem reading_strongSecond_not (op : Operator) {e : Expression} (isNot : e.isNot = true)
    (first : Expression) (stack : List Frame) :
    reading (.join (.operator op) first :: stack) e = .failed := by
  have refused : allowsNot (.join (.operator op) first :: stack) = false :=
    decide_eq_false (Nat.not_le_of_lt (operator_strong op))
  cases e with
  | not a =>
    cases isRead : regrouped a with
    | none => rw [reading, isRead]
    | some a' => rw [reading_not isRead, refused]; rfl
  | _ => cases isNot

end Reader

end PlanCompiler.Sql
