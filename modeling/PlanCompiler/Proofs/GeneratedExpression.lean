/-
# Proofs.GeneratedExpression -- what compiled expressions are made of

`Sql.Expression.Generated` are the expressions that drafts compile to.  Their
values are no collections, the list of a membership test is never empty, and the
only words that are written without quotation are those of the wildcard.  What the
columns are read from is a parameter: it is what the fields resolve to.

`Sql.Expression.OfCall` lists the forms of calls, each with what its operands
compile to.  A call that compiles to SQL has one of them (`ofCall?_eq_ok`).

`Term.Every` says something of all leaves and of all fields of a term.  The passes
of the compiler only rearrange the parts of a draft, so what holds of all its
leaves and fields still holds of them afterwards (`simplify_every`).
-/
import PlanCompiler.Compile.Condition
import PlanCompiler.Proofs.Results

namespace PlanCompiler

set_option autoImplicit false

/-! ## Expressions -/

namespace Literal

def isArray : Literal → Bool
  | .array _ => true
  | _ => false

end Literal

namespace Sql.Expression

/-- Expressions that a draft compiles to. -/
inductive Generated (fromColumn : Column → Prop) : Expression → Prop
  | column {source : Column} (known : fromColumn source) : Generated fromColumn (.column source)
  | value {literal : Literal} (single : literal.isArray = false) :
      Generated fromColumn (.value literal)
  | wildcard : Generated fromColumn wildcard
  | and {left right : Expression} (inLeft : Generated fromColumn left)
      (inRight : Generated fromColumn right) : Generated fromColumn (.and left right)
  | or {left right : Expression} (inLeft : Generated fromColumn left)
      (inRight : Generated fromColumn right) : Generated fromColumn (.or left right)
  | not {operand : Expression} (inside : Generated fromColumn operand) :
      Generated fromColumn (.not operand)
  | unary (op : UnaryOperator) {operand : Expression} (inside : Generated fromColumn operand) :
      Generated fromColumn (.unary op operand)
  | binary (op : Operator) {left right : Expression} (inLeft : Generated fromColumn left)
      (inRight : Generated fromColumn right) : Generated fromColumn (.binary op left right)
  | inList {item : Expression} {items : List Expression} (inItem : Generated fromColumn item)
      (nonempty : items ≠ []) (inItems : ∀ e ∈ items, Generated fromColumn e) :
      Generated fromColumn (.inList item items)
  | function (f : Function) {args : List Expression} (inArgs : ∀ e ∈ args, Generated fromColumn e) :
      Generated fromColumn (.function f args)

end Sql.Expression

/-- Whatever the operand compiles to is generated. -/
def Operand.IsGenerated (fromColumn : Sql.Column → Prop) (operand : Operand) : Prop :=
  ∀ e, operand.sql = .ok e → e.Generated fromColumn

namespace Sql.Expression

variable {fromColumn : Column → Prop}

/-! ### Calls -/

/-- A membership test has two operands, the first of them a collection. -/
theorem membership?_eq_some {target : Option Operand} {args : List Operand} {items : List Literal}
    {item : Operand} (found : membership? target args = some (items, item)) :
    ∃ collection, target.toList ++ args = [collection, item] ∧ collection.items? = some items := by
  unfold membership? at found
  split at found
  · obtain ⟨items', isCollection, same⟩ := Option.map_eq_some_iff.1 found
    cases same
    exact ⟨_, rfl, isCollection⟩
  · obtain ⟨items', isCollection, same⟩ := Option.map_eq_some_iff.1 found
    cases same
    exact ⟨_, rfl, isCollection⟩
  · cases found

/-- What a call compiles to, from its operands with the target first.  All of them compile
themselves, but for the collection of a membership test. -/
inductive OfCall : List Operand → Expression → Prop
  /-- The value of a nullable operand is the operand. -/
  | value {operand : Operand} {e : Expression} (compiles : operand.sql = .ok e) :
      OfCall [operand] e
  | unaryFunction (f : Function) {operand : Operand} {e : Expression}
      (compiles : operand.sql = .ok e) : OfCall [operand] (.function f [e])
  | generator (generator : Generator) : OfCall [] (.function generator.function [])
  | equality {left right : Operand} {a b : Expression} (isLeft : left.sql = .ok a)
      (isRight : right.sql = .ok b) :
      OfCall [left, right] (.binary (.comparison .equal) a b)
  | concat {operands : List Operand} {parts : List Expression}
      (areParts : operands.mapM Operand.sql = .ok parts) :
      OfCall operands (.function .concat parts)
  | like {text part : Operand} {e p : Expression} {pattern : List Expression}
      (isPattern : pattern ∈ [[wildcard, p, wildcard], [p, wildcard], [wildcard, p]])
      (isText : text.sql = .ok e) (isPart : part.sql = .ok p) :
      OfCall [text, part] (.binary .like e (.function .concat pattern))
  | membership {collection item : Operand} {items : List Literal} {values : List Expression}
      {e : Expression} (isCollection : collection.items? = some items)
      (areValues : items.mapM ofItem = .ok values) (nonempty : values ≠ [])
      (isItem : item.sql = .ok e) : OfCall [collection, item] (.inList e values)

theorem OfCall.of_unaryFunction {f : Function} {operand : Operand} {sql : Expression}
    (compiled : some <$> Expression.unaryFunction f operand = .ok (some sql)) : OfCall [operand] sql := by
  obtain ⟨_, result, same⟩ := Except.map_eq_ok.1 compiled
  cases same
  obtain ⟨e, compiles, same⟩ := Except.bind_eq_ok.1 result
  cases same
  exact .unaryFunction f compiles

theorem OfCall.of_equality {left right : Operand} {sql : Expression}
    (compiled : some <$> Expression.equality left right = .ok (some sql)) : OfCall [left, right] sql := by
  obtain ⟨_, result, same⟩ := Except.map_eq_ok.1 compiled
  cases same
  obtain ⟨a, isLeft, result⟩ := Except.bind_eq_ok.1 result
  obtain ⟨b, isRight, same⟩ := Except.bind_eq_ok.1 result
  cases same
  exact .equality isLeft isRight

theorem OfCall.of_like {text part : Operand} {sql : Expression}
    {pattern : Expression → List Expression}
    (isPattern : ∀ p, pattern p ∈ [[wildcard, p, wildcard], [p, wildcard], [wildcard, p]])
    (compiled : (do
        let part ← part.sql
        some <$> Expression.like text (pattern part) :
      Except CompileError (Option Expression)) = .ok (some sql)) : OfCall [text, part] sql := by
  obtain ⟨p, isPart, compiled⟩ := Except.bind_eq_ok.1 compiled
  obtain ⟨_, result, same⟩ := Except.map_eq_ok.1 compiled
  cases same
  obtain ⟨e, isText, same⟩ := Except.bind_eq_ok.1 result
  cases same
  exact .like (isPattern p) isText isPart

theorem OfCall.of_membership {name : String} {collection item : Operand} {items : List Literal}
    {sql : Expression} (isCollection : collection.items? = some items)
    (compiled : some <$> ofMembership name items item = .ok (some sql)) :
    OfCall [collection, item] sql := by
  obtain ⟨_, result, same⟩ := Except.map_eq_ok.1 compiled
  cases same
  cases items with
  | nil => cases result
  | cons first rest =>
    obtain ⟨values, areValues, result⟩ := Except.bind_eq_ok.1 result
    obtain ⟨e, isItem, same⟩ := Except.bind_eq_ok.1 result
    cases same
    refine .membership isCollection areValues ?_ isItem
    obtain ⟨value, mem, -⟩ := Except.exists_result_of_mapM areValues first List.mem_cons_self
    exact List.ne_nil_of_mem mem

theorem ofCall?_eq_ok {name : String} {target : Option Operand} {args : List Operand}
    {isStatic : Bool} {sql : Expression}
    (compiled : ofCall? name target args isStatic = .ok (some sql)) :
    OfCall (target.toList ++ args) sql := by
  unfold ofCall? at compiled
  -- one case for each form that has SQL, in the order of the definition
  split at compiled
  case h_1 =>
    obtain ⟨_, compiles, same⟩ := Except.map_eq_ok.1 compiled
    cases same
    exact .value compiles
  case h_2 | h_3 => exact .of_equality compiled
  case h_4 =>
    split at compiled
    · cases compiled
    · obtain ⟨parts, areParts, same⟩ := Except.bind_eq_ok.1 compiled
      cases same
      exact .concat areParts
  case h_5 =>
    split at compiled
    · rename_i items item found
      obtain ⟨collection, operands, isCollection⟩ := membership?_eq_some found
      rw [operands]
      exact .of_membership isCollection compiled
    · split at compiled
      · exact .of_like (by simp) compiled
      · cases compiled
  case h_6 | h_7 => exact .of_like (by simp) compiled
  case h_8 | h_9 | h_10 | h_12 => exact .of_unaryFunction compiled
  case h_11 generator _ =>
    split at compiled <;> cases compiled
    exact .generator generator
  case h_13 => cases compiled

theorem ofItem_generated {item : Literal} {e : Expression} (compiled : ofItem item = .ok e) :
    Generated fromColumn e := by
  cases item <;> cases compiled <;> exact .value rfl

theorem OfCall.generated {operands : List Operand} {sql : Expression} (call : OfCall operands sql)
    (inOperands : ∀ o ∈ operands, o.IsGenerated fromColumn) : Generated fromColumn sql := by
  cases call with
  | value compiles => exact inOperands _ (by simp) _ compiles
  | unaryFunction f compiles =>
    exact .function f (List.forall_mem_singleton.2 (inOperands _ (by simp) _ compiles))
  | generator generator => exact .function _ nofun
  | equality isLeft isRight =>
    exact .binary _ (inOperands _ (by simp) _ isLeft) (inOperands _ (by simp) _ isRight)
  | concat areParts =>
    refine .function .concat fun e mem => ?_
    obtain ⟨o, isOperand, compiles⟩ := Except.exists_of_mapM areParts e mem
    exact inOperands o isOperand e compiles
  | @like text part e p pattern isPattern isText isPart =>
    have inPart : Generated fromColumn p := inOperands part (by simp) p isPart
    refine .binary .like (inOperands text (by simp) e isText) (.function .concat ?_)
    simp only [List.mem_cons, List.not_mem_nil, or_false] at isPattern
    rcases isPattern with rfl | rfl | rfl <;> simp [Generated.wildcard, inPart]
  | membership _ areValues nonempty isItem =>
    refine .inList (inOperands _ (by simp) _ isItem) nonempty fun value mem => ?_
    obtain ⟨_, _, ofItem⟩ := Except.exists_of_mapM areValues value mem
    exact ofItem_generated ofItem

theorem ofCall?_generated {name : String} {target : Option Operand} {args : List Operand}
    {isStatic : Bool} {sql : Expression}
    (inTarget : ∀ t, target = some t → t.IsGenerated fromColumn)
    (inArgs : ∀ a ∈ args, a.IsGenerated fromColumn)
    (compiled : ofCall? name target args isStatic = .ok (some sql)) :
    Generated fromColumn sql := by
  refine (ofCall?_eq_ok compiled).generated fun operand mem => ?_
  rcases List.mem_append.1 mem with mem | mem
  · exact inTarget operand (Option.mem_toList.1 mem)
  · exact inArgs operand mem

end Sql.Expression

/-! ## Terms -/

namespace Term

variable {Leaf : Type}

/-- All leaves and all fields of a term are as told. -/
inductive Every (onLeaf : Leaf → Prop) (onField : String → Prop) : Term Leaf → Prop
  | leaf {value : Leaf} (known : onLeaf value) : Every onLeaf onField (.leaf value)
  | field {name : String} (known : onField name) : Every onLeaf onField (.field name)
  | literal (value : Literal) : Every onLeaf onField (.literal value)
  | unary (op : UnaryOp) {operand : Term Leaf} (inside : Every onLeaf onField operand) :
      Every onLeaf onField (.unary op operand)
  | binary (op : BinaryOp) {left right : Term Leaf} (inLeft : Every onLeaf onField left)
      (inRight : Every onLeaf onField right) : Every onLeaf onField (.binary op left right)
  | conditional {test whenTrue whenFalse : Term Leaf} (inTest : Every onLeaf onField test)
      (inTrue : Every onLeaf onField whenTrue) (inFalse : Every onLeaf onField whenFalse) :
      Every onLeaf onField (.conditional test whenTrue whenFalse)
  | call (name : String) {target : Option (Term Leaf)} {args : List (Term Leaf)} (isStatic : Bool)
      (inTarget : ∀ t, target = some t → Every onLeaf onField t)
      (inArgs : ∀ a ∈ args, Every onLeaf onField a) :
      Every onLeaf onField (.call name target args isStatic)

variable {onLeaf : Leaf → Prop} {onField : String → Prop}

theorem every_of_forall (leaves : ∀ value, onLeaf value) (fields : ∀ name, onField name)
    (t : Term Leaf) : Every onLeaf onField t := by
  induction t using Term.induct with
  | leaf value => exact .leaf (leaves value)
  | field name => exact .field (fields name)
  | literal value => exact .literal value
  | unary op operand inside => exact .unary op inside
  | binary op left right inLeft inRight => exact .binary op inLeft inRight
  | conditional test whenTrue whenFalse inTest inTrue inFalse =>
    exact .conditional inTest inTrue inFalse
  | call name target args isStatic inTarget inArgs => exact .call name isStatic inTarget inArgs

/-- What every step keeps, the transformation keeps. -/
theorem transform_every {step : Term Leaf → Term Leaf}
    (keeps : ∀ t, Every onLeaf onField t → Every onLeaf onField (step t)) {t : Term Leaf}
    (every : Every onLeaf onField t) : Every onLeaf onField (t.transform step) := by
  induction every with
  | leaf known => exact keeps _ (.leaf known)
  | field known => exact keeps _ (.field known)
  | literal value => exact keeps _ (.literal value)
  | unary op _ inside => exact keeps _ (.unary op inside)
  | binary op _ _ inLeft inRight => exact keeps _ (.binary op inLeft inRight)
  | conditional _ _ _ inTest inTrue inFalse => exact keeps _ (.conditional inTest inTrue inFalse)
  | call name isStatic _ _ inTarget inArgs =>
    refine keeps _ (.call name isStatic ?_ ?_)
    · intro t isTarget
      rw [transformTarget_eq_map] at isTarget
      obtain ⟨t', given, rfl⟩ := Option.map_eq_some_iff.1 isTarget
      exact inTarget t' given
    · intro a mem
      rw [transformArgs_eq_map] at mem
      obtain ⟨a', given, rfl⟩ := List.mem_map.1 mem
      exact inArgs a' given

theorem mapLeaves_every {Other : Type} {f : Leaf → Other} {onOther : Other → Prop}
    (leaves : ∀ value, onLeaf value → onOther (f value)) {t : Term Leaf}
    (every : Every onLeaf onField t) : Every onOther onField (t.mapLeaves f) := by
  induction every with
  | leaf known => exact .leaf (leaves _ known)
  | field known => exact .field known
  | literal value => exact .literal value
  | unary op _ inside => exact .unary op inside
  | binary op _ _ inLeft inRight => exact .binary op inLeft inRight
  | conditional _ _ _ inTest inTrue inFalse => exact .conditional inTest inTrue inFalse
  | call name isStatic _ _ inTarget inArgs =>
    refine .call name isStatic ?_ ?_
    · intro t isTarget
      rw [mapTarget_eq_map] at isTarget
      obtain ⟨t', given, rfl⟩ := Option.map_eq_some_iff.1 isTarget
      exact inTarget t' given
    · intro a mem
      rw [mapArgs_eq_map] at mem
      obtain ⟨a', given, rfl⟩ := List.mem_map.1 mem
      exact inArgs a' given

theorem foldStep_every (t : Term Leaf) (every : Every onLeaf onField t) :
    Every onLeaf onField (foldStep t) := by
  cases every with
  | leaf known => exact .leaf known
  | field known => exact .field known
  | literal value => exact .literal value
  | unary op inside =>
    simp only [foldStep]
    split
    · exact .literal _
    · exact .unary op inside
  | binary op inLeft inRight =>
    simp only [foldStep]
    split
    · exact .literal _
    · exact .binary op inLeft inRight
  | conditional inTest inTrue inFalse =>
    simp only [foldStep, branch?]
    split
    · exact inTrue
    · split
      · exact inFalse
      · exact .conditional inTest inTrue inFalse
  | call name isStatic inTarget inArgs =>
    simp only [foldStep]
    split
    · exact .literal _
    · exact .call name isStatic inTarget inArgs

theorem fold_every {t : Term Leaf} (every : Every onLeaf onField t) :
    Every onLeaf onField t.fold :=
  transform_every foldStep_every every

end Term

/-- All fields of a predicate are as told. -/
abbrev Predicate.EveryField (onField : String → Prop) (p : Predicate) : Prop :=
  Term.Every (fun _ => True) onField p

/-! ## Columns -/

namespace Environment

theorem of_check {env : Environment} {field : String} (checked : env.check field = .ok ()) :
    env.knows field = true := by
  unfold check at checked
  split at checked
  · assumption
  · cases checked

/-- A field is read from where it resolves to, if the row has it. -/
theorem of_column {env : Environment} {field : String} {column : Sql.Column}
    (found : env.column field = .ok column) :
    env.knows field = true ∧ column = env.resolve field := by
  obtain ⟨_, checked, same⟩ := Except.bind_eq_ok.1 found
  cases same
  exact ⟨of_check checked, rfl⟩

end Environment

/-! ## Drafts -/

namespace Draft

open Term

variable {onLeaf : Sql.Expression → Prop} {onField : String → Prop}

theorem compared?_every {draft a b : Draft} (every : Every onLeaf onField draft)
    (found : compared? draft = some (a, b)) : Every onLeaf onField a ∧ Every onLeaf onField b := by
  cases every with
  | call name isStatic inTarget inArgs =>
    unfold compared? at found
    simp only at found
    split at found
    · cases found
      exact ⟨inArgs _ (by simp), inArgs _ (by simp)⟩
    · cases found
      exact ⟨inTarget _ rfl, inArgs _ (by simp)⟩
    · cases found
  | _ => cases found

theorem guarded?_every {test whenTrue whenFalse value : Draft}
    (inTest : Every onLeaf onField test)
    (found : guarded? test whenTrue whenFalse = some value) : Every onLeaf onField value := by
  unfold guarded? at found
  split at found
  · cases inTest with
    | binary _ inLeft inRight =>
      split at found
      · cases found
      · rename_i checked isChecked
        have inChecked : Every onLeaf onField checked := by
          unfold checkedForNull? at isChecked
          split at isChecked
          · cases isChecked
            exact inLeft
          · split at isChecked <;> cases isChecked
            exact inRight
        split at found <;> simp only [Option.ite_none_right_eq_some, Option.some.injEq,
          reduceCtorEq] at found
        · exact found.2 ▸ inChecked
        · exact found.2 ▸ inChecked
  · cases found

theorem normalizeStep_every (draft : Draft) (every : Every onLeaf onField draft) :
    Every onLeaf onField (normalizeStep draft) := by
  unfold normalizeStep
  split
  · cases every with
    | binary _ inLeft inRight =>
      split
      · exact inRight
      · split
        · exact inLeft
        · exact .binary _ inLeft inRight
  · cases every with
    | binary _ inLeft inRight =>
      split
      · exact inRight
      · split
        · exact inLeft
        · exact .binary _ inLeft inRight
  · cases every with
    | binary _ inLeft inRight =>
      split
      · rename_i found
        obtain ⟨-, found⟩ := Option.ite_none_right_eq_some.1 found
        obtain ⟨first, second⟩ := compared?_every inLeft found
        exact .binary _ first second
      · exact .binary _ inLeft inRight
  · cases every with
    | conditional inTest inTrue inFalse =>
      cases found : guarded? _ _ _ with
      | some value => exact guarded?_every inTest found
      | none => exact .conditional inTest inTrue inFalse
  · exact every

theorem normalize_every {draft : Draft} (every : Every onLeaf onField draft) :
    Every onLeaf onField (normalize draft) :=
  transform_every normalizeStep_every every

/-! ### Compiling -/

variable {env : Environment} {fromColumn : Sql.Column → Prop}

/-- The compiled parts of a draft are generated, and so are the columns of its fields. -/
abbrev EveryGenerated (fromColumn : Sql.Column → Prop) (env : Environment) (draft : Draft) : Prop :=
  Every (Sql.Expression.Generated fromColumn) (fun field => fromColumn (env.resolve field)) draft

theorem comparison_generated {op : Comparison} {left right : Draft} {sql : Sql.Expression}
    (inLeft : ∀ e, left.expression env = .ok e → e.Generated fromColumn)
    (inRight : ∀ e, right.expression env = .ok e → e.Generated fromColumn)
    (compiled : expression env (.binary (.comparison op) left right) = .ok sql) :
    sql.Generated fromColumn := by
  simp only [expression] at compiled
  split at compiled
  · obtain ⟨e, isLeft, rfl⟩ := Except.map_eq_ok.1 compiled
    exact .unary _ (inLeft e isLeft)
  · obtain ⟨e, isRight, rfl⟩ := Except.map_eq_ok.1 compiled
    exact .unary _ (inRight e isRight)
  · obtain ⟨a, isLeft, compiled⟩ := Except.bind_eq_ok.1 compiled
    obtain ⟨b, isRight, same⟩ := Except.bind_eq_ok.1 compiled
    cases same
    exact .binary _ (inLeft a isLeft) (inRight b isRight)

theorem binary_generated {op : BinaryOp} {left right : Draft} {sql : Sql.Expression}
    (inLeft : ∀ e, left.expression env = .ok e → e.Generated fromColumn)
    (inRight : ∀ e, right.expression env = .ok e → e.Generated fromColumn)
    (compiled : expression env (.binary op left right) = .ok sql) : sql.Generated fromColumn := by
  cases op with
  | comparison op => exact comparison_generated inLeft inRight compiled
  | andAlso =>
    obtain ⟨a, isLeft, compiled⟩ := Except.bind_eq_ok.1 compiled
    obtain ⟨b, isRight, same⟩ := Except.bind_eq_ok.1 compiled
    cases same
    exact .and (inLeft a isLeft) (inRight b isRight)
  | orElse =>
    obtain ⟨a, isLeft, compiled⟩ := Except.bind_eq_ok.1 compiled
    obtain ⟨b, isRight, same⟩ := Except.bind_eq_ok.1 compiled
    cases same
    exact .or (inLeft a isLeft) (inRight b isRight)
  | calculation op =>
    obtain ⟨a, isLeft, compiled⟩ := Except.bind_eq_ok.1 compiled
    obtain ⟨b, isRight, same⟩ := Except.bind_eq_ok.1 compiled
    cases same
    exact .binary _ (inLeft a isLeft) (inRight b isRight)

/-- What a draft compiles to is generated.  Only of the fields that the row has must be known where
they are read from, as the others do not compile. -/
theorem expression_generated_of_columns
    (columns : ∀ field, onField field → env.knows field = true → fromColumn (env.resolve field))
    {draft : Draft} (every : Every (Sql.Expression.Generated fromColumn) onField draft) :
    ∀ sql, draft.expression env = .ok sql → sql.Generated fromColumn := by
  induction every with
  | leaf known =>
    intro sql compiled
    cases compiled
    exact known
  | @field name known =>
    intro sql compiled
    obtain ⟨column, isColumn, rfl⟩ := Except.map_eq_ok.1 compiled
    obtain ⟨has, rfl⟩ := Environment.of_column isColumn
    exact .column (columns name known has)
  | literal value =>
    intro sql compiled
    cases value <;> cases compiled <;> exact .value rfl
  | unary op _ inside =>
    intro sql compiled
    cases op with
    | not =>
      obtain ⟨e, isOperand, rfl⟩ := Except.map_eq_ok.1 compiled
      exact .not (inside e isOperand)
    | negate =>
      obtain ⟨e, isOperand, rfl⟩ := Except.map_eq_ok.1 compiled
      exact .unary .negate (inside e isOperand)
  | binary op _ _ inLeft inRight =>
    intro sql compiled
    exact binary_generated inLeft inRight compiled
  | conditional _ _ _ inTest inTrue inFalse =>
    intro sql compiled
    obtain ⟨a, isTest, compiled⟩ := Except.bind_eq_ok.1 compiled
    obtain ⟨b, isTrue, compiled⟩ := Except.bind_eq_ok.1 compiled
    obtain ⟨c, isFalse, same⟩ := Except.bind_eq_ok.1 compiled
    cases same
    have parts : ∀ e ∈ [a, b, c], e.Generated fromColumn := by
      simp only [List.mem_cons, List.not_mem_nil, or_false, forall_eq_or_imp, forall_eq]
      exact ⟨inTest a isTest, inTrue b isTrue, inFalse c isFalse⟩
    exact .function .conditional parts
  | call name isStatic _ _ inTarget inArgs =>
    intro sql compiled
    simp only [expression, targetOperand_eq_map, operands_eq_map] at compiled
    split at compiled <;> cases compiled
    rename_i isCall
    refine Sql.Expression.ofCall?_generated (fun t isTarget => ?_) (fun a mem => ?_) isCall
    · obtain ⟨draft, given, rfl⟩ := Option.map_eq_some_iff.1 isTarget
      exact inTarget draft given
    · obtain ⟨draft, given, rfl⟩ := List.mem_map.1 mem
      exact inArgs draft given

theorem expression_generated {draft : Draft} (every : EveryGenerated fromColumn env draft) :
    ∀ sql, draft.expression env = .ok sql → sql.Generated fromColumn :=
  expression_generated_of_columns (fun _ known _ => known) every

theorem reduceStep_every
    (columns : ∀ field, onField field → env.knows field = true → fromColumn (env.resolve field))
    (draft : Draft) (every : Every (Sql.Expression.Generated fromColumn) onField draft) :
    Every (Sql.Expression.Generated fromColumn) onField (reduceStep env draft) := by
  cases every with
  | @call name target args isStatic inTarget inArgs =>
    have self : Every (Sql.Expression.Generated fromColumn) onField
        (.call name target args isStatic) := .call name isStatic inTarget inArgs
    simp only [reduceStep]
    split
    · rename_i field unwrapped
      unfold unwrapped? at unwrapped
      split at unwrapped <;> cases unwrapped
      exact inTarget _ rfl
    · split
      · rename_i sql reduced
        unfold reducedCall? at reduced
        split at reduced
        · simp only at reduced
          split at reduced <;> cases reduced
          rename_i isCall
          refine .leaf (Sql.Expression.ofCall?_generated (fun t isTarget => ?_)
            (fun a mem => ?_) isCall)
          · obtain ⟨draft, given, rfl⟩ := Option.map_eq_some_iff.1 isTarget
            exact expression_generated_of_columns columns (fold_every (inTarget draft given))
          · obtain ⟨draft, given, rfl⟩ := List.mem_map.1 mem
            exact expression_generated_of_columns columns (fold_every (inArgs draft given))
        · cases reduced
      · exact self
  | _ => constructor <;> assumption

theorem ofPredicate_every {p : Predicate}
    (fields : p.EveryField fun field => fromColumn (env.resolve field)) :
    EveryGenerated fromColumn env (ofPredicate p) :=
  mapLeaves_every (fun leaf => nomatch leaf) fields

theorem simplify_every_of_columns
    (columns : ∀ field, onField field → env.knows field = true → fromColumn (env.resolve field))
    {p : Predicate} (fields : p.EveryField onField) :
    Every (Sql.Expression.Generated fromColumn) onField (simplify env p) :=
  normalize_every (fold_every (transform_every (reduceStep_every columns)
    (mapLeaves_every (fun leaf => nomatch leaf) fields)))

theorem simplify_every {p : Predicate}
    (fields : p.EveryField fun field => fromColumn (env.resolve field)) :
    EveryGenerated fromColumn env (simplify env p) :=
  simplify_every_of_columns (fun _ known _ => known) fields

/-- The conditions of filters are generated from the columns of the fields that the row has. -/
theorem condition_generated {p : Predicate} {sql : Sql.Expression}
    (columns : ∀ field, env.knows field = true → fromColumn (env.resolve field))
    (compiled : condition env (simplify env p) = .ok (some sql)) : sql.Generated fromColumn := by
  have fields : p.EveryField fun _ => True :=
    Term.every_of_forall (fun _ => trivial) (fun _ => trivial) p
  have columns' := fun field (_ : True) => columns field
  unfold condition at compiled
  split at compiled
  · cases compiled
  · obtain ⟨e, isExpression, same⟩ := Except.map_eq_ok.1 compiled
    cases same
    exact expression_generated_of_columns columns' (simplify_every_of_columns columns' fields) _
      isExpression

end Draft

end PlanCompiler
