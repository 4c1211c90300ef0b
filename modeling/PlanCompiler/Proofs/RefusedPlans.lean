/-
# Proofs.RefusedPlans -- which part of a plan is refused with which error

Conditions, sort keys and projections are refused for reasons of their own, and no error of
one of them is about a mutator.  So a mutator is only missed where the plan names one that is
not registered (`Query.compile_error`).
-/
import PlanCompiler.Proofs.ParameterNames

namespace PlanCompiler

set_option autoImplicit false

/-! ## Errors of computations -/

section

variable {ε α β : Type} {known : ε → Prop}

/-- If it fails, then with an error of this kind. -/
def ErrorsIn (known : ε → Prop) (x : Except ε α) : Prop :=
  ∀ e, x = .error e → known e

theorem errorsIn_ok (a : α) : ErrorsIn known (.ok a : Except ε α) := nofun

theorem errorsIn_error {e : ε} (isKnown : known e) : ErrorsIn known (.error e : Except ε α) := by
  intro other same
  cases same
  exact isKnown

theorem errorsIn_bind {x : Except ε α} {f : α → Except ε β} (first : ErrorsIn known x)
    (rest : ∀ a, ErrorsIn known (f a)) : ErrorsIn known (x >>= f) := by
  intro e failed
  cases x with
  | error e' =>
    cases failed
    exact first e rfl
  | ok a => exact rest a e failed

theorem errorsIn_map {x : Except ε α} {f : α → β} (inside : ErrorsIn known x) :
    ErrorsIn known (f <$> x) := by
  intro e failed
  cases x with
  | error e' =>
    cases failed
    exact inside e rfl
  | ok a => cases failed

theorem errorsIn_mapM {f : α → Except ε β} {as : List α} (each : ∀ a ∈ as, ErrorsIn known (f a)) :
    ErrorsIn known (as.mapM f) := by
  intro e failed
  obtain ⟨a, mem, isError⟩ := Except.exists_of_mapM_error failed
  exact each a mem e isError

end

namespace CompileError

/-- The errors of conditions. -/
def OfCondition : CompileError → Prop
  | .unsupportedMethod _ => True
  | .emptyInList _ => True
  | .arrayNotSupported _ => True
  | .fieldNotFound _ => True
  | _ => False

/-- The errors of sort keys. -/
def OfOrder : CompileError → Prop
  | .unsupportedSortKey _ => True
  | .thenSortWithoutSort _ => True
  | .fieldNotFound _ => True
  | _ => False

/-- The errors of narrowing to columns. -/
def OfSelection : CompileError → Prop
  | .narrowedTwice => True
  | .fieldNotFound _ => True
  | _ => False

end CompileError

/-! ## Fields -/

namespace Environment

variable {known : CompileError → Prop}

theorem check_errors (unknown : ∀ field, known (.fieldNotFound field)) (env : Environment)
    (field : String) : ErrorsIn known (env.check field) := by
  unfold check
  split
  · exact errorsIn_ok ()
  · exact errorsIn_error (unknown field)

theorem column_errors (unknown : ∀ field, known (.fieldNotFound field)) (env : Environment)
    (field : String) : ErrorsIn known (env.column field) :=
  errorsIn_bind (check_errors unknown env field) fun _ => errorsIn_ok _

theorem isSimple_errors (unknown : ∀ field, known (.fieldNotFound field)) (env : Environment)
    (field : String) : ErrorsIn known (env.isSimple field) :=
  errorsIn_bind (check_errors unknown env field) fun _ => errorsIn_ok _

end Environment

/-! ## Conditions -/

/-- The operand is refused, if at all, with an error of a condition. -/
abbrev Operand.IsCondition (operand : Operand) : Prop :=
  ErrorsIn CompileError.OfCondition operand.sql

namespace Sql.Expression

theorem ofItem_errors (item : Literal) : ErrorsIn CompileError.OfCondition (ofItem item) := by
  cases item with
  | array items => exact errorsIn_error trivial
  | _ => exact errorsIn_ok _

theorem ofMembership_errors {name : String} {items : List Literal} {item : Operand}
    (inItem : item.IsCondition) :
    ErrorsIn CompileError.OfCondition (ofMembership name items item) := by
  cases items with
  | nil => exact errorsIn_error trivial
  | cons first rest =>
    apply errorsIn_bind
    · exact errorsIn_mapM fun item _ => ofItem_errors item
    · intro values
      exact errorsIn_bind inItem fun _ => errorsIn_ok _

theorem like_errors {text : Operand} (inText : text.IsCondition) (pattern : List Expression) :
    ErrorsIn CompileError.OfCondition (like text pattern) :=
  errorsIn_bind inText fun _ => errorsIn_ok _

theorem unaryFunction_errors {operand : Operand} (inside : operand.IsCondition) (f : Function) :
    ErrorsIn CompileError.OfCondition (unaryFunction f operand) :=
  errorsIn_bind inside fun _ => errorsIn_ok _

theorem equality_errors {left right : Operand} (inLeft : left.IsCondition)
    (inRight : right.IsCondition) : ErrorsIn CompileError.OfCondition (equality left right) :=
  errorsIn_bind inLeft fun _ => errorsIn_bind inRight fun _ => errorsIn_ok _

/-- A call fails as one of its operands does, or as a membership test. -/
theorem ofCall?_errors {name : String} {target : Option Operand} {args : List Operand}
    {isStatic : Bool} (inOperands : ∀ o ∈ target.toList ++ args, o.IsCondition) :
    ErrorsIn CompileError.OfCondition (ofCall? name target args isStatic) := by
  unfold ofCall?
  -- one case for each form that has SQL, in the order of the definition
  split
  case h_1 => exact errorsIn_map (inOperands _ (by simp))
  case h_2 | h_3 =>
    exact errorsIn_map (equality_errors (inOperands _ (by simp)) (inOperands _ (by simp)))
  case h_4 =>
    split
    · exact errorsIn_ok _
    · exact errorsIn_bind (errorsIn_mapM inOperands) fun _ => errorsIn_ok _
  case h_5 =>
    split
    · rename_i items item found
      obtain ⟨collection, operands, -⟩ := membership?_eq_some found
      exact errorsIn_map (ofMembership_errors (inOperands item (by simp [operands])))
    · split
      · apply errorsIn_bind (inOperands _ (by simp))
        exact fun _ => errorsIn_map (like_errors (inOperands _ (by simp)) _)
      · exact errorsIn_ok _
  case h_6 | h_7 =>
    apply errorsIn_bind (inOperands _ (by simp))
    exact fun _ => errorsIn_map (like_errors (inOperands _ (by simp)) _)
  case h_8 | h_9 | h_10 | h_12 =>
    exact errorsIn_map (unaryFunction_errors (inOperands _ (by simp)) _)
  case h_11 | h_13 => exact errorsIn_ok _

end Sql.Expression

namespace Draft

variable {env : Environment}

/-- The draft is refused, if at all, with an error of a condition. -/
abbrev IsCondition (env : Environment) (draft : Draft) : Prop :=
  ErrorsIn CompileError.OfCondition (draft.expression env)

theorem comparison_errors {op : Comparison} {left right : Draft} (inLeft : left.IsCondition env)
    (inRight : right.IsCondition env) :
    IsCondition env (.binary (.comparison op) left right) := by
  unfold IsCondition
  simp only [expression]
  split
  · exact errorsIn_map inLeft
  · exact errorsIn_map inRight
  · exact errorsIn_bind inLeft fun _ => errorsIn_bind inRight fun _ => errorsIn_ok _

theorem expression_errors (draft : Draft) : draft.IsCondition env := by
  induction draft using Term.induct with
  | leaf sql => exact errorsIn_ok sql
  | field name => exact errorsIn_map (Environment.column_errors (fun _ => trivial) env name)
  | literal value =>
    cases value with
    | array items => exact errorsIn_error trivial
    | _ => exact errorsIn_ok _
  | unary op operand inside => cases op <;> exact errorsIn_map inside
  | binary op left right inLeft inRight =>
    cases op with
    | comparison op => exact comparison_errors inLeft inRight
    | andAlso | orElse | calculation _ =>
      exact errorsIn_bind inLeft fun _ => errorsIn_bind inRight fun _ => errorsIn_ok _
  | conditional test whenTrue whenFalse inTest inTrue inFalse =>
    exact errorsIn_bind inTest fun _ => errorsIn_bind inTrue fun _ =>
      errorsIn_bind inFalse fun _ => errorsIn_ok _
  | call name target args isStatic inTarget inArgs =>
    unfold IsCondition
    simp only [expression, targetOperand_eq_map, operands_eq_map]
    have call : ErrorsIn CompileError.OfCondition (Sql.Expression.ofCall? name
        (target.map (operand env)) (args.map (operand env)) isStatic) := by
      refine Sql.Expression.ofCall?_errors fun o mem => ?_
      rcases List.mem_append.1 mem with mem | mem
      · obtain ⟨draft, given, rfl⟩ := Option.map_eq_some_iff.1 (Option.mem_toList.1 mem)
        exact inTarget draft given
      · obtain ⟨draft, given, rfl⟩ := List.mem_map.1 mem
        exact inArgs draft given
    split
    · exact errorsIn_ok _
    · exact errorsIn_error trivial
    · rename_i e failed
      exact errorsIn_error (call e failed)

/-- A filter is refused for what its condition is made of. -/
theorem condition_errors (draft : Draft) :
    ErrorsIn CompileError.OfCondition (condition env draft) := by
  unfold condition
  split
  · exact errorsIn_ok none
  · exact errorsIn_map (expression_errors draft)

end Draft

/-! ## Orders -/

namespace SortKey

variable {env : Environment}

theorem ofStep_errors (step : SortStep) (index : Nat) :
    ErrorsIn CompileError.OfOrder (ofStep env step index) := by
  unfold ofStep
  split
  · rename_i field _
    exact errorsIn_bind (Environment.column_errors (fun _ => trivial) env field)
      fun _ => errorsIn_ok _
  · exact errorsIn_error trivial

theorem ofSteps_errors (steps : List SortStep) :
    ∀ index, ErrorsIn CompileError.OfOrder (ofSteps env index steps) := by
  induction steps with
  | nil => exact fun _ => errorsIn_ok []
  | cons step rest ih =>
    intro index
    exact errorsIn_bind (ih _) fun _ => errorsIn_bind (ofStep_errors step index)
      fun _ => errorsIn_ok _

theorem ordering_errors (steps : List SortStep) :
    ErrorsIn CompileError.OfOrder (ordering env steps) := by
  apply errorsIn_bind (ofSteps_errors steps 0)
  intro keys
  split
  · exact errorsIn_error trivial
  · exact errorsIn_ok _

end SortKey

/-! ## Projections -/

namespace Projection

variable {Row : Type} {env : Environment} {before : Projection Row}

/-- The state differs in its columns at most, and failing is for a reason of theirs. -/
structure OnlySelects (before : Projection Row) (outcome : Outcome Row) : Prop where
  transform : outcome.1.transform = before.transform
  errors : ErrorsIn CompileError.OfSelection outcome.2

theorem onlySelects_andThen {first : Outcome Row} {second : Projection Row → Outcome Row}
    (inFirst : OnlySelects before first)
    (inSecond : ∀ state, OnlySelects state (second state)) :
    OnlySelects before (first.andThen second) := by
  obtain ⟨state, result⟩ := first
  cases result with
  | error e => exact inFirst
  | ok _ => exact ⟨(inSecond state).transform.trans inFirst.transform, (inSecond state).errors⟩

theorem onlySelects_selectIfSimple (field : String) (state : Projection Row) :
    OnlySelects state (state.selectIfSimple env field) := by
  have known : ErrorsIn CompileError.OfSelection (env.isSimple field) :=
    Environment.isSimple_errors (fun _ => trivial) env field
  unfold selectIfSimple
  split
  · refine ⟨?_, errorsIn_ok ()⟩
    simp only
    split
    · unfold select
      split <;> rfl
    · rfl
  · rename_i e failed
    exact ⟨rfl, errorsIn_error (known e failed)⟩

theorem onlySelects_selectMembers (members : List Predicate) :
    ∀ state : Projection Row, OnlySelects state (state.selectMembers env members) := by
  induction members with
  | nil => exact fun state => ⟨rfl, errorsIn_ok ()⟩
  | cons member rest ih =>
    intro state
    unfold selectMembers
    split
    · exact onlySelects_andThen (onlySelects_selectIfSimple _ state) ih
    · exact ih state

theorem onlySelects_narrow (state : Projection Row) : OnlySelects state state.narrow := by
  unfold narrow
  split
  · exact ⟨rfl, errorsIn_error trivial⟩
  · exact ⟨rfl, errorsIn_ok ()⟩

theorem onlySelects_selectShape (shape : Shape) (state : Projection Row) :
    OnlySelects state (state.selectShape env shape) := by
  cases shape with
  | row => exact ⟨rfl, errorsIn_ok ()⟩
  | field field =>
    exact onlySelects_andThen (onlySelects_narrow state) (onlySelects_selectIfSimple field)
  | composite members =>
    exact onlySelects_andThen (onlySelects_narrow state) (onlySelects_selectMembers members)

/-- A projection without a missing mutator collects it and then selects. -/
theorem project_onlySelects (env : Environment) {mutators : List (Row → Row)} (shape : Shape)
    {mutator : Option Nat}
    (registered : ∀ id, mutator = some id → ∃ mutate, mutators[id]? = some mutate)
    (state : Projection Row) :
    ∃ mutates, mutates.map some = mutator.toList.map (mutators[·]?) ∧
      OnlySelects { state with transform := state.transform ++ mutates }
        (state.project env mutators shape mutator) := by
  cases mutator with
  | none =>
    refine ⟨[], rfl, ?_⟩
    rw [List.append_nil]
    exact onlySelects_selectShape shape state
  | some id =>
    obtain ⟨mutate, isRegistered⟩ := registered id rfl
    refine ⟨[mutate], by simp [isRegistered], ?_⟩
    unfold project collect
    simp only [isRegistered]
    exact onlySelects_selectShape shape _

/-- With a missing mutator it fails for that. -/
theorem project_missing {mutators : List (Row → Row)} {shape : Shape} {id : Nat}
    (missing : mutators[id]? = none) (state : Projection Row) :
    state.project env mutators shape (some id) = (state, .error (.mutatorNotFound id)) := by
  unfold project collect
  simp only [missing]
  rfl

end Projection

/-! ## Plans -/

/-- The mutator that an operation names. -/
def Operation.mutator? : Operation → Option Nat
  | .project _ mutator => mutator
  | _ => none

/-- The mutators that a plan names, in its order. -/
def Plan.mutatorIds (plan : Plan) : List Nat :=
  plan.filterMap Operation.mutator?

namespace Query

variable {Row : Type} {query : Query Row} {e : CompileError}

/-- An operation is refused for its condition or its columns, or for a mutator that is missing. -/
theorem advance_error {progress : Progress Row} {operation : Operation}
    (failed : query.advance progress operation = .error e) :
    (e.OfCondition ∨ e.OfSelection) ∨
      ∃ id, operation.mutator? = some id ∧ query.mutators[id]? = none ∧ e = .mutatorNotFound id := by
  cases operation with
  | filter predicate =>
    have errors : ErrorsIn CompileError.OfCondition (query.advance progress (.filter predicate)) :=
      errorsIn_bind (Draft.condition_errors _) fun _ => errorsIn_ok _
    exact .inl (.inl (errors e failed))
  | project shape mutator =>
    simp only [advance] at failed
    split at failed <;> cases failed
    rename_i after refused
    by_cases registered : ∀ id, mutator = some id → ∃ mutate, query.mutators[id]? = some mutate
    · obtain ⟨_, -, selects⟩ :=
        Projection.project_onlySelects query.environment shape registered progress.projection
      rw [refused] at selects
      exact .inl (.inr (selects.errors e rfl))
    · push Not at registered
      obtain ⟨id, rfl, unregistered⟩ := registered
      have missing : query.mutators[id]? = none :=
        Option.eq_none_iff_forall_not_mem.2 unregistered
      rw [Projection.project_missing missing] at refused
      cases refused
      exact .inr ⟨id, rfl, missing, rfl⟩
  | sortBy key direction | thenSortBy key direction | skip count | take count => cases failed

/-- Why the rows of a query cannot be fetched. -/
theorem compile_error (failed : query.compile = .error e) :
    (e.OfCondition ∨ e.OfSelection ∨ e.OfOrder ∨ ∃ name, e = .parameterNameCollision name) ∨
      ∃ id ∈ query.plan.mutatorIds, query.mutators[id]? = none ∧ e = .mutatorNotFound id := by
  rcases Except.bind_eq_error.1 failed with unclear | ⟨⟨clauses, transform⟩, -, unstated⟩
  · rcases Except.bind_eq_error.1 unclear with stopped | ⟨progress, -, unordered⟩
    · obtain ⟨operation, mem, progress, refused⟩ := Except.exists_of_foldlM_error stopped
      rcases advance_error refused with (ofCondition | ofSelection) | ⟨id, names, missing, isError⟩
      · exact .inl (.inl ofCondition)
      · exact .inl (.inr (.inl ofSelection))
      · exact .inr ⟨id, List.mem_filterMap.2 ⟨operation, mem, names⟩, missing, isError⟩
    · rcases Except.bind_eq_error.1 unordered with ofOrder | ⟨_, -, impossible⟩
      · exact .inl (.inr (.inr (.inl (SortKey.ordering_errors progress.sorts e ofOrder))))
      · cases impossible
  · rcases Except.bind_eq_error.1 unstated with collides | ⟨_, -, impossible⟩
    · obtain ⟨name, isName, -⟩ := statement_error_iff.1 collides
      exact .inl (.inr (.inr (.inr ⟨name, isName⟩)))
    · cases impossible

end Query

end PlanCompiler
