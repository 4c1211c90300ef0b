/-
# Proofs.GuardedFields -- nests of null guards and unwraps around a field

A nest is a field in null guards and `.Value`, in any order.  The passes run one after the
other.  Reducing leaves the guards in place and takes `.Value` off a field, but a `.Value` that
stands on a guard is compiled with all that is in it.  So a reduced nest is its outer guards
around a core, which is the field or a piece of SQL (`Draft.reduce_nest`), and normalizing
takes the guards off whichever it is.

A nest is therefore simplified to its field exactly if no `.Value` stands on a guard
(`Draft.simplify_nest`).
-/
import PlanCompiler.Compile.Order
import PlanCompiler.Compile.Projection
import PlanCompiler.Proofs.ReducedDrafts

namespace PlanCompiler

set_option autoImplicit false

/-! ## Guards -/

/-- The four ways to write a guard that only checks for null. -/
inductive NullGuard
  | equalNull
  | nullEqual
  | notEqualNull
  | nullNotEqual
deriving DecidableEq, Repr

namespace NullGuard

variable {Leaf : Type}

/-- A term in a guard, such as `x == null ? null : x`. -/
def wrap (guard : NullGuard) (x : Term Leaf) : Term Leaf :=
  match guard with
  | .equalNull =>
    .conditional (.binary (.comparison .equal) x (.literal .null)) (.literal .null) x
  | .nullEqual =>
    .conditional (.binary (.comparison .equal) (.literal .null) x) (.literal .null) x
  | .notEqualNull =>
    .conditional (.binary (.comparison .notEqual) x (.literal .null)) x (.literal .null)
  | .nullNotEqual =>
    .conditional (.binary (.comparison .notEqual) (.literal .null) x) x (.literal .null)

/-- The SQL of a guard around something with this SQL. -/
def sql (guard : NullGuard) (checked : Sql.Expression) : Sql.Expression :=
  match guard with
  | .equalNull | .nullEqual =>
    .function .conditional [.unary .isNull checked, .value .null, checked]
  | .notEqualNull | .nullNotEqual =>
    .function .conditional [.unary .isNotNull checked, checked, .value .null]

theorem literal?_wrap (guard : NullGuard) (x : Term Leaf) : (guard.wrap x).literal? = none := by
  cases guard <;> rfl

end NullGuard

/-! ## Nests -/

/-- What is written around a field, from the outside. -/
inductive Nest
  | field
  | unwrapped (inner : Nest)
  | guarded (guard : NullGuard) (inner : Nest)
deriving DecidableEq, Repr

namespace Nest

def predicate (field : String) : Nest → Predicate
  | .field => .field field
  | .unwrapped inner => (inner.predicate field).member "Value"
  | .guarded guard inner => guard.wrap (inner.predicate field)

/-- The guards that stand outside of every unwrap. -/
def guards : Nest → List NullGuard
  | .guarded guard inner => guard :: inner.guards
  | _ => []

/-- Whether some unwrap stands on a guard. -/
def unwrapsGuard : Nest → Bool
  | .field => false
  | .unwrapped inner => !inner.guards.isEmpty || inner.unwrapsGuard
  | .guarded _ inner => inner.unwrapsGuard

end Nest

namespace Draft

open Term (Folded)

variable {env : Environment} {field : String} {x core : Draft}

/-! ## What a nest is reduced to -/

/-- What the guards of a reduced nest stand around. -/
inductive IsCore (field : String) : Draft → Prop
  | field : IsCore field (.field field)
  | sql {sql : Sql.Expression} (reads : sql.reads = true) (itself : sql.same sql = true) :
      IsCore field (.leaf sql)

/-- A draft in several guards. -/
def wrapAll (guards : List NullGuard) (core : Draft) : Draft :=
  guards.foldr NullGuard.wrap core

theorem wrapAll_eq_field {guards : List NullGuard} {name : String} :
    wrapAll guards core = .field name ↔ guards = [] ∧ core = .field name := by
  cases guards with
  | nil => simp [wrapAll]
  | cons guard rest => cases guard <;> simp [wrapAll, NullGuard.wrap]

theorem IsCore.folded (isCore : IsCore field core) : Folded core := by
  cases isCore with
  | field => exact .field trivial
  | sql _ _ => exact .leaf trivial

theorem IsCore.readsField (isCore : IsCore field core) : readsField core = true := by
  cases isCore with
  | field => rfl
  | sql reads _ => exact reads

/-! ### Reading -/

theorem readsField_wrap (guard : NullGuard) (x : Draft) :
    readsField (guard.wrap x) = readsField x := by
  cases guard <;> simp [NullGuard.wrap, readsField, Term.reads]

theorem readsField_wrapAll (guards : List NullGuard) (core : Draft) :
    readsField (wrapAll guards core) = readsField core := by
  induction guards with
  | nil => rfl
  | cons guard rest ih => exact (readsField_wrap guard (wrapAll rest core)).trans ih

/-! ### Folding -/

theorem folded_wrap (guard : NullGuard) (folded : Folded x) (notLiteral : x.literal? = none) :
    Folded (guard.wrap x) := by
  have null : Folded (.literal .null : Draft) := .literal trivial
  have undecided (op : Comparison) : Term.binaryValue? (.comparison op) x (.literal .null) = none ∧
      Term.binaryValue? (.comparison op) (.literal .null) x = none := by
    constructor <;> simp [Term.binaryValue?, Term.shortCircuit?, notLiteral]
  cases guard with
  | equalNull => exact .conditional (.binary folded null (undecided .equal).1) null folded rfl
  | nullEqual => exact .conditional (.binary null folded (undecided .equal).2) null folded rfl
  | notEqualNull => exact .conditional (.binary folded null (undecided .notEqual).1) folded null rfl
  | nullNotEqual => exact .conditional (.binary null folded (undecided .notEqual).2) folded null rfl

theorem literal?_wrapAll (guards : List NullGuard) (isCore : IsCore field core) :
    (wrapAll guards core).literal? = none := by
  cases guards with
  | nil => cases isCore <;> rfl
  | cons guard rest => exact NullGuard.literal?_wrap guard _

theorem folded_wrapAll (guards : List NullGuard) (isCore : IsCore field core) :
    Folded (wrapAll guards core) := by
  induction guards with
  | nil => exact isCore.folded
  | cons guard rest ih => exact folded_wrap guard ih (literal?_wrapAll rest isCore)

/-! ### Normalizing -/

theorem normalize_wrap (guard : NullGuard) (isCore : IsCore field core)
    (normalized : normalize x = core) : normalize (guard.wrap x) = core := by
  have itself : same core core = true := by
    cases isCore with
    | field => simp [same]
    | sql _ itself => exact itself
  have wrapped : normalize (guard.wrap x) = normalizeStep (guard.wrap core) := by
    unfold normalize at normalized ⊢
    cases guard <;> cases isCore <;> simp only [NullGuard.wrap, Term.transform, normalized] <;> rfl
  rw [wrapped]
  cases isCore <;> cases guard <;>
    simp [NullGuard.wrap, normalizeStep, guarded?, checkedForNull?, Term.isNull, itself]

theorem normalize_wrapAll (guards : List NullGuard) (isCore : IsCore field core) :
    normalize (wrapAll guards core) = core := by
  induction guards with
  | nil => cases isCore <;> rfl
  | cons guard rest ih => exact normalize_wrap guard isCore ih

/-! ### Compiling -/

/-- A draft has SQL that reads a column and is written like itself. -/
def HasSql (env : Environment) (draft : Draft) : Prop :=
  ∃ sql, expression env draft = .ok sql ∧ sql.reads = true ∧ sql.same sql = true

theorem IsCore.hasSql (known : env.knows field = true) (isCore : IsCore field core) :
    HasSql env core := by
  cases isCore with
  | field =>
    refine ⟨.column (env.resolve field), ?_, rfl, by simp [Sql.Expression.same]⟩
    simp [expression, Environment.column, Environment.check, known]
  | sql reads itself => exact ⟨_, rfl, reads, itself⟩

theorem expression_wrap (guard : NullGuard) {sql : Sql.Expression}
    (compiled : expression env x = .ok sql) (notLiteral : x.literal? = none) :
    expression env (guard.wrap x) = .ok (guard.sql sql) := by
  have notNull : x.isNull = false := by
    cases x <;> simp_all [Term.isNull, Term.literal?]
  have null : Term.isNull (.literal .null : Draft) = true := rfl
  cases guard <;>
    simp [NullGuard.wrap, expression, nullCheck?, nullTest?, null, notNull, compiled] <;> rfl

theorem hasSql_wrap (guard : NullGuard) (hasSql : HasSql env x)
    (notLiteral : x.literal? = none) : HasSql env (guard.wrap x) := by
  obtain ⟨sql, compiled, reads, itself⟩ := hasSql
  refine ⟨guard.sql sql, expression_wrap guard compiled notLiteral, ?_, ?_⟩
  · cases guard <;> simp [NullGuard.sql, Sql.Expression.reads, Sql.Expression.anyReads, reads]
  · cases guard <;>
      simp [NullGuard.sql, Sql.Expression.same, Sql.Expression.allSame, Literal.same, itself]

theorem hasSql_wrapAll (known : env.knows field = true) (guards : List NullGuard)
    (isCore : IsCore field core) : HasSql env (wrapAll guards core) := by
  induction guards with
  | nil => exact isCore.hasSql known
  | cons guard rest ih => exact hasSql_wrap guard ih (literal?_wrapAll rest isCore)

/-! ### Reducing -/

theorem ofPredicate_wrap (guard : NullGuard) (p : Predicate) :
    ofPredicate (guard.wrap p) = guard.wrap (ofPredicate p) := by
  cases guard <;> rfl

theorem reduce_wrap (guard : NullGuard) (x : Draft) :
    reduce env (guard.wrap x) = guard.wrap (reduce env x) := by
  cases guard <;> rfl

/-- The value of a field is the field, and that of anything else which reads one is its SQL. -/
theorem reduceStep_value (hasSql : HasSql env x) (folded : Folded x)
    (reads : readsField x = true) (notField : ∀ name, x ≠ .field name) :
    ∃ sql : Sql.Expression, sql.reads = true ∧ sql.same sql = true ∧
      reduceStep env (.call "Value" (some x) [] false) = .leaf sql := by
  obtain ⟨sql, compiled, readsColumn, itself⟩ := hasSql
  refine ⟨sql, readsColumn, itself, ?_⟩
  have isValue : Method.ofName? "Value" = some .value := rfl
  have notUnwrapped : unwrapped? "Value" (some x) [] = none := by
    rw [Option.eq_none_iff_forall_ne_some]
    intro name found
    obtain ⟨-, isField, -⟩ := unwrapped?_eq_some found
    exact notField name (Option.some.inj isField)
  have reduced : reducedCall? env "Value" (some x) [] false = some sql := by
    refine reducedCall?_eq_some.2 ⟨by simp [compilesEarly, reads], ?_⟩
    rw [Option.map_some, folded.fold_eq, List.map_nil, expression_value isValue, compiled]
  simp only [reduceStep, notUnwrapped, reduced]

/-- A nest is reduced to its outer guards around a core, which is the field if no unwrap stands on
a guard. -/
theorem reduce_nest (known : env.knows field = true) (nest : Nest) :
    ∃ core, IsCore field core ∧ (nest.unwrapsGuard = false ↔ core = .field field) ∧
      reduce env (ofPredicate (nest.predicate field)) = wrapAll nest.guards core := by
  induction nest with
  | field => exact ⟨_, .field, by simp [Nest.unwrapsGuard], rfl⟩
  | guarded guard inner ih =>
    obtain ⟨core, isCore, unwraps, reduced⟩ := ih
    refine ⟨core, isCore, unwraps, ?_⟩
    rw [Nest.predicate, ofPredicate_wrap, reduce_wrap, reduced]
    rfl
  | unwrapped inner ih =>
    obtain ⟨core, isCore, unwraps, reduced⟩ := ih
    have step : reduce env (ofPredicate ((Nest.unwrapped inner).predicate field)) =
        reduceStep env (.call "Value" (some (wrapAll inner.guards core)) [] false) := by
      rw [← reduced]
      rfl
    rw [step]
    have isField : (Nest.unwrapped inner).unwrapsGuard = false ↔
        wrapAll inner.guards core = .field field := by
      rw [wrapAll_eq_field, ← unwraps]
      simp [Nest.unwrapsGuard]
    by_cases field : wrapAll inner.guards core = .field field
    · exact ⟨.field _, .field, by simp [isField, field], by rw [field]; rfl⟩
    · have notField (name : String) : wrapAll inner.guards core ≠ .field name := by
        intro other
        obtain ⟨-, rfl⟩ := wrapAll_eq_field.1 other
        cases isCore
        exact field other
      obtain ⟨sql, reads, itself, compiled⟩ := reduceStep_value
        (hasSql_wrapAll known inner.guards isCore) (folded_wrapAll inner.guards isCore)
        ((readsField_wrapAll inner.guards core).trans isCore.readsField) notField
      exact ⟨.leaf sql, .sql reads itself, by simp [isField, field], compiled⟩

/-- A nest is simplified to its core. -/
theorem simplify_nest_core (known : env.knows field = true) (nest : Nest) :
    (nest.unwrapsGuard = false ∧ simplify env (nest.predicate field) = .field field) ∨
      (nest.unwrapsGuard = true ∧ ∃ sql : Sql.Expression, sql.reads = true ∧
        simplify env (nest.predicate field) = .leaf sql) := by
  obtain ⟨core, isCore, unwraps, reduced⟩ := reduce_nest known nest
  have simplified : simplify env (nest.predicate field) = core := by
    rw [simplify, reduced, (folded_wrapAll nest.guards isCore).fold_eq,
      normalize_wrapAll nest.guards isCore]
  rw [simplified]
  cases isCore with
  | field => exact .inl ⟨unwraps.2 rfl, rfl⟩
  | sql reads _ =>
    refine .inr ⟨?_, _, reads, rfl⟩
    simpa using unwraps

/-! ## Sorting and projecting -/

theorem ordering_field (known : env.knows field = true) (direction : Direction) :
    SortKey.ordering env [⟨.field field, direction, true⟩] =
      .ok [⟨field, env.resolve field, direction, 0⟩] := by
  have column : env.column field = .ok (env.resolve field) := by
    rw [Environment.column, Environment.check, if_pos known]
    rfl
  simp only [SortKey.ordering, SortKey.ofSteps, SortKey.ofStep, column]
  rfl

theorem selectMembers_field {Row : Type} {p : Predicate} (isField : simplify env p = .field field)
    (isSimple : env.isSimple field = .ok true) (rest : List Predicate) (state : Projection Row) :
    Projection.selectMembers env (p :: rest) state =
      Projection.selectMembers env rest (state.select field) := by
  simp only [Projection.selectMembers, isField, Projection.selectIfSimple, isSimple]
  rfl

theorem selectMembers_leaf {Row : Type} {p : Predicate} {sql : Sql.Expression}
    (isSql : simplify env p = .leaf sql) (rest : List Predicate) (state : Projection Row) :
    Projection.selectMembers env (p :: rest) state = Projection.selectMembers env rest state := by
  simp only [Projection.selectMembers, isSql]

/-- **Guards and unwraps come off a field together unless an unwrap stands on a guard.**  A nest
around a field of the row is simplified to the field if no `.Value` stands on a guard.  Sorting by
it then orders by the column of the field, and projecting it selects the field, if that is a single
column.  All other nests are compiled to SQL that reads a column: sorting by them is refused, and
projecting them selects nothing. -/
theorem simplify_nest (known : env.knows field = true) (nest : Nest) :
    (nest.unwrapsGuard = false →
      simplify env (nest.predicate field) = .field field ∧
        (∀ direction,
          SortKey.ordering env [⟨simplify env (nest.predicate field), direction, true⟩] =
            .ok [⟨field, env.resolve field, direction, 0⟩]) ∧
        (env.isSimple field = .ok true →
          ∀ (Row : Type) (rest : List Predicate) (state : Projection Row),
            Projection.selectMembers env (nest.predicate field :: rest) state =
              Projection.selectMembers env rest (state.select field))) ∧
      (nest.unwrapsGuard = true → ∃ sql : Sql.Expression, sql.reads = true ∧
        simplify env (nest.predicate field) = .leaf sql ∧
        (∀ direction,
          SortKey.ordering env [⟨simplify env (nest.predicate field), direction, true⟩] =
            .error (.unsupportedSortKey sql.text)) ∧
        ∀ (Row : Type) (rest : List Predicate) (state : Projection Row),
          Projection.selectMembers env (nest.predicate field :: rest) state =
            Projection.selectMembers env rest state) := by
  rcases simplify_nest_core known nest with ⟨unwraps, isField⟩ | ⟨unwraps, sql, reads, isSql⟩
  · refine ⟨fun _ => ⟨isField, fun direction => ?_, fun isSimple Row rest state => ?_⟩, ?_⟩
    · rw [isField, ordering_field known]
    · exact selectMembers_field isField isSimple rest state
    · simp [unwraps]
  · refine ⟨by simp [unwraps], fun _ => ⟨sql, reads, isSql, fun direction => ?_, ?_⟩⟩
    · rw [isSql]
      rfl
    · exact fun Row rest state => selectMembers_leaf isSql rest state

/-- `(null != (Age.Value == null ? null : Age.Value) ? (Age.Value == null ? null : Age.Value) : null)`
is `Age`, with a `.Value` inside two guards. -/
theorem simplify_nest_age :
    let env : Environment := ⟨.empty, .empty, true⟩
    let nest : Nest := .guarded .nullNotEqual (.guarded .equalNull (.unwrapped .field))
    env.knows "Age" = true ∧ env.isSimple "Age" = .ok true ∧ nest.unwrapsGuard = false ∧
      simplify env (nest.predicate "Age") = .field "Age" := by
  intro env nest
  have known : env.knows "Age" = true := rfl
  exact ⟨known, rfl, rfl, ((simplify_nest known nest).1 rfl).1⟩

/-- `(Age == null ? null : Age).Value` is compiled whole, and is no field any more. -/
theorem simplify_unwrapped_age :
    let env : Environment := ⟨.empty, .empty, true⟩
    let age : Sql.Expression := .column (.named "Age")
    env.knows "Age" = true ∧
      simplify env ((Nest.unwrapped (.guarded .equalNull .field)).predicate "Age") =
        .leaf (.function .conditional [.unary .isNull age, .value .null, age]) ∧
      ¬ ∀ nest : Nest, simplify env (nest.predicate "Age") = .field "Age" := by
  intro env age
  have compiled : simplify env ((Nest.unwrapped (.guarded .equalNull .field)).predicate "Age") =
      .leaf (.function .conditional [.unary .isNull age, .value .null, age]) := rfl
  refine ⟨rfl, compiled, fun all => ?_⟩
  have isField := all (.unwrapped (.guarded .equalNull .field))
  rw [compiled] at isField
  cases isField

end Draft

end PlanCompiler
