/-
# Proofs.ParameterNames -- which value the name of a parameter stands for

Names are compared ignoring the case of their letters.  However a query is built, no
two of its parameters have the same name, and each has the value that its name was
bound to last (`Query.Built.holds`).  Binding keeps this, and no other step concerns
parameters (`BuildStep.apply_holds`).

Generated names differ from each other by their numbers (`parameterName_sameName`), and
a query is refused if one of them is also the name of a parameter of the caller.  So
the names of a statement are all different, and it does not matter that looking one up
stops at the first that is the same (`Query.built_parameterNames`).
-/
import PlanCompiler.Proofs.Binding

namespace PlanCompiler

set_option autoImplicit false

variable {Row : Type}

/-! ## Binding -/

/-- No two entries have the same name, whatever the case of its letters. -/
def DistinctNames (entries : List (String × Literal)) : Prop :=
  entries.Pairwise fun a b => Text.sameName a.1 b.1 = false

theorem parameterKey_head (name : String) : (parameterKey name).toList.head? = some '@' := by
  unfold parameterKey
  split
  · rename_i prefixed
    exact beq_iff_eq.1 prefixed
  · rw [String.toList_append]
    rfl

namespace Bindings

/-- What was bound last under a name, whatever the case of its letters. -/
def last? (name : String) (bound : Bindings) : Option (String × Literal) :=
  bound.reverse.find? fun entry => Text.sameName entry.1 name

theorem last?_concat (name : String) (bound : Bindings) (entry : String × Literal) :
    last? name (bound ++ [entry]) =
      if Text.sameName entry.1 name then some entry else bound.last? name := by
  rw [last?, List.reverse_concat, List.find?_cons]
  split <;> simp_all [last?]

/-- These are the parameters after all of `bound` has been bound, in this order. -/
structure Holds (parameters bound : Bindings) : Prop where
  prefixed : ∀ entry ∈ parameters, entry.1.toList.head? = some '@'
  distinct : DistinctNames parameters
  last : ∀ entry, entry ∈ parameters ↔ bound.last? entry.1 = some entry

theorem holds_nil : Holds [] [] :=
  ⟨nofun, .nil, fun _ => by simp [last?]⟩

theorem mem_bind {name : String} {value : Literal} {parameters : Bindings}
    {entry : String × Literal} :
    entry ∈ parameters.bind name value ↔
      entry ∈ parameters ∧ Text.sameName entry.1 (parameterKey name) = false ∨
        entry = (parameterKey name, value) := by
  simp [bind]

theorem Holds.bind {parameters bound : Bindings} (holds : parameters.Holds bound) (name : String)
    (value : Literal) :
    (parameters.bind name value).Holds (bound ++ [(parameterKey name, value)]) := by
  constructor
  case prefixed =>
    intro entry mem
    rcases mem_bind.1 mem with ⟨old, -⟩ | rfl
    · exact holds.prefixed entry old
    · exact parameterKey_head name
  case distinct =>
    refine List.pairwise_append.2 ⟨holds.distinct.filter _, List.pairwise_singleton _ _, ?_⟩
    intro entry old other new
    cases List.mem_singleton.1 new
    simpa using (List.mem_filter.1 old).2
  case last =>
    intro entry
    rw [mem_bind, last?_concat, holds.last]
    -- an entry of the name is replaced by the new one, any other is what it was
    by_cases same : Text.sameName (parameterKey name) entry.1 = true
    · have replaced : Text.sameName entry.1 (parameterKey name) = true := by
        rw [Text.sameName_comm]
        exact same
      simp [same, replaced, eq_comm]
    · have kept : Text.sameName entry.1 (parameterKey name) = false := by
        rw [Text.sameName_comm]
        exact Bool.eq_false_iff.2 same
      have other : entry ≠ (parameterKey name, value) := by
        rintro rfl
        exact same (Text.sameName_refl _)
      simp [same, kept, other]

end Bindings

/-! ## Building queries -/

/-- A step in building a query. -/
inductive BuildStep (Row : Type)
  | refine (operation : Operation)
  | registerMutator (mutator : Row → Row)
  | withPlan (plan : Plan)
  | withFields (fields : Fields)
  | mapField (field : String) (column : Sql.Column)
  | ensureAllColumnsMapped
  | insertCommand (command : Command)
  | bindParameter (name : String) (value : Literal)

namespace BuildStep

def apply : BuildStep Row → Query Row → Query Row
  | .refine operation => Query.refine operation
  | .registerMutator mutator => Query.registerMutator mutator
  | .withPlan plan => Query.withPlan plan
  | .withFields fields => Query.withFields fields
  | .mapField field column => Query.mapField field column
  | .ensureAllColumnsMapped => Query.ensureAllColumnsMapped
  | .insertCommand command => Query.insertCommand command
  | .bindParameter name value => Query.bindParameter name value

/-- What the step binds, under the name that it is kept under. -/
def binding? : BuildStep Row → Option (String × Literal)
  | .bindParameter name value => some (parameterKey name, value)
  | _ => none

/-- A step binds its parameter, if it has one, and leaves the others. -/
theorem apply_holds (step : BuildStep Row) {query : Query Row} {bound : Bindings}
    (holds : query.parameters.Holds bound) :
    (step.apply query).parameters.Holds (bound ++ step.binding?.toList) := by
  cases step with
  | bindParameter name value => exact holds.bind name value
  | refine _ | registerMutator _ | withPlan _ | withFields _ | mapField _ _
  | ensureAllColumnsMapped | insertCommand _ =>
    simp only [binding?, Option.toList_none, List.append_nil]
    exact holds

end BuildStep

/-- The query can be built, and these parameters are bound on the way. -/
inductive Query.Built : Query Row → Bindings → Prop
  | ofSql (baseSql : String) : Built (ofSql baseSql) []
  | ofNativeQuery {native : NativeQuery} {query : Query Row}
      (opened : ofNativeQuery native = .ok query) : Built query []
  | step {query : Query Row} {bound : Bindings} (built : Built query bound)
      (step : BuildStep Row) : Built (step.apply query) (bound ++ step.binding?.toList)

/-- However a query is built, its parameters have the values bound last. -/
theorem Query.Built.holds {query : Query Row} {bound : Bindings} (built : query.Built bound) :
    query.parameters.Holds bound := by
  induction built with
  | ofSql baseSql => exact Bindings.holds_nil
  | ofNativeQuery opened =>
    obtain ⟨text, -, same⟩ := Except.bind_eq_ok.1 opened
    cases same
    exact Bindings.holds_nil
  | step built step holds => exact step.apply_holds holds

/-! ## Generated names -/

/-- Digits are not capital letters. -/
theorem toLower_digit {c : Char} (digit : c.isDigit = true) : c.toLower = c := by
  simp only [Char.isDigit, Bool.and_eq_true, decide_eq_true_eq] at digit
  unfold Char.toLower
  split
  · rename_i capital
    have both := UInt32.le_trans capital.1 digit.2
    exact absurd both (by decide)
  · rfl

namespace Sql

theorem caseKey_parameterName (position : Nat) :
    Text.caseKey (parameterName position) =
      '@' :: 'p' :: (toString (firstParameterIndex + position)).toList := by
  have digits : (toString (firstParameterIndex + position)).toList.map Char.toLower =
      (toString (firstParameterIndex + position)).toList :=
    calc (toString (firstParameterIndex + position)).toList.map Char.toLower
      _ = (toString (firstParameterIndex + position)).toList.map id :=
        List.map_congr_left fun c mem => toLower_digit (toString_isDigit _ c mem)
      _ = _ := List.map_id _
  rw [Text.caseKey, parameterName, String.toList_append, List.map_append, digits]
  rfl

/-- Generated names differ by their numbers, which have no letters. -/
theorem parameterName_sameName {i j : Nat}
    (same : Text.sameName (parameterName i) (parameterName j) = true) : i = j := by
  rw [Text.sameName_iff, caseKey_parameterName, caseKey_parameterName, List.cons.injEq,
    List.cons.injEq, String.toList_inj] at same
  exact Nat.add_left_cancel (toString_injective same.2.2)

namespace Parameters

theorem entries_distinct (table : Parameters) : DistinctNames table.entries := by
  have names : (table.entries.map Prod.fst).Pairwise fun a b => Text.sameName a b = false := by
    rw [entries_names, List.pairwise_map]
    refine List.pairwise_lt_range.imp fun less => Bool.eq_false_iff.2 fun same => ?_
    exact Nat.ne_of_lt less (parameterName_sameName same)
  exact List.pairwise_map.1 names

/-- A name is in a table if it is that of one of its positions. -/
theorem any_entries {table : Parameters} {name : String} :
    (table.entries.any fun (bound, _) => Text.sameName bound name) = true ↔
      ∃ position < table.values.length, Text.sameName name (parameterName position) = true := by
  have names : (table.entries.any fun (bound, _) => Text.sameName bound name) =
      ((List.range table.values.length).map parameterName).any (Text.sameName name) := by
    rw [← entries_names, List.any_map]
    simp only [Function.comp_def, Text.sameName_comm]
  rw [names]
  simp

end Parameters

end Sql

/-! ## Statements -/

namespace Statement

/-- All names of a statement are different, so looking one up finds its value. -/
structure Unambiguous (statement : Statement) : Prop where
  distinct : DistinctNames statement.allParameters
  found : ∀ name value, statement.parameter? name = some value ↔
    ∃ bound, (bound, value) ∈ statement.allParameters ∧ Text.sameName bound name = true
  notFound : ∀ name, statement.parameter? name = none ↔
    ∀ bound ∈ statement.allParameters, Text.sameName bound.1 name = false

/-- The first entry of a name is its only one. -/
theorem find?_of_mem {entries : List (String × Literal)} (distinct : DistinctNames entries)
    {name bound : String} {value : Literal} (mem : (bound, value) ∈ entries)
    (same : Text.sameName bound name = true) :
    entries.find? (fun entry => Text.sameName entry.1 name) = some (bound, value) := by
  induction distinct with
  | nil => cases mem
  | @cons entry rest others _ ih =>
    rcases List.mem_cons.1 mem with rfl | mem
    · exact List.find?_cons_of_pos same
    · -- the first entry cannot have the name too
      have differs : Text.sameName entry.1 name = false := by
        refine Bool.eq_false_iff.2 fun isName => ?_
        have sameEntry : Text.sameName entry.1 bound = true := by
          rw [Text.sameName_comm] at same
          exact Text.sameName_trans isName same
        rw [others _ mem] at sameEntry
        cases sameEntry
      rw [List.find?_cons, differs]
      exact ih mem

theorem unambiguous_of_distinct {statement : Statement}
    (distinct : DistinctNames statement.allParameters) : statement.Unambiguous := by
  constructor
  case distinct => exact distinct
  case found =>
    intro name value
    constructor
    · exact exists_of_parameter?
    · rintro ⟨bound, mem, same⟩
      rw [parameter?, find?_of_mem distinct mem same]
      rfl
  case notFound =>
    intro name
    rw [parameter?, Option.map_eq_none_iff, List.find?_eq_none]
    simp only [Bool.not_eq_true]

end Statement

namespace Query

/-- A parameter of the caller has this name, and so has a generated parameter of the clauses. -/
def Collides (query : Query Row) (clauses : Clauses) (name : String) : Prop :=
  name ∈ query.parameters.map Prod.fst ∧
    ∃ position < (clauses.conditions.flatMap Sql.Expression.leafValues).length,
      Text.sameName name (Sql.parameterName position) = true

variable {query : Query Row} {clauses : Clauses} {transform : ItemTransform Row} {output : Output}

theorem compileAs_of_clauses (areClauses : query.clauses = .ok (clauses, transform))
    (output : Output) :
    query.compileAs output = query.statement (clauses.forOutput output) output := by
  cases output with
  | rows =>
    rw [compileAs, compile, areClauses]
    change Prod.fst <$> (query.statement clauses .rows >>= fun statement =>
      pure (statement, transform)) = query.statement clauses .rows
    cases query.statement clauses .rows <;> rfl
  | count =>
    rw [compileAs, compileCount, areClauses]
    rfl

/-- Clauses are refused for a collision and for nothing else. -/
theorem statement_error_iff {e : CompileError} :
    query.statement clauses output = .error e ↔
      ∃ name, e = .parameterNameCollision name ∧
        collision? ⟨clauses.conditions.flatMap Sql.Expression.leafValues⟩ query.parameters =
          some name := by
  simp only [Query.statement, Assembly.assemble_parameters]
  cases collision? ⟨clauses.conditions.flatMap Sql.Expression.leafValues⟩ query.parameters with
  | none => simp
  | some name => simp [eq_comm]

/-- A query is refused for a name that collides. -/
theorem collides_of_collision? {name : String}
    (found : collision? ⟨clauses.conditions.flatMap Sql.Expression.leafValues⟩ query.parameters =
      some name) : query.Collides clauses name := by
  obtain ⟨bound, isFirst, rfl⟩ := Option.map_eq_some_iff.1 found
  have generated := List.find?_some isFirst
  exact ⟨List.mem_map_of_mem (List.mem_of_find?_eq_some isFirst),
    Sql.Parameters.any_entries.1 generated⟩

theorem collision?_of_collides {name : String} (collides : query.Collides clauses name) :
    ∃ first, collision? ⟨clauses.conditions.flatMap Sql.Expression.leafValues⟩ query.parameters =
      some first := by
  obtain ⟨isKey, generated⟩ := collides
  obtain ⟨bound, mem, rfl⟩ := List.mem_map.1 isKey
  rw [← Option.isSome_iff_exists, collision?, Option.isSome_map, List.find?_isSome]
  exact ⟨bound, mem, Sql.Parameters.any_entries.2 generated⟩

/-- The names of a statement are different if those of the query are. -/
theorem statement_distinct {statement : Statement} (distinct : DistinctNames query.parameters)
    (compiled : query.statement clauses output = .ok statement) :
    DistinctNames statement.allParameters := by
  have accepted : ∀ name, ¬ query.Collides clauses name := by
    intro name collides
    obtain ⟨first, found⟩ := collision?_of_collides collides
    rw [statement_error_iff.2 ⟨first, rfl, found⟩] at compiled
    cases compiled
  rw [Statement.allParameters, (statement_assembly compiled).2]
  refine List.pairwise_append.2 ⟨Sql.Parameters.entries_distinct _, distinct, ?_⟩
  intro entry mem bound isBound
  refine Bool.eq_false_iff.2 fun same => accepted bound.1 ⟨List.mem_map_of_mem isBound, ?_⟩
  have generated : (statement.parameters.entries.any fun (name, _) =>
      Text.sameName name bound.1) = true := List.any_eq_true.2 ⟨entry, mem, same⟩
  rw [statement_parameters compiled] at generated
  exact Sql.Parameters.any_entries.1 generated

/-- **Names of parameters are unambiguous**, however a query is built. -/
theorem built_parameterNames {bound : Bindings} (built : query.Built bound) (output : Output) :
    query.parameters.Holds bound ∧
      (∀ statement, query.compileAs output = .ok statement → statement.Unambiguous) ∧
      ∀ clauses transform, query.clauses = .ok (clauses, transform) →
        ((∃ name, query.compileAs output = .error (.parameterNameCollision name)) ↔
          ∃ name, query.Collides clauses name) ∧
        ∀ name, query.compileAs output = .error (.parameterNameCollision name) →
          query.Collides clauses name := by
  have holds := built.holds
  refine ⟨holds, ?_, ?_⟩
  · intro statement compiled
    obtain ⟨clauses, transform, -, isStatement⟩ := compileAs_statement compiled
    exact Statement.unambiguous_of_distinct (statement_distinct holds.distinct isStatement)
  · intro clauses transform areClauses
    have conditions : (clauses.forOutput output).conditions = clauses.conditions := by
      cases output <;> rfl
    have refused : ∀ name, query.compileAs output = .error (.parameterNameCollision name) ↔
        collision? ⟨clauses.conditions.flatMap Sql.Expression.leafValues⟩ query.parameters =
          some name := by
      intro name
      rw [compileAs_of_clauses areClauses, statement_error_iff, conditions]
      simp
    simp only [refused]
    refine ⟨⟨?_, ?_⟩, fun name => collides_of_collision?⟩
    · rintro ⟨name, found⟩
      exact ⟨name, collides_of_collision? found⟩
    · rintro ⟨name, collides⟩
      exact collision?_of_collides collides

/-- One parameter is bound twice. -/
def byIdentifier : Query Nat :=
  (Query.ofSql "SELECT * FROM people WHERE Id = @Id")
    |>.bindParameter "id" (.int 7)
    |>.filter (.greaterThan (.field "Age") (.literal (.int 17)))
    |>.bindParameter "@ID" (.int 8)

/-- The second value replaces the first, and another one is refused under a generated name. -/
theorem built_byIdentifier :
    byIdentifier.Built [("@id", .int 7), ("@ID", .int 8)] ∧
      byIdentifier.parameters = [("@ID", .int 8)] ∧
      (∃ statement, byIdentifier.compileAs .rows = .ok statement ∧ statement.Unambiguous ∧
        statement.parameter? "@Id" = some (.int 8)) ∧
      ∃ clauses transform, (byIdentifier.bindParameter "p1000" .null).clauses =
          .ok (clauses, transform) ∧
        (byIdentifier.bindParameter "p1000" .null).Collides clauses "@p1000" := by
  have built : byIdentifier.Built [("@id", .int 7), ("@ID", .int 8)] :=
    (((Built.ofSql _).step (.bindParameter "id" (.int 7))).step (.refine _)).step
      (.bindParameter "@ID" (.int 8))
  have value : ((byIdentifier.compileAs .rows).toOption.bind fun statement =>
      statement.parameter? "@Id") = some (.int 8) := by rfl
  have refused : (byIdentifier.bindParameter "p1000" .null).compileAs .rows =
      .error (.parameterNameCollision "@p1000") := by rfl
  obtain ⟨-, unambiguous, -⟩ := built_parameterNames built .rows
  obtain ⟨-, -, collision⟩ :=
    built_parameterNames (built.step (.bindParameter "p1000" .null)) .rows
  refine ⟨built, rfl, ?_, ?_⟩
  · obtain ⟨statement, succeeded, isValue⟩ := Option.bind_eq_some_iff.1 value
    have compiled := Except.toOption_eq_some.1 succeeded
    exact ⟨statement, compiled, unambiguous statement compiled, isValue⟩
  · refine ⟨_, _, rfl, ?_⟩
    exact (collision _ _ rfl).2 _ refused

end Query

end PlanCompiler
