/-
# Proofs.RowMutators -- which functions run over the fetched rows

Registering a function appends it to the list of a query and its index to the plan.  So, as long
as no plan is put in place of another, the plan names the registered functions by their indices,
each once and in order (`Query.BuiltFluently.inOrder`), and no other step changes either.

Compiling an operation collects the function that it names (`Query.advance_transform`), so the
compiled transformation is made of the functions that the plan names, in its order
(`Query.clauses_transform`).  Together: the functions run in the order of their registration
(`Query.mutators_run`).
-/
import PlanCompiler.Proofs.RefusedPlans

namespace PlanCompiler

set_option autoImplicit false

variable {Row : Type}

/-! ## The plan -/

namespace Plan

theorem mutatorIds_cons (operation : Operation) (rest : Plan) :
    mutatorIds (operation :: rest) = operation.mutator?.toList ++ rest.mutatorIds := by
  unfold mutatorIds
  cases isNamed : operation.mutator? with
  | none => rw [List.filterMap_cons_none isNamed, Option.toList_none, List.nil_append]
  | some id => rw [List.filterMap_cons_some isNamed, Option.toList_some, List.singleton_append]

theorem mutatorIds_concat (plan : Plan) (operation : Operation) :
    mutatorIds (plan ++ [operation]) = plan.mutatorIds ++ operation.mutator?.toList := by
  have last : mutatorIds [operation] = operation.mutator?.toList := by
    rw [mutatorIds_cons]
    exact List.append_nil _
  rw [← last]
  exact List.filterMap_append

end Plan

/-! ## What is collected -/

namespace Query

variable {query : Query Row}

/-- These are the functions that a query has registered under the ids. -/
def Names (query : Query Row) (ids : List Nat) (mutates : List (Row → Row)) : Prop :=
  mutates.map some = ids.map (query.mutators[·]?)

theorem Names.append {ids ids' : List Nat} {mutates mutates' : List (Row → Row)}
    (names : query.Names ids mutates) (names' : query.Names ids' mutates') :
    query.Names (ids ++ ids') (mutates ++ mutates') := by
  rw [Names, List.map_append, List.map_append, names, names']

theorem Names.eq_filterMap {ids : List Nat} {mutates : List (Row → Row)}
    (names : query.Names ids mutates) : mutates = ids.filterMap (query.mutators[·]?) := by
  have found := congrArg (List.filterMap id) names
  simpa [List.filterMap_map, Function.comp_def] using found

/-- All ids that name a function are those of registered ones. -/
theorem Names.registered {ids : List Nat} {mutates : List (Row → Row)}
    (names : query.Names ids mutates) : ∀ id ∈ ids, id < query.mutators.length := by
  intro id mem
  have isSome : query.mutators[id]? ∈ mutates.map some := by
    rw [names]
    exact List.mem_map_of_mem mem
  obtain ⟨mutate, -, same⟩ := List.mem_map.1 isSome
  exact (List.getElem?_eq_some_iff.1 same.symm).1

/-- Projecting collects the function that it names, if it names one. -/
theorem project_transform {before after : Projection Row} {shape : Shape} {mutator : Option Nat}
    (projected : before.project query.environment query.mutators shape mutator = (after, .ok ())) :
    ∃ mutates, query.Names mutator.toList mutates ∧
      after.transform = before.transform ++ mutates := by
  have registered : ∀ id, mutator = some id → ∃ mutate, query.mutators[id]? = some mutate := by
    rintro id rfl
    cases isThere : query.mutators[id]? with
    | some mutate => exact ⟨mutate, rfl⟩
    | none =>
      rw [Projection.project_missing isThere] at projected
      cases projected
  obtain ⟨mutates, names, selects⟩ :=
    Projection.project_onlySelects query.environment shape registered before
  have transform := selects.transform
  rw [projected] at transform
  exact ⟨mutates, names, transform⟩

/-- One operation adds the function that it names at the end. -/
theorem advance_transform {before after : Progress Row} {operation : Operation}
    (advanced : query.advance before operation = .ok after) :
    ∃ mutates, query.Names operation.mutator?.toList mutates ∧
      after.projection.transform = before.projection.transform ++ mutates := by
  cases advance_eq_ok.1 advanced with
  | project projected => exact project_transform projected
  | filter | sortBy | thenSortBy | skip | take => exact ⟨[], rfl, (List.append_nil _).symm⟩

theorem foldlM_transform {plan : Plan} {before after : Progress Row} :
    plan.foldlM query.advance before = .ok after →
      ∃ mutates, query.Names plan.mutatorIds mutates ∧
        after.projection.transform = before.projection.transform ++ mutates := by
  refine Except.foldlM_induction (motive := fun (plan : Plan) (before after : Progress Row) =>
    ∃ mutates, query.Names plan.mutatorIds mutates ∧
      after.projection.transform = before.projection.transform ++ mutates) ?_ ?_
  · exact fun _ => ⟨[], rfl, (List.append_nil _).symm⟩
  · rintro operation rest before next after first ⟨more, moreNames, transform⟩
    obtain ⟨one, oneNames, nextTransform⟩ := advance_transform first
    refine ⟨one ++ more, ?_, ?_⟩
    · rw [Plan.mutatorIds_cons]
      exact oneNames.append moreNames
    · rw [transform, nextTransform, List.append_assoc]

/-- What is done to the rows are the functions that the plan names, in its order. -/
theorem clauses_transform {clauses : Clauses} {transform : ItemTransform Row}
    (compiled : query.clauses = .ok (clauses, transform)) :
    query.Names query.plan.mutatorIds transform := by
  obtain ⟨progress, order, isProgress, -, -, rfl⟩ := clauses_eq_ok.1 compiled
  obtain ⟨mutates, names, transform⟩ := foldlM_transform isProgress
  rw [transform]
  exact names

theorem compile_transform {statement : Statement} {transform : ItemTransform Row}
    (compiled : query.compile = .ok (statement, transform)) :
    query.Names query.plan.mutatorIds transform := by
  obtain ⟨clauses, areClauses, -⟩ := compile_eq_ok.1 compiled
  exact clauses_transform areClauses

end Query

/-! ## What is registered -/

namespace BuildStep

/-- A step that neither replaces the plan nor names a function by itself. -/
def IsFluent : BuildStep Row → Prop
  | .refine operation => operation.mutator? = none
  | .withPlan _ => False
  | _ => True

/-- The function that the step registers. -/
def mutator? : BuildStep Row → Option (Row → Row)
  | .registerMutator mutate => some mutate
  | _ => none

end BuildStep

namespace Query

variable {query : Query Row} {registered : List (Row → Row)}

/-- The query is built by fluent steps, which register these functions on the way. -/
inductive BuiltFluently : Query Row → List (Row → Row) → Prop
  | ofSql (baseSql : String) : BuiltFluently (ofSql baseSql) []
  | ofNativeQuery {native : NativeQuery} {query : Query Row}
      (opened : ofNativeQuery native = .ok query) : BuiltFluently query []
  | step {query : Query Row} {registered : List (Row → Row)}
      (built : BuiltFluently query registered) (step : BuildStep Row) (fluent : step.IsFluent) :
      BuiltFluently (step.apply query) (registered ++ step.mutator?.toList)

/-- The plan names the registered functions by their indices, each once and in order. -/
structure InOrder (query : Query Row) (registered : List (Row → Row)) : Prop where
  mutators : query.mutators = registered
  ids : query.plan.mutatorIds = List.range registered.length

end Query

/-- A fluent step leaves the functions in order, with the one that it registers as the last. -/
theorem BuildStep.apply_inOrder {query : Query Row} {registered : List (Row → Row)}
    {step : BuildStep Row} (fluent : step.IsFluent) (inOrder : query.InOrder registered) :
    (step.apply query).InOrder (registered ++ step.mutator?.toList) := by
  cases step with
  | registerMutator mutate =>
    constructor
    case mutators =>
      show query.mutators ++ [mutate] = registered ++ [mutate]
      rw [inOrder.mutators]
    case ids =>
      show Plan.mutatorIds (query.plan ++ [.project .row (some query.mutators.length)]) = _
      rw [Plan.mutatorIds_concat, inOrder.ids, inOrder.mutators]
      simp [Operation.mutator?, mutator?, List.range_succ]
  | refine operation =>
    have unnamed : operation.mutator? = none := fluent
    constructor
    case mutators =>
      simp only [mutator?, Option.toList_none, List.append_nil]
      exact inOrder.mutators
    case ids =>
      show Plan.mutatorIds (query.plan ++ [operation]) = _
      rw [Plan.mutatorIds_concat, unnamed, inOrder.ids]
      simp [mutator?]
  | withPlan plan => exact fluent.elim
  | withFields _ | mapField _ _ | ensureAllColumnsMapped | insertCommand _ | bindParameter _ _ =>
    simp only [mutator?, Option.toList_none, List.append_nil]
    exact ⟨inOrder.mutators, inOrder.ids⟩

namespace Query

theorem BuiltFluently.inOrder {query : Query Row} {registered : List (Row → Row)}
    (built : query.BuiltFluently registered) : query.InOrder registered := by
  induction built with
  | ofSql baseSql => exact ⟨rfl, rfl⟩
  | ofNativeQuery opened =>
    obtain ⟨text, -, same⟩ := Except.bind_eq_ok.1 opened
    cases same
    exact ⟨rfl, rfl⟩
  | step built step fluent inOrder => exact step.apply_inOrder fluent inOrder

/-- Where the functions are in order, the plan names all of them, each once. -/
theorem InOrder.names {query : Query Row} {registered mutates : List (Row → Row)}
    (inOrder : query.InOrder registered) (names : query.Names query.plan.mutatorIds mutates) :
    mutates = registered := by
  rw [Names, inOrder.ids, inOrder.mutators] at names
  have all : (List.range registered.length).map (registered[·]?) = registered.map some := by
    apply List.ext_getElem?
    intro i
    by_cases inside : i < registered.length
    · simp [inside]
    · simp [Nat.not_lt.1 inside]
  rw [all] at names
  exact (List.map_inj_right fun _ _ => Option.some.inj).1 names

/-- Where the functions are in order, none of them is missed. -/
theorem InOrder.not_missing {query : Query Row} {registered : List (Row → Row)}
    (inOrder : query.InOrder registered) (id : Nat) :
    query.compile ≠ .error (.mutatorNotFound id) := by
  intro failed
  rcases compile_error failed with (other | other | other | ⟨name, other⟩) | ⟨id', mem, missing, -⟩
  · exact other
  · exact other
  · exact other
  · cases other
  · rw [inOrder.ids, List.mem_range] at mem
    rw [inOrder.mutators, List.getElem?_eq_none_iff] at missing
    omega

/-- **Row mutators run once each, in the order of their registration**, whatever other steps lie
between, and none of them is ever missed.  Of a plan that is put in place of another all ids are
those of registered functions, which run in the order in which the plan names them. -/
theorem mutators_run :
    (∀ (query : Query Row) (registered : List (Row → Row)), query.BuiltFluently registered →
      (∀ id, query.compile ≠ .error (.mutatorNotFound id)) ∧
      ∀ statement transform, query.compile = .ok (statement, transform) →
        transform = registered ∧
        ∀ row, transform.apply row = registered.foldl (fun row mutate => mutate row) row) ∧
    ∀ (query : Query Row) (plan : Plan) (statement : Statement) (transform : ItemTransform Row),
      (query.withPlan plan).compile = .ok (statement, transform) →
        (∀ id ∈ plan.mutatorIds, id < query.mutators.length) ∧
        transform = plan.mutatorIds.filterMap (query.mutators[·]?) ∧
        ∀ row, transform.apply row =
          (plan.mutatorIds.filterMap (query.mutators[·]?)).foldl (fun row mutate => mutate row) row := by
  constructor
  · intro query registered built
    refine ⟨built.inOrder.not_missing, fun statement transform compiled => ?_⟩
    have same := built.inOrder.names (compile_transform compiled)
    exact ⟨same, fun row => by rw [same]; rfl⟩
  · intro query plan statement transform compiled
    have names : query.Names plan.mutatorIds transform := compile_transform compiled
    have same := names.eq_filterMap
    exact ⟨names.registered, same, fun row => by rw [← same]; rfl⟩

/-- Functions between other steps, on rows that are numbers. -/
def doubledSuccessors : Query Nat :=
  (Query.ofSql "SELECT * FROM people")
    |>.registerMutator (· + 1)
    |>.filter (.greaterThan (.field "Age") (.literal (.int 17)))
    |>.sortBy (.field "Name") .ascending
    |>.project (.fields ["Name"])
    |>.take 10
    |>.registerMutator (2 * ·)

theorem mutators_doubledSuccessors :
    doubledSuccessors.BuiltFluently [(· + 1), (2 * ·)] ∧
      (∃ statement transform, doubledSuccessors.compile = .ok (statement, transform) ∧
        transform.apply 3 = 8) ∧
      ∃ statement transform, (doubledSuccessors.withPlan
          [.project .row (some 1), .skip 1, .project .row (some 0), .project .row (some 1)]).compile =
            .ok (statement, transform) ∧ transform.apply 3 = 14 := by
  have built : doubledSuccessors.BuiltFluently [(· + 1), (2 * ·)] := by
    have base : (Query.ofSql "SELECT * FROM people" : Query Nat).BuiltFluently [] := .ofSql _
    have first := base.step (.registerMutator (· + 1)) trivial
    have filtered := first.step
      (.refine (.filter (.greaterThan (.field "Age") (.literal (.int 17))))) rfl
    have sorted := filtered.step (.refine (.sortBy (.field "Name") .ascending)) rfl
    have projected := sorted.step (.refine (.project (.fields ["Name"]) none)) rfl
    have taken := projected.step (.refine (.take 10)) rfl
    exact taken.step (.registerMutator (2 * ·)) trivial
  have compiles : ∀ query : Query Nat, query.compile.toOption.isSome = true →
      ∃ statement transform, query.compile = .ok (statement, transform) := by
    intro query isSome
    obtain ⟨⟨statement, transform⟩, succeeded⟩ := Option.isSome_iff_exists.1 isSome
    exact ⟨statement, transform, Except.toOption_eq_some.1 succeeded⟩
  refine ⟨built, ?_, ?_⟩
  · obtain ⟨statement, transform, compiled⟩ := compiles doubledSuccessors (by decide +kernel)
    obtain ⟨-, run⟩ := mutators_run.1 doubledSuccessors _ built
    exact ⟨statement, transform, compiled, (run statement transform compiled).2 3⟩
  · obtain ⟨statement, transform, compiled⟩ := compiles (doubledSuccessors.withPlan
      [.project .row (some 1), .skip 1, .project .row (some 0), .project .row (some 1)])
      (by decide +kernel)
    exact ⟨statement, transform, compiled, (mutators_run.2 _ _ statement transform compiled).2.2 3⟩

end Query

end PlanCompiler
