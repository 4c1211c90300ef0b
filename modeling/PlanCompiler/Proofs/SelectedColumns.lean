/-
# Proofs.SelectedColumns -- what a projection selects

A projection of a field or of members narrows the row.  The state of the projections records the
narrowings so far (`Projection.Records`): there is at most one, every field that its members come
to is known, and the selected columns are those fields that are single columns, in the order of
their first mention and without repetition.  Each operation of a plan keeps the record
(`records_advance`), a narrowing by adding itself, and so does the whole plan by induction on its
operations.

A second narrowing has nothing to be recorded by, whatever the first one selects, and so a plan
with two of them is refused.
-/
import PlanCompiler.Proofs.Counting

namespace PlanCompiler

set_option autoImplicit false

/-! ## Narrowings -/

/-- The members that a shape narrows to, none if it is the whole row. -/
def Shape.members? : Shape → Option (List Predicate)
  | .row => none
  | .field name => some [.field name]
  | .composite members => some members

def Operation.narrowing? : Operation → Option (List Predicate)
  | .project shape _ => shape.members?
  | _ => none

/-- The members that the projections of a plan narrow to, in the order of the plan. -/
def Plan.narrowings (plan : Plan) : List (List Predicate) :=
  plan.filterMap Operation.narrowing?

namespace Environment

/-- The field that a member comes to. -/
def memberField? (env : Environment) (member : Predicate) : Option String :=
  match Draft.simplify env member with
  | .field field => some field
  | _ => none

/-- The fields among members, in their order. -/
def memberFields (env : Environment) (members : List Predicate) : List String :=
  members.filterMap env.memberField?

/-- Whether a field is declared to be a document, an object or an array. -/
def isStructured (env : Environment) (field : String) : Bool :=
  match env.fields.lookup field with
  | some info => info.type = .json ∨ info.type = .object ∨ info.type = .array
  | none => false

/-- The columns of members, in the order of their first mention. -/
def memberColumns (env : Environment) (members : List Predicate) : List String :=
  ((env.memberFields members).filter fun field => !env.isStructured field).eraseDups

theorem isSimple_eq_ok {env : Environment} {field : String} {simple : Bool}
    (found : env.isSimple field = .ok simple) :
    env.knows field = true ∧ simple = !env.isStructured field := by
  obtain ⟨_, checked, same⟩ := Except.bind_eq_ok.1 found
  refine ⟨of_check checked, ?_⟩
  cases same
  unfold isStructured
  cases env.fields.lookup field with
  | none => rfl
  | some info => cases info with | mk type _ _ => cases type <;> rfl

end Environment

/-! ## One projection -/

/-- One more element at the end is kept if it is new. -/
theorem eraseDups_concat {α : Type} [BEq α] [LawfulBEq α] (as : List α) (a : α) :
    (as ++ [a]).eraseDups =
      if as.eraseDups.contains a then as.eraseDups else as.eraseDups ++ [a] := by
  have single : [a].eraseDups = [a] := List.eraseDups_cons
  rw [List.eraseDups_append]
  by_cases seen : a ∈ as <;> simp [List.removeAll, seen, single]

namespace Projection

variable {Row : Type} {env : Environment} {state after : Projection Row}

/-- The selected columns are those among the fields asked for so far, and the row has all of
them. -/
structure Selects (env : Environment) (fields : List String) (state : Projection Row) : Prop where
  known : ∀ field ∈ fields, env.knows field = true
  selected : state.selected = (fields.filter fun field => !env.isStructured field).eraseDups

theorem Outcome.andThen_eq_ok {first : Outcome Row} {second : Projection Row → Outcome Row} :
    first.andThen second = (after, .ok ()) ↔
      ∃ between, first = (between, .ok ()) ∧ second between = (after, .ok ()) := by
  obtain ⟨between, result⟩ := first
  cases result <;> simp [Outcome.andThen]

theorem selects_selectIfSimple {fields : List String} {field : String}
    (selects : Selects env fields state)
    (succeeded : state.selectIfSimple env field = (after, .ok ())) :
    Selects env (fields ++ [field]) after ∧ after.narrowed = state.narrowed := by
  unfold selectIfSimple at succeeded
  split at succeeded
  case h_2 => cases succeeded
  case h_1 simple found =>
    obtain ⟨known, isSimple⟩ := Environment.isSimple_eq_ok found
    have allKnown : ∀ f ∈ fields ++ [field], env.knows f = true :=
      List.forall_mem_append.2 ⟨selects.known, List.forall_mem_singleton.2 known⟩
    cases succeeded
    cases simple with
    | false =>
      refine ⟨⟨allKnown, ?_⟩, rfl⟩
      change state.selected = _
      rw [List.filter_append, List.filter_singleton, ← isSimple, selects.selected, cond_false,
        List.append_nil]
    | true =>
      refine ⟨⟨allKnown, ?_⟩, ?_⟩
      · rw [List.filter_append, List.filter_singleton, ← isSimple, cond_true, eraseDups_concat,
          ← selects.selected]
        change (select field state).selected = _
        unfold select
        split <;> rfl
      · change (select field state).narrowed = _
        unfold select
        split <;> rfl

theorem selects_selectMembers {members : List Predicate} :
    ∀ {fields : List String} {state : Projection Row}, Selects env fields state →
      state.selectMembers env members = (after, .ok ()) →
        Selects env (fields ++ env.memberFields members) after ∧
          after.narrowed = state.narrowed := by
  induction members with
  | nil =>
    intro fields state selects succeeded
    cases succeeded
    exact ⟨(List.append_nil fields).symm ▸ selects, rfl⟩
  | cons member rest ih =>
    intro fields state selects succeeded
    unfold selectMembers at succeeded
    split at succeeded
    case h_1 field isField =>
      obtain ⟨between, first, others⟩ := Outcome.andThen_eq_ok.1 succeeded
      obtain ⟨selects', narrowed⟩ := selects_selectIfSimple selects first
      obtain ⟨selects'', narrowed'⟩ := ih selects' others
      have fields' : env.memberFields (member :: rest) = field :: env.memberFields rest := by
        simp [Environment.memberFields, Environment.memberField?, isField]
      rw [fields', List.append_cons]
      exact ⟨selects'', narrowed'.trans narrowed⟩
    case h_2 notField =>
      have fields' : env.memberFields (member :: rest) = env.memberFields rest := by
        simp [Environment.memberFields, Environment.memberField?]
      rw [fields']
      exact ih selects succeeded

/-- A projection of a field is one of a single member. -/
theorem selectShape_field (env : Environment) (name : String) (state : Projection Row) :
    state.selectShape env (.field name) = state.selectShape env (.composite [.field name]) := by
  have one (state : Projection Row) :
      state.selectMembers env [.field name] = state.selectIfSimple env name := by
    change (state.selectIfSimple env name).andThen (selectMembers env []) = _
    obtain ⟨between, result⟩ := state.selectIfSimple env name
    cases result <;> rfl
  exact congrArg state.narrow.andThen (funext one).symm

/-! ## All projections -/

/-- The state after these narrowings. -/
structure Records (env : Environment) (narrowings : List (List Predicate))
    (state : Projection Row) : Prop where
  single : narrowings.length ≤ 1
  narrowed : state.narrowed = !narrowings.isEmpty
  selects : Selects env (narrowings.flatMap env.memberFields) state

theorem records_empty (env : Environment) : Records env [] (empty : Projection Row) where
  single := Nat.zero_le 1
  narrowed := rfl
  selects := ⟨nofun, rfl⟩

/-- Only the first narrowing succeeds. -/
theorem records_composite {narrowings : List (List Predicate)} {members : List Predicate}
    (records : Records env narrowings state)
    (succeeded : state.selectShape env (.composite members) = (after, .ok ())) :
    Records env (narrowings ++ [members]) after := by
  obtain ⟨between, begun, selected⟩ := Outcome.andThen_eq_ok.1 succeeded
  unfold narrow at begun
  split at begun <;> cases begun
  rename_i notNarrowed
  have first : narrowings = [] := by
    rw [records.narrowed] at notNarrowed
    simpa using notNarrowed
  subst first
  have begins : Selects env [] { state with narrowed := true } := ⟨nofun, records.selects.selected⟩
  obtain ⟨selects, narrowed⟩ := selects_selectMembers begins selected
  exact ⟨Nat.le_refl 1, narrowed, by simpa using selects⟩

theorem records_selectShape {narrowings : List (List Predicate)} {shape : Shape}
    (records : Records env narrowings state)
    (succeeded : state.selectShape env shape = (after, .ok ())) :
    Records env (narrowings ++ shape.members?.toList) after := by
  cases shape with
  | row =>
    cases succeeded
    exact (List.append_nil narrowings).symm ▸ records
  | field name => exact records_composite records (selectShape_field env name state ▸ succeeded)
  | composite members => exact records_composite records succeeded

/-- Collecting a mutator selects nothing. -/
theorem records_collect {narrowings : List (List Predicate)} {mutators : List (Row → Row)}
    {mutator : Option Nat} (records : Records env narrowings state)
    (succeeded : state.collect mutators mutator = (after, .ok ())) :
    Records env narrowings after := by
  unfold collect at succeeded
  split at succeeded
  · cases succeeded
    exact records
  · split at succeeded <;> cases succeeded
    exact ⟨records.single, records.narrowed, records.selects.known, records.selects.selected⟩

theorem records_project {narrowings : List (List Predicate)} {mutators : List (Row → Row)}
    {shape : Shape} {mutator : Option Nat} (records : Records env narrowings state)
    (succeeded : state.project env mutators shape mutator = (after, .ok ())) :
    Records env (narrowings ++ shape.members?.toList) after := by
  obtain ⟨between, collected, selected⟩ := Outcome.andThen_eq_ok.1 succeeded
  exact records_selectShape (records_collect records collected) selected

end Projection

namespace Query

variable {Row : Type} {query : Query Row}

/-- Each operation that succeeds adds its narrowing to the record, if it is one. -/
theorem records_advance {narrowings : List (List Predicate)} {before after : Progress Row}
    {operation : Operation}
    (records : before.projection.Records query.environment narrowings)
    (advanced : query.advance before operation = .ok after) :
    after.projection.Records query.environment (narrowings ++ operation.narrowing?.toList) := by
  cases advance_eq_ok.1 advanced with
  | project projected => exact Projection.records_project records projected
  | filter | sortBy | thenSortBy | skip | take => exact (List.append_nil narrowings).symm ▸ records

theorem foldlM_records {plan : Plan} {before after : Progress Row} :
    plan.foldlM query.advance before = .ok after →
      ∀ narrowings, before.projection.Records query.environment narrowings →
        after.projection.Records query.environment (narrowings ++ plan.narrowings) := by
  refine Except.foldlM_induction (motive := fun (plan : Plan) (before after : Progress Row) =>
    ∀ narrowings, before.projection.Records query.environment narrowings →
      after.projection.Records query.environment (narrowings ++ plan.narrowings)) ?_ ?_
  · exact fun _ narrowings records => (List.append_nil narrowings).symm ▸ records
  · rintro operation rest before next after first others narrowings records
    have plan : Plan.narrowings (operation :: rest) =
        operation.narrowing?.toList ++ Plan.narrowings rest := by
      unfold Plan.narrowings
      rw [List.filterMap_cons]
      cases operation.narrowing? <;> rfl
    rw [plan, ← List.append_assoc]
    exact others _ (records_advance records first)

/-- What the clauses of a plan select. -/
theorem records_clauses {clauses : Clauses} {transform : ItemTransform Row}
    (compiled : query.clauses = .ok (clauses, transform)) :
    ∃ projection : Projection Row, projection.selected = clauses.selected ∧
      projection.Records query.environment query.plan.narrowings := by
  obtain ⟨progress, order, isProgress, -, rfl, -⟩ := clauses_eq_ok.1 compiled
  exact ⟨progress.projection, rfl, foldlM_records isProgress [] (Projection.records_empty _)⟩

theorem statement_selectedColumns {clauses : Clauses} {output : Output} {statement : Statement}
    (compiled : query.statement clauses output = .ok statement) :
    statement.selectedColumns = clauses.selected := by
  cases statement_eq compiled
  rfl

/-- **What a projection selects.**  A plan that compiles narrows the row at most once, to members
whose fields are all known.  It selects those of the fields that are not structured, in the order
of their first mention and without repetition, and nothing if it does not narrow.  A plan that
narrows twice is refused, even if nothing is selected. -/
theorem compile_selects (query : Query Row) :
    (∀ statement transform, query.compile = .ok (statement, transform) →
      ∃ narrowing : Option (List Predicate), query.plan.narrowings = narrowing.toList ∧
        (∀ members, narrowing = some members →
          ∀ field ∈ query.environment.memberFields members,
            query.environment.knows field = true) ∧
        statement.selectedColumns =
          (narrowing.map query.environment.memberColumns).getD []) ∧
      (2 ≤ query.plan.narrowings.length → ∀ output, ∃ e, query.compileAs output = .error e) := by
  constructor
  · intro statement transform compiled
    obtain ⟨clauses, areClauses, isStatement⟩ := compile_eq_ok.1 compiled
    obtain ⟨projection, isSelected, records⟩ := records_clauses areClauses
    have known := records.selects.known
    have selected := isSelected.symm.trans records.selects.selected
    rw [statement_selectedColumns isStatement]
    revert known selected
    rcases narrowed : query.plan.narrowings with _ | ⟨members, _ | ⟨second, others⟩⟩
    · intro _ selected
      exact ⟨none, rfl, nofun, selected⟩
    · intro known selected
      rw [List.flatMap_singleton] at known selected
      refine ⟨some members, rfl, ?_, selected⟩
      rintro _ ⟨⟩
      exact known
    · have single := records.single
      rw [narrowed] at single
      simp at single
  · intro twice output
    cases areClauses : query.clauses with
    | error e => exact ⟨e, compileAs_of_error areClauses output⟩
    | ok result =>
      obtain ⟨projection, -, records⟩ := records_clauses areClauses
      exact absurd records.single (by omega)

/-- `{ Name, Name.Value, Age + 1, Address, City }` of people with an address that is a document. -/
def contactMembers : List Predicate :=
  [.field "Name", (Predicate.field "Name").member "Value",
    .add (.field "Age") (.literal (.int 1)), .field "Address", .field "City"]

/-- The contacts of the first ten people. -/
def contacts : Query Nat :=
  (Query.ofSql "SELECT * FROM people")
    |>.withFields (.ofList [("Name", ⟨.string, true, none⟩), ("Age", ⟨.integer, false, none⟩),
      ("Address", ⟨.json, true, none⟩), ("City", ⟨.string, false, none⟩)])
    |>.registerMutator (· + 1)
    |>.project (.composite contactMembers)
    |>.take 10

/-- The name is mentioned twice, the sum is no column, and the address is a document. -/
theorem compile_selects_contacts :
    contacts.plan.narrowings = [contactMembers] ∧
      (∃ statement transform, contacts.compile = .ok (statement, transform) ∧
        statement.selectedColumns = ["Name", "City"]) ∧
      ∃ e, (contacts.project (.field "Address")).compileAs .rows = .error e := by
  have narrowings : contacts.plan.narrowings = [contactMembers] := rfl
  have columns : contacts.environment.memberColumns contactMembers = ["Name", "City"] := by
    decide +kernel
  have accepted : contacts.compile.toOption.isSome = true := by decide +kernel
  refine ⟨narrowings, ?_, (compile_selects (contacts.project (.field "Address"))).2 ?_ .rows⟩
  · obtain ⟨⟨statement, transform⟩, succeeded⟩ := Option.isSome_iff_exists.1 accepted
    have compiled := Except.toOption_eq_some.1 succeeded
    obtain ⟨narrowing, isNarrowing, -, selected⟩ :=
      (compile_selects contacts).1 statement transform compiled
    cases narrowing with
    | none => cases isNarrowing
    | some members =>
      cases isNarrowing
      exact ⟨statement, transform, compiled, selected.trans columns⟩
  · exact Nat.le_refl 2

end Query

end PlanCompiler
