/-
# Proofs.ReducedDrafts -- compiling calls early

Reducing a call compiles it on its folded operands, and keeps it as it is where that fails
(`reduceStep_call`).  No literal comes or goes, so a folded draft stays folded
(`folded_reduce`), and the operands of its calls are folded already.  What a call is replaced
by is then the very SQL that it compiles to (`expression_reduceStep`), and the nodes above it
find the same nulls and collections.  So a folded draft compiles alike with or without its
calls reduced (`expression_reduce`).
-/
import PlanCompiler.Compile.Reduce
import PlanCompiler.Proofs.RelatedOutcomes

namespace PlanCompiler.Draft

set_option autoImplicit false

open Term (Folded)

variable {env : Environment} {name : String} {target : Option Draft} {args : List Draft}
  {isStatic : Bool}

/-! ## Calls -/

theorem expression_call_eq_ok {sql : Sql.Expression} :
    expression env (.call name target args isStatic) = .ok sql ↔
      Sql.Expression.ofCall? name (target.map (operand env)) (args.map (operand env)) isStatic =
        .ok (some sql) := by
  rw [expression, targetOperand_eq_map, operands_eq_map]
  split <;> simp_all

/-- The value of a nullable operand is the operand. -/
theorem expression_value (method : Method.ofName? name = some .value) (draft : Draft) :
    expression env (.call name (some draft) [] isStatic) = expression env draft := by
  have value : Sql.Expression.ofCall? name (some (operand env draft)) [] isStatic =
      some <$> expression env draft := by
    unfold Sql.Expression.ofCall?
    rw [method]
    rfl
  rw [expression, targetOperand_eq_map, operands_eq_map, Option.map_some, List.map_nil, value]
  cases expression env draft <;> rfl

/-- Whether a call is compiled before folding, if it can be. -/
def compilesEarly (name : String) (target : Option Draft) (args : List Draft) : Bool :=
  target.any readsField || args.any readsField || isGenerator name target args

theorem isGenerator_map (name : String) (target : Option Draft) (args : List Draft)
    (f : Draft → Draft) :
    isGenerator name (target.map f) (args.map f) = isGenerator name target args := by
  unfold isGenerator
  cases Method.ofName? name with
  | none => rfl
  | some method => cases method <;> cases target <;> cases args <;> rfl

theorem unwrapped?_eq_some {field : String} (found : unwrapped? name target args = some field) :
    Method.ofName? name = some .value ∧ target = some (.field field) ∧ args = [] := by
  unfold unwrapped? at found
  split at found <;> cases found
  exact ⟨‹_›, rfl, rfl⟩

/-- The SQL of a call is what it compiles to on its folded operands. -/
theorem reducedCall?_eq_some {sql : Sql.Expression} :
    reducedCall? env name target args isStatic = some sql ↔
      compilesEarly name target args = true ∧
        expression env (.call name (target.map Term.fold) (args.map Term.fold) isStatic) =
          .ok sql := by
  rw [expression_call_eq_ok, Option.map_map, List.map_map, Function.comp_def]
  unfold reducedCall? compilesEarly
  dsimp only
  generalize Sql.Expression.ofCall? name (target.map fun draft => operand env (Term.fold draft))
    (args.map fun draft => operand env (Term.fold draft)) isStatic = outcome
  split
  · rename_i early
    rw [early]
    cases outcome with
    | ok sql => simp
    | error e => simp
  · rename_i late
    simp [late]

/-- What reducing does to a call: the value of a field is the field, and other calls that compile
early are replaced by their SQL. -/
theorem reduceStep_call (env : Environment) (name : String) (target : Option Draft)
    (args : List Draft) (isStatic : Bool) :
    (∃ field, Method.ofName? name = some .value ∧ target = some (.field field) ∧ args = [] ∧
        reduceStep env (.call name target args isStatic) = .field field) ∨
      (∃ sql, compilesEarly name target args = true ∧
        expression env (.call name (target.map Term.fold) (args.map Term.fold) isStatic) = .ok sql ∧
        reduceStep env (.call name target args isStatic) = .leaf sql) ∨
      reduceStep env (.call name target args isStatic) = .call name target args isStatic := by
  simp only [reduceStep]
  cases unwrapped : unwrapped? name target args with
  | some field =>
    obtain ⟨method, isField, none⟩ := unwrapped?_eq_some unwrapped
    exact .inl ⟨field, method, isField, none, rfl⟩
  | none =>
    cases reduced : reducedCall? env name target args isStatic with
    | some sql =>
      obtain ⟨early, compiled⟩ := reducedCall?_eq_some.1 reduced
      exact .inr (.inl ⟨sql, early, compiled, rfl⟩)
    | none => exact .inr (.inr rfl)

/-! ## Literals and folding -/

theorem reduce_call (env : Environment) (name : String) (target : Option Draft) (args : List Draft)
    (isStatic : Bool) :
    reduce env (.call name target args isStatic) =
      reduceStep env (.call name (target.map (reduce env)) (args.map (reduce env)) isStatic) := by
  unfold reduce
  rw [Term.transform, Term.transformTarget_eq_map, Term.transformArgs_eq_map]

theorem literal?_reduce (env : Environment) (draft : Draft) :
    (reduce env draft).literal? = draft.literal? := by
  cases draft with
  | call name target args isStatic =>
    rw [reduce_call]
    rcases reduceStep_call env name (target.map (reduce env)) (args.map (reduce env)) isStatic with
      ⟨field, -, -, -, same⟩ | ⟨sql, -, -, same⟩ | same
    all_goals rw [same]; rfl
  | _ => rfl

/-- Reducing leaves nothing to fold where there was nothing. -/
theorem folded_reduce {draft : Draft} (folded : Folded draft) : Folded (reduce env draft) := by
  induction folded with
  | leaf here => exact .leaf trivial
  | field here => exact .field trivial
  | literal here => exact .literal trivial
  | unary _ here inside =>
    exact .unary inside (Term.undecided_unary_congr (literal?_reduce env _) here)
  | binary _ _ here inLeft inRight =>
    exact .binary inLeft inRight
      (Term.undecided_binary_congr (literal?_reduce env _) (literal?_reduce env _) here)
  | conditional _ _ _ here inTest inTrue inFalse =>
    exact .conditional inTest inTrue inFalse
      (Term.undecided_conditional_congr (literal?_reduce env _) here)
  | @call name target args isStatic _ _ here inTarget inArgs =>
    rw [reduce_call]
    rcases reduceStep_call env name (target.map (reduce env)) (args.map (reduce env)) isStatic with
      ⟨field, -, -, -, same⟩ | ⟨sql, -, -, same⟩ | same
    · rw [same]
      exact .field trivial
    · rw [same]
      exact .leaf trivial
    · rw [same]
      refine .call ?_ (List.forall_mem_map.2 inArgs) (Term.undecided_call_congr
        (fun t _ => literal?_reduce env t) (fun a _ => literal?_reduce env a) here)
      intro t isTarget
      obtain ⟨t', given, rfl⟩ := Option.map_eq_some_iff.1 isTarget
      exact inTarget t' given

/-! ## Compiling -/

/-- On folded operands a call compiles to what it is replaced by. -/
theorem expression_reduceStep (inTarget : ∀ t, target = some t → Folded t)
    (inArgs : ∀ a ∈ args, Folded a) :
    expression env (reduceStep env (.call name target args isStatic)) =
      expression env (.call name target args isStatic) := by
  rcases reduceStep_call env name target args isStatic with
    ⟨field, method, rfl, rfl, same⟩ | ⟨sql, -, compiled, same⟩ | same
  · rw [same, expression_value method]
  · have sameTarget : target.map Term.fold = target := by
      cases target with
      | none => rfl
      | some t => rw [Option.map_some, (inTarget t rfl).fold_eq]
    have sameArgs : args.map Term.fold = args :=
      (List.map_congr_left fun a mem => (inArgs a mem).fold_eq).trans (List.map_id _)
    rw [sameTarget, sameArgs] at compiled
    rw [same, compiled]
    rfl
  · rw [same]

theorem eq_isCongruence : Sql.Expression.IsCongruence (· = ·) where
  value _ := rfl
  wildcard := rfl
  and left right := by rw [left, right]
  or left right := by rw [left, right]
  not inside := by rw [inside]
  unary _ inside := by rw [inside]
  binary _ left right := by rw [left, right]
  inList item inItems := by
    rw [List.forall₂_eq_eq_eq] at inItems
    rw [item, inItems]
  function _ inArgs := by
    rw [List.forall₂_eq_eq_eq] at inArgs
    rw [inArgs]

theorem Alike.refl (draft : Draft) : Alike env (· = ·) draft draft where
  literal := rfl
  sql := by
    cases draft.expression env with
    | ok sql => exact .ok rfl
    | error e => exact .error rfl

theorem reduce_alike {draft : Draft} (folded : Folded draft) :
    Alike env (· = ·) (reduce env draft) draft := by
  induction folded with
  | leaf here => exact .refl _
  | field here => exact .refl _
  | literal here => exact .refl _
  | unary _ _ inside => exact .unary eq_isCongruence _ inside
  | binary _ _ _ inLeft inRight => exact .binary eq_isCongruence _ inLeft inRight
  | conditional _ _ _ _ inTest inTrue inFalse =>
    exact .conditional eq_isCongruence inTest inTrue inFalse
  | @call name target args isStatic inTarget inArgs _ targetAlike argsAlike =>
    refine ⟨literal?_reduce env _, ?_⟩
    have operands := Alike.call eq_isCongruence name isStatic targetAlike argsAlike
    rw [reduce_call, expression_reduceStep]
    · exact operands.sql
    · intro t isTarget
      obtain ⟨t', given, rfl⟩ := Option.map_eq_some_iff.1 isTarget
      exact folded_reduce (inTarget t' given)
    · exact List.forall_mem_map.2 fun a mem => folded_reduce (inArgs a mem)

/-- **Reducing calls does not change what a folded draft compiles to.**  Both ways give the same
SQL, or both fail for reasons of one kind. -/
theorem expression_reduce (env : Environment) (draft : Draft) (folded : Term.fold draft = draft) :
    SameOutcome (· = ·) (expression env (reduce env draft)) (expression env draft) :=
  (reduce_alike (Term.folded_iff.2 folded)).sql

/-- `["Mr", "Ms"].Contains(Name.Trim()) && Name.ToUpper() != null` -/
def titled : Draft :=
  .binary .andAlso
    (.call "Contains" (some (.literal (.array [.string "Mr", .string "Ms"])))
      [.call "Trim" (some (.field "Name")) [] false] false)
    (.binary (.comparison .notEqual)
      (.call "ToUpper" (some (.field "Name")) [] false) (.literal .null))

/-- Both calls in `titled` are replaced, and the null test is still found. -/
theorem expression_reduce_titled :
    let env : Environment := ⟨.empty, .empty, true⟩
    let trimmed : Sql.Expression := .function .trim [.column (.named "Name")]
    let upper : Sql.Expression := .function .upper [.column (.named "Name")]
    let listed : Sql.Expression := .inList trimmed [.value (.string "Mr"), .value (.string "Ms")]
    Term.fold titled = titled ∧
      reduce env titled = .binary .andAlso (.leaf listed)
        (.binary (.comparison .notEqual) (.leaf upper) (.literal .null)) ∧
      expression env titled = .ok (.and listed (.unary .isNotNull upper)) := by
  intro env trimmed upper listed
  have folded : Term.fold titled = titled := rfl
  have same := expression_reduce env titled folded
  have compiled : expression env (reduce env titled) =
      .ok (.and listed (.unary .isNotNull upper)) := rfl
  rw [compiled] at same
  refine ⟨folded, rfl, ?_⟩
  generalize expression env titled = outcome at same ⊢
  cases same with
  | ok same => rw [same]

end PlanCompiler.Draft
