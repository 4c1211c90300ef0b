/-
# Proofs.HiddenConstants -- constants that reducing calls puts out of reach of folding

Whether a call is compiled early is decided on its operands as they are written, but it is
compiled on what they fold to.  A call on constants is therefore compiled, and no longer
folded, if one of the constants mentions a field before it is folded (`Hides`).

That is the only way to lose a constant: reducing never makes one, and keeps those of every
draft in which no call hides one (`fold_reduce_constant`).
-/
import PlanCompiler.Proofs.ReducedDrafts

namespace PlanCompiler.Draft

set_option autoImplicit false

open Term (Reveals Throughout)

variable {env : Environment} {name : String} {target : Option Draft} {args : List Draft}
  {isStatic : Bool}

/-- The draft folds to a literal. -/
def Constant (draft : Draft) : Prop :=
  ∃ value, Term.fold draft = .literal value

/-- A call on constants that is compiled all the same, because one of them mentions a field. -/
def Hides (env : Environment) : Draft → Prop
  | .call name target args isStatic =>
    (∀ operand ∈ target.toList ++ args, Constant operand) ∧
    (∃ operand ∈ target.toList ++ args, readsField (reduce env operand) = true) ∧
    ∃ sql, expression env (.call name (target.map Term.fold) (args.map Term.fold) isStatic) =
      .ok sql
  | _ => False

/-- No call in the draft hides a constant. -/
abbrev HidesNothing (env : Environment) (draft : Draft) : Prop :=
  Throughout (fun inside => ¬ Hides env inside) draft

/-! ## Reducing makes no constants -/

/-- What has been compiled is no literal any more. -/
theorem fold_reduce_reveals (env : Environment) (draft : Draft) :
    Reveals (Term.fold (reduce env draft)) (Term.fold draft) := by
  induction draft using Term.induct with
  | leaf sql => exact fun _ folds => folds
  | field name => exact fun _ folds => folds
  | literal value => exact fun _ folds => folds
  | unary op operand inside => exact Term.foldStep_unary_reveals op inside
  | binary op left right inLeft inRight => exact Term.foldStep_binary_reveals op inLeft inRight
  | conditional test whenTrue whenFalse inTest inTrue inFalse =>
    exact Term.foldStep_conditional_reveals inTest inTrue inFalse
  | call name target args isStatic inTarget inArgs =>
    rw [reduce_call]
    rcases reduceStep_call env name (target.map (reduce env)) (args.map (reduce env)) isStatic with
      ⟨field, -, -, -, same⟩ | ⟨sql, -, -, same⟩ | same
    · rw [same]
      exact nofun
    · rw [same]
      exact nofun
    · rw [same, Term.fold_call, Term.fold_call, Option.map_map, List.map_map]
      exact Term.foldStep_call_reveals name isStatic inTarget inArgs

/-! ## Calls on constants -/

theorem constant_of_call {value : Literal}
    (folds : Term.fold (.call name target args isStatic) = .literal value) :
    ∀ operand ∈ target.toList ++ args, Constant operand := by
  rw [Term.fold_call, Term.foldStep_call_eq_literal] at folds
  intro operand mem
  apply Term.literal_of_callValue? folds
  rw [Option.toList_map, ← List.map_append]
  exact List.mem_map_of_mem mem

/-- A generator has no value, so it is not folded. -/
theorem not_isGenerator_of_call {value : Literal}
    (folds : Term.fold (.call name target args isStatic) = .literal value) :
    isGenerator name target args = false := by
  rw [Term.fold_call, Term.foldStep_call_eq_literal] at folds
  obtain ⟨method, literal, literals, named, -, -, result⟩ := Term.callValue?_eq_some folds
  unfold isGenerator
  rw [named]
  cases method with
  | generator generator => cases result
  | _ => rfl

section

variable (others : isGenerator name target args = false)
  (constant : ∀ operand ∈ target.toList ++ args,
    Constant operand ∧ Reveals (Term.fold operand) (Term.fold (reduce env operand)))

include constant

/-- Constants that are still there after reducing fold to what they folded to. -/
theorem fold_reduce_operands :
    (target.map (reduce env)).map Term.fold = target.map Term.fold ∧
      (args.map (reduce env)).map Term.fold = args.map Term.fold := by
  have same : ∀ operand ∈ target.toList ++ args,
      Term.fold (reduce env operand) = Term.fold operand := by
    intro operand mem
    obtain ⟨⟨value, folds⟩, kept⟩ := constant operand mem
    rw [kept value folds, folds]
  obtain ⟨inTarget, inArgs⟩ := List.forall_mem_append.1 same
  refine ⟨?_, ?_⟩
  · cases target with
    | none => rfl
    | some t => simpa using inTarget
  · rw [List.map_map]
    exact List.map_congr_left inArgs

/-- A constant is no field, also after reducing. -/
theorem target_reduce_ne_field (field : String) :
    target.map (reduce env) ≠ some (.field field) := by
  intro isField
  obtain ⟨t, rfl, reduced⟩ := Option.map_eq_some_iff.1 isField
  obtain ⟨⟨value, folds⟩, kept⟩ := constant t (List.mem_append_left _ (by simp))
  have literal := kept value folds
  rw [reduced] at literal
  cases literal

include others

/-- Of all calls on constants, reducing compiles those that hide one. -/
theorem reduce_call_eq_leaf_iff :
    (∃ sql, reduce env (.call name target args isStatic) = .leaf sql) ↔
      Hides env (.call name target args isStatic) := by
  obtain ⟨sameTarget, sameArgs⟩ := fold_reduce_operands constant
  have early : compilesEarly name (target.map (reduce env)) (args.map (reduce env)) = true ↔
      ∃ operand ∈ target.toList ++ args, readsField (reduce env operand) = true := by
    unfold compilesEarly
    rw [isGenerator_map, others, Bool.or_false]
    cases target <;> simp
  rw [reduce_call]
  constructor
  · rintro ⟨sql, reduced⟩
    rcases reduceStep_call env name (target.map (reduce env)) (args.map (reduce env)) isStatic with
      ⟨field, -, isField, -, -⟩ | ⟨sql', isEarly, compiled, -⟩ | same
    · exact absurd isField (target_reduce_ne_field constant field)
    · rw [sameTarget, sameArgs] at compiled
      exact ⟨fun operand mem => (constant operand mem).1, early.1 isEarly, sql', compiled⟩
    · rw [same] at reduced
      cases reduced
  · rintro ⟨-, mentions, sql, compiled⟩
    have reduced : reducedCall? env name (target.map (reduce env)) (args.map (reduce env))
        isStatic = some sql := by
      rw [reducedCall?_eq_some, sameTarget, sameArgs]
      exact ⟨early.2 mentions, compiled⟩
    have notField : unwrapped? name (target.map (reduce env)) (args.map (reduce env)) = none := by
      rw [Option.eq_none_iff_forall_not_mem]
      intro field isField
      exact target_reduce_ne_field constant field (unwrapped?_eq_some isField).2.1
    refine ⟨sql, ?_⟩
    simp only [reduceStep, notField, reduced]

end

/-! ## Reducing keeps constants -/

/-- What folds to a literal still does after reducing, where no call hides a constant. -/
theorem fold_reveals_reduce {draft : Draft} (hidesNothing : HidesNothing env draft) :
    Reveals (Term.fold draft) (Term.fold (reduce env draft)) := by
  induction hidesNothing with
  | leaf here => exact fun _ folds => folds
  | field here => exact fun _ folds => folds
  | literal here => exact fun _ folds => folds
  | unary _ here inside => exact Term.foldStep_unary_reveals _ inside
  | binary _ _ here inLeft inRight => exact Term.foldStep_binary_reveals _ inLeft inRight
  | conditional _ _ _ here inTest inTrue inFalse =>
    exact Term.foldStep_conditional_reveals inTest inTrue inFalse
  | @call name target args isStatic _ _ here inTarget inArgs =>
    intro value folds
    have constant : ∀ operand ∈ target.toList ++ args,
        Constant operand ∧ Reveals (Term.fold operand) (Term.fold (reduce env operand)) := by
      refine fun operand mem => ⟨constant_of_call folds operand mem, ?_⟩
      rcases List.mem_append.1 mem with isTarget | isArg
      · exact inTarget operand (Option.mem_toList.1 isTarget)
      · exact inArgs operand isArg
    have kept : reduce env (.call name target args isStatic) =
        .call name (target.map (reduce env)) (args.map (reduce env)) isStatic := by
      have others := not_isGenerator_of_call folds
      have notCompiled := mt (reduce_call_eq_leaf_iff others constant).1 here
      rw [reduce_call] at notCompiled ⊢
      rcases reduceStep_call env name (target.map (reduce env)) (args.map (reduce env)) isStatic
        with ⟨field, -, isField, -, -⟩ | ⟨sql, -, -, same⟩ | same
      · exact absurd isField (target_reduce_ne_field constant field)
      · exact absurd ⟨sql, same⟩ notCompiled
      · exact same
    rw [Term.fold_call] at folds
    rw [kept, Term.fold_call, Option.map_map, List.map_map]
    exact Term.foldStep_call_reveals name isStatic inTarget inArgs value folds

/-- **Reducing calls loses a constant only where a call hides one.**  What folds to a literal
after reducing also does so before.  The other way round holds for the drafts in which no call
hides a constant.  And a call on constants, but for the generators, is left to folding unless
it is one that hides a constant. -/
theorem fold_reduce_constant (env : Environment) :
    (∀ draft value, Term.fold (reduce env draft) = .literal value →
      Term.fold draft = .literal value) ∧
    (∀ draft value, HidesNothing env draft → Term.fold draft = .literal value →
      Term.fold (reduce env draft) = .literal value) ∧
    ∀ name target args isStatic, isGenerator name target args = false →
      (∀ operand ∈ target.toList ++ args, HidesNothing env operand ∧ Constant operand) →
      ((∃ sql, reduce env (.call name target args isStatic) = .leaf sql) ↔
        Hides env (.call name target args isStatic)) := by
  refine ⟨fold_reduce_reveals env, fun draft value hidesNothing =>
    fold_reveals_reduce hidesNothing value, ?_⟩
  intro name target args isStatic others operands
  exact reduce_call_eq_leaf_iff others fun operand mem =>
    ⟨(operands operand mem).2, fold_reveals_reduce (operands operand mem).1⟩

/-- `"abc".ToUpper().Contains("B") || Name.StartsWith("x")` -/
def shouted : Draft :=
  .binary .orElse
    (.call "Contains" (some (.call "ToUpper" (some (.literal (.string "abc"))) [] false))
      [.literal (.string "B")] false)
    (.call "StartsWith" (some (.field "Name")) [.literal (.string "x")] false)

theorem shouted_hidesNothing (env : Environment) : HidesNothing env shouted := by
  have literal (value : Literal) : HidesNothing env (.literal value) := .literal not_false
  have upper : HidesNothing env (.call "ToUpper" (some (.literal (.string "abc"))) [] false) := by
    refine .call ?_ nofun ?_
    · rintro t ⟨⟩
      exact literal _
    · rintro ⟨-, ⟨operand, mem, mentions⟩, -⟩
      obtain rfl := List.mem_singleton.1 mem
      cases mentions
  have contains : HidesNothing env
      (.call "Contains" (some (.call "ToUpper" (some (.literal (.string "abc"))) [] false))
        [.literal (.string "B")] false) := by
    refine .call ?_ (List.forall_mem_singleton.2 (literal _)) ?_
    · rintro t ⟨⟩
      exact upper
    · rintro ⟨-, ⟨operand, mem, mentions⟩, -⟩
      rcases List.mem_pair.1 mem with rfl | rfl <;> cases mentions
  have startsWith : HidesNothing env
      (.call "StartsWith" (some (.field "Name")) [.literal (.string "x")] false) := by
    refine .call ?_ (List.forall_mem_singleton.2 (literal _)) ?_
    · rintro t ⟨⟩
      exact .field not_false
    · rintro ⟨constant, -, -⟩
      obtain ⟨value, folds⟩ := constant (.field "Name") (List.mem_cons_self)
      cases folds
  exact .binary contains startsWith not_false

/-- The call on the field is compiled, and the one on texts is still folded. -/
theorem fold_reduce_shouted :
    let env : Environment := ⟨.empty, .empty, true⟩
    Term.fold shouted = .literal (.bool true) ∧
      (∃ left sql, reduce env shouted = .binary .orElse left (.leaf sql)) ∧
      Term.fold (reduce env shouted) = .literal (.bool true) := by
  intro env
  have folds : Term.fold shouted = .literal (.bool true) := rfl
  exact ⟨folds, ⟨_, _, rfl⟩,
    (fold_reduce_constant env).2.1 shouted _ (shouted_hidesNothing env) folds⟩

/-- `(true ? "abc" : Name).Contains("b")` -/
def chosenText : Draft :=
  .call "Contains"
    (some (.conditional (.literal (.bool true)) (.literal (.string "abc")) (.field "Name")))
    [.literal (.string "b")] false

/-- The field is in the branch that is not taken.  The call folds to `true`, but not after
reducing: it has become a pattern match between two bound texts. -/
theorem reduce_chosenText_hides :
    let env : Environment := ⟨.empty, .empty, true⟩
    let found : Sql.Expression := .binary .like (.value (.string "abc"))
      (.function .concat [Sql.Expression.wildcard, .value (.string "b"), Sql.Expression.wildcard])
    Term.fold chosenText = .literal (.bool true) ∧
      reduce env chosenText = .leaf found ∧
      Term.fold (reduce env chosenText) ≠ .literal (.bool true) := by
  exact ⟨rfl, rfl, nofun⟩

end PlanCompiler.Draft
