/-
# Proofs.RenamedFields -- renaming is substitution

Two environments that know the same fields and read them from other columns compile a predicate
side by side.  The drafts of the second one are those of the first with their columns replaced
(`Draft.mapColumns`), pass by pass: a call compiles early under both environments or under none
(`reduceStep_mapColumns`), folding never sees a column, and a conditional guards its value against
null under both or under none (`normalizeStep_mapColumns`).  The last is where it matters that
different fields are read from different columns, as the guard and the value may have been
compiled before they are compared.

So the two conditions differ in their columns only (`condition_renamed`).
-/
import Mathlib.Data.Set.Function
import PlanCompiler.Proofs.ReducedDrafts
import PlanCompiler.Proofs.RenamedColumns

namespace PlanCompiler

set_option autoImplicit false

/-! ## Two environments -/

/-- Both rows have the fields, and the second environment reads them from what replaces the columns
of the first, different ones from different ones. -/
structure Environment.IsRenaming (rename : Sql.Column → Sql.Column) (fields : List String)
    (env env' : Environment) : Prop where
  known : ∀ field ∈ fields, env.knows field = true
  known' : ∀ field ∈ fields, env'.knows field = true
  column : ∀ field ∈ fields, rename (env.resolve field) = env'.resolve field
  distinct : ∀ a ∈ fields, ∀ b ∈ fields, env'.resolve a = env'.resolve b → a = b

namespace Environment

/-- What replaces a column when fields are read under another environment: where the first of the
fields with that column is read from there. -/
def replacement (env env' : Environment) (fields : List String) (column : Sql.Column) :
    Sql.Column :=
  match fields.find? fun field => env.resolve field = column with
  | some field => env'.resolve field
  | none => column

theorem replacement_resolve (env env' : Environment) {fields : List String}
    (distinct : Set.InjOn env.resolve {field | field ∈ fields}) {field : String}
    (named : field ∈ fields) :
    env.replacement env' fields (env.resolve field) = env'.resolve field := by
  unfold replacement
  split
  · rename_i first found
    have same : env.resolve first = env.resolve field := by simpa using List.find?_some found
    rw [distinct (List.mem_of_find?_eq_some found) named same]
  · rename_i missing
    exact absurd (decide_eq_true rfl) (List.find?_eq_none.1 missing field named)

/-- Only a row with declared fields refuses any. -/
theorem knows_of_undeclared (env : Environment) (undeclared : env.fields.isEmpty = true)
    (field : String) : env.knows field = true := by
  simp [knows, undeclared]

end Environment

/-- Different columns stand for different fields, and so are replaced by different columns. -/
theorem Environment.IsRenaming.distinct_columns
    {rename : Sql.Column → Sql.Column} {fields : List String} {env env' : Environment}
    (renames : Environment.IsRenaming rename fields env env') (c d : Sql.Column)
    (inC : c ∈ fields.map env.resolve) (inD : d ∈ fields.map env.resolve)
    (same : rename c = rename d) : c = d := by
  obtain ⟨a, inA, rfl⟩ := List.mem_map.1 inC
  obtain ⟨b, inB, rfl⟩ := List.mem_map.1 inD
  rw [renames.column a inA, renames.column b inB] at same
  rw [renames.distinct a inA b inB same]

namespace Draft

open Sql.Expression (IsRenamed)
open Term (Every)

/-- Replace the columns in the compiled parts of a draft. -/
def mapColumns (rename : Sql.Column → Sql.Column) (draft : Draft) : Draft :=
  Term.mapLeaves (Sql.Expression.mapColumns rename) draft

/-- The draft is over the fields, and so are its compiled parts. -/
abbrev IsOver (env : Environment) (fields : List String) (draft : Draft) : Prop :=
  Every (Sql.Expression.Generated (· ∈ fields.map env.resolve)) (· ∈ fields) draft

variable {rename : Sql.Column → Sql.Column} {fields : List String} {env env' : Environment}

/-! ## Questions about drafts -/

section

variable (rename)

theorem mapColumns_call (name : String) (target : Option Draft) (args : List Draft)
    (isStatic : Bool) :
    mapColumns rename (.call name target args isStatic) =
      .call name (target.map (mapColumns rename)) (args.map (mapColumns rename)) isStatic := by
  simp only [mapColumns, Term.mapLeaves, Term.mapTarget_eq_map, Term.mapArgs_eq_map]
  rfl

theorem mapColumns_unary (op : UnaryOp) (operand : Draft) :
    mapColumns rename (.unary op operand) = .unary op (mapColumns rename operand) := rfl

theorem mapColumns_binary (op : BinaryOp) (left right : Draft) :
    mapColumns rename (.binary op left right) =
      .binary op (mapColumns rename left) (mapColumns rename right) := rfl

theorem mapColumns_conditional (test whenTrue whenFalse : Draft) :
    mapColumns rename (.conditional test whenTrue whenFalse) =
      .conditional (mapColumns rename test) (mapColumns rename whenTrue)
        (mapColumns rename whenFalse) := rfl

theorem mapColumns_ofPredicate (p : Predicate) :
    mapColumns rename (ofPredicate p) = ofPredicate p := by
  unfold mapColumns ofPredicate
  rw [Term.mapLeaves_mapLeaves]
  exact congrArg (Term.mapLeaves · p) (funext fun leaf => leaf.elim)

theorem literal?_mapColumns (draft : Draft) : (mapColumns rename draft).literal? = draft.literal? :=
  Term.literal?_mapLeaves _ draft

theorem isBool_mapColumns (truth : Bool) (draft : Draft) :
    (mapColumns rename draft).isBool truth = draft.isBool truth :=
  Term.isBool_congr (literal?_mapColumns rename draft) truth

theorem isNull_mapColumns (draft : Draft) : (mapColumns rename draft).isNull = draft.isNull :=
  Term.isNull_congr (literal?_mapColumns rename draft)

theorem isZero_mapColumns (draft : Draft) : (mapColumns rename draft).isZero = draft.isZero := by
  cases draft <;> rfl

theorem isEmptyCollection_mapColumns (draft : Draft) :
    (mapColumns rename draft).isEmptyCollection = draft.isEmptyCollection := by
  cases draft <;> rfl

theorem readsField_mapColumns (draft : Draft) :
    (mapColumns rename draft).readsField = draft.readsField := by
  unfold mapColumns readsField
  rw [Term.reads_mapLeaves]
  exact congrArg (Term.reads · draft) (funext (Sql.Expression.reads_mapColumns rename))

theorem isEmptyMembership_mapColumns (draft : Draft) :
    (mapColumns rename draft).isEmptyMembership = draft.isEmptyMembership := by
  cases draft with
  | call name target args isStatic =>
    rw [mapColumns_call]
    unfold isEmptyMembership
    dsimp only
    cases Method.ofName? name with
    | none => rfl
    | some method =>
      cases method with
      | contains =>
        rcases target with _ | collection
        · rcases args with _ | ⟨collection, _ | ⟨item, _ | _⟩⟩
          · rfl
          · rfl
          · exact isEmptyCollection_mapColumns rename collection
          · rfl
        · rcases args with _ | ⟨item, _ | _⟩
          · rfl
          · exact isEmptyCollection_mapColumns rename collection
          · rfl
      | _ => rfl
  | _ => rfl

theorem nullCheck?_mapColumns (op : Comparison) (left right : Draft) :
    nullCheck? op (mapColumns rename left) (mapColumns rename right) =
      nullCheck? op left right := by
  unfold nullCheck?
  rw [isNull_mapColumns, isNull_mapColumns]

theorem checkedForNull?_mapColumns (left right : Draft) :
    checkedForNull? (mapColumns rename left) (mapColumns rename right) =
      (checkedForNull? left right).map (mapColumns rename) := by
  unfold checkedForNull?
  rw [isNull_mapColumns, isNull_mapColumns]
  split
  · rfl
  · split <;> rfl

theorem compared?_mapColumns (draft : Draft) :
    compared? (mapColumns rename draft) =
      (compared? draft).map (Prod.map (mapColumns rename) (mapColumns rename)) := by
  cases draft with
  | call name target args isStatic =>
    rw [mapColumns_call]
    unfold compared?
    dsimp only
    cases Method.ofName? name with
    | none => rfl
    | some method =>
      cases method with
      | compare =>
        rcases target with _ | _
        · rcases args with _ | ⟨left, _ | ⟨right, _ | _⟩⟩ <;> rfl
        · rfl
      | compareTo =>
        rcases target with _ | _
        · rfl
        · rcases args with _ | ⟨right, _ | _⟩ <;> rfl
      | _ => rfl
  | _ => rfl

theorem unwrapped?_mapColumns (name : String) (target : Option Draft) (args : List Draft) :
    unwrapped? name (target.map (mapColumns rename)) (args.map (mapColumns rename)) =
      unwrapped? name target args := by
  unfold unwrapped?
  cases Method.ofName? name with
  | none => rfl
  | some method =>
    cases method with
    | value =>
      rcases target with _ | target
      · rfl
      · cases target <;> cases args <;> rfl
    | _ => rfl

theorem compilesEarly_mapColumns (name : String) (target : Option Draft) (args : List Draft) :
    compilesEarly name (target.map (mapColumns rename)) (args.map (mapColumns rename)) =
      compilesEarly name target args := by
  simp only [compilesEarly, Option.any_map, List.any_map, Function.comp_def, readsField_mapColumns,
    isGenerator_map]

end

/-! ## Compiling -/

/-- A draft with its columns replaced compiles to its SQL with the columns replaced. -/
theorem expression_mapColumns (renames : Environment.IsRenaming rename fields env env')
    {onLeaf : Sql.Expression → Prop} {draft : Draft} (isOver : Every onLeaf (· ∈ fields) draft) :
    SameOutcome (IsRenamed rename) (expression env draft)
      (expression env' (mapColumns rename draft)) := by
  have congruence := Sql.Expression.isRenamed_isCongruence rename
  induction isOver with
  | leaf _ => exact .ok rfl
  | @field name named =>
    have found := renames.known name named
    have found' := renames.known' name named
    simp only [mapColumns, Term.mapLeaves, expression, Environment.column, Environment.check, found,
      found', if_true]
    exact .ok (congrArg Sql.Expression.column (renames.column name named).symm)
  | literal value => cases value <;> first | exact .ok rfl | exact .error rfl
  | unary op _ inside =>
    cases op with
    | not => exact inside.map fun _ _ => congruence.not
    | negate => exact inside.map fun _ _ => congruence.unary .negate
  | @binary op left right _ _ inLeft inRight =>
    cases op with
    | comparison op =>
      have checks := nullCheck?_mapColumns rename op left right
      simp only [mapColumns, Term.mapLeaves, expression] at checks ⊢
      rw [checks]
      split
      · exact inLeft.map fun _ _ => congruence.unary _
      · exact inRight.map fun _ _ => congruence.unary _
      · exact inLeft.bind fun _ _ isLeft => inRight.bind fun _ _ isRight =>
          .ok (congruence.binary _ isLeft isRight)
    | calculation op =>
      exact inLeft.bind fun _ _ isLeft => inRight.bind fun _ _ isRight =>
        .ok (congruence.binary _ isLeft isRight)
    | andAlso =>
      exact inLeft.bind fun _ _ isLeft => inRight.bind fun _ _ isRight =>
        .ok (congruence.and isLeft isRight)
    | orElse =>
      exact inLeft.bind fun _ _ isLeft => inRight.bind fun _ _ isRight =>
        .ok (congruence.or isLeft isRight)
  | conditional _ _ _ inTest inTrue inFalse =>
    exact inTest.bind fun _ _ isTest => inTrue.bind fun _ _ isTrue =>
      inFalse.bind fun _ _ isFalse =>
        .ok (congruence.function _ (.cons isTest (.cons isTrue (.cons isFalse .nil))))
  | @call name target args isStatic _ _ inTarget inArgs =>
    have alike {draft : Draft} (compiled : SameOutcome (IsRenamed rename) (expression env draft)
        (expression env' (mapColumns rename draft))) :
        (operand env draft).Alike (IsRenamed rename) (operand env' (mapColumns rename draft)) :=
      ⟨by cases draft <;> rfl, compiled⟩
    obtain ⟨targetAlike, argsAlike⟩ := Alike.operands_related
      (f := operand env) (g := operand env' ∘ mapColumns rename)
      (List.forall_mem_append.2 ⟨fun t mem => alike (inTarget t (Option.mem_toList.1 mem)),
        fun a mem => alike (inArgs a mem)⟩)
    rw [mapColumns_call]
    refine expression_call_related name isStatic ?_
    rw [Option.map_map, List.map_map]
    exact Sql.Expression.ofCall?_related congruence name isStatic targetAlike argsAlike

/-! ## Passes -/

theorem reducedCall?_mapColumns (renames : Environment.IsRenaming rename fields env env')
    {onLeaf : Sql.Expression → Prop} {name : String} {target : Option Draft} {args : List Draft}
    {isStatic : Bool} (isOver : Every onLeaf (· ∈ fields) (.call name target args isStatic)) :
    reducedCall? env' name (target.map (mapColumns rename)) (args.map (mapColumns rename))
        isStatic =
      (reducedCall? env name target args isStatic).map (Sql.Expression.mapColumns rename) := by
  cases isOver with
  | call _ _ inTarget inArgs =>
    have foldedOver : Every onLeaf (· ∈ fields)
        (.call name (target.map Term.fold) (args.map Term.fold) isStatic) := by
      refine .call name isStatic (fun t isTarget => ?_)
        (List.forall_mem_map.2 fun a mem => Term.fold_every (inArgs a mem))
      obtain ⟨t', given, rfl⟩ := Option.map_eq_some_iff.1 isTarget
      exact Term.fold_every (inTarget t' given)
    have compiled := expression_mapColumns renames foldedOver
    have foldComp : Term.fold ∘ mapColumns rename = mapColumns rename ∘ Term.fold :=
      funext (Term.fold_mapLeaves _)
    refine Option.ext fun sql => ?_
    rw [reducedCall?_eq_some, compilesEarly_mapColumns, Option.map_map, List.map_map, foldComp,
      Option.map_eq_some_iff]
    simp only [reducedCall?_eq_some]
    rw [mapColumns_call, Option.map_map, List.map_map] at compiled
    generalize expression env _ = x, expression env' _ = y at compiled
    cases compiled with
    | ok results =>
      obtain rfl := results
      simp [and_assoc]
    | error errors => simp

theorem reduceStep_mapColumns (renames : Environment.IsRenaming rename fields env env')
    (draft : Draft) {onLeaf : Sql.Expression → Prop} (isOver : Every onLeaf (· ∈ fields) draft) :
    reduceStep env' (mapColumns rename draft) = mapColumns rename (reduceStep env draft) := by
  cases draft with
  | call name target args isStatic =>
    rw [mapColumns_call, reduceStep, reduceStep, unwrapped?_mapColumns,
      reducedCall?_mapColumns renames isOver]
    cases unwrapped? name target args with
    | some field => rfl
    | none =>
      cases reducedCall? env name target args isStatic with
      | some sql => rfl
      | none => exact (mapColumns_call rename name target args isStatic).symm
  | _ => rfl

/-! ### Guards against null -/

theorem sameArgs_mapColumns {as : List Draft} : ∀ {bs : List Draft},
    (∀ a ∈ as, ∀ b ∈ bs, same (mapColumns rename a) (mapColumns rename b) = same a b) →
      sameArgs (as.map (mapColumns rename)) (bs.map (mapColumns rename)) = sameArgs as bs := by
  induction as with
  | nil =>
    intro bs _
    cases bs <;> rfl
  | cons a as ih =>
    intro bs each
    cases bs with
    | nil => rfl
    | cons b bs =>
      have first := each a List.mem_cons_self b List.mem_cons_self
      have others := ih fun a inA b inB =>
        each a (List.mem_cons_of_mem _ inA) b (List.mem_cons_of_mem _ inB)
      rw [List.map_cons, List.map_cons, sameArgs, sameArgs, first, others]

theorem sameTarget_mapColumns {target target' : Option Draft}
    (each : ∀ a, target = some a → ∀ b, target' = some b →
      same (mapColumns rename a) (mapColumns rename b) = same a b) :
    sameTarget (target.map (mapColumns rename)) (target'.map (mapColumns rename)) =
      sameTarget target target' := by
  cases target with
  | none => cases target' <;> rfl
  | some a =>
    cases target' with
    | none => rfl
    | some b => exact each a rfl b rfl

/-- Drafts are written alike if and only if they are with their columns replaced. -/
theorem same_mapColumns (renames : Environment.IsRenaming rename fields env env') {a b : Draft}
    (overA : IsOver env fields a) (overB : IsOver env fields b) :
    same (mapColumns rename a) (mapColumns rename b) = same a b := by
  induction overA generalizing b with
  | leaf inA =>
    cases overB with
    | leaf inB => exact Sql.Expression.same_mapColumns renames.distinct_columns inA inB
    | _ => rfl
  | field _ => cases overB <;> rfl
  | literal _ => cases overB <;> rfl
  | unary _ _ operand =>
    cases overB with
    | unary _ inside => rw [mapColumns_unary, mapColumns_unary, same, same, operand inside]
    | _ => rfl
  | binary _ _ _ left right =>
    cases overB with
    | binary _ inLeft inRight =>
      rw [mapColumns_binary, mapColumns_binary, same, same, left inLeft, right inRight]
    | _ => rfl
  | conditional _ _ _ test whenTrue whenFalse =>
    cases overB with
    | conditional inTest inTrue inFalse =>
      rw [mapColumns_conditional, mapColumns_conditional, same, same, test inTest,
        whenTrue inTrue, whenFalse inFalse]
    | _ => rfl
  | @call name target args isStatic _ _ targetSame argsSame =>
    cases overB with
    | @call name' target' args' isStatic' inTarget inArgs =>
      have areSame := sameArgs_mapColumns fun a memA b memB => argsSame a memA (inArgs b memB)
      have isSame := sameTarget_mapColumns fun a givenA b givenB =>
        targetSame a givenA (inTarget b givenB)
      rw [mapColumns_call, mapColumns_call, same, same, areSame, isSame]
    | _ => rfl

theorem checkedForNull?_isOver {left right checked : Draft} (overLeft : IsOver env fields left)
    (overRight : IsOver env fields right) (found : checkedForNull? left right = some checked) :
    IsOver env fields checked := by
  unfold checkedForNull? at found
  split at found
  · cases found
    exact overLeft
  · split at found <;> cases found
    exact overRight

theorem guarded?_mapColumns (renames : Environment.IsRenaming rename fields env env')
    {test whenTrue whenFalse : Draft} (overTest : IsOver env fields test)
    (overTrue : IsOver env fields whenTrue) (overFalse : IsOver env fields whenFalse) :
    guarded? (mapColumns rename test) (mapColumns rename whenTrue) (mapColumns rename whenFalse) =
      (guarded? test whenTrue whenFalse).map (mapColumns rename) := by
  cases overTest with
  | @binary op left right overLeft overRight =>
    cases op with
    | comparison op =>
      rw [mapColumns_binary]
      simp only [guarded?, checkedForNull?_mapColumns]
      cases found : checkedForNull? left right with
      | none => rfl
      | some checked =>
        have overChecked := checkedForNull?_isOver overLeft overRight found
        cases op with
        | equal =>
          simp only [Option.map_some, isNull_mapColumns,
            same_mapColumns renames overFalse overChecked]
          split <;> rfl
        | notEqual =>
          simp only [Option.map_some, isNull_mapColumns,
            same_mapColumns renames overTrue overChecked]
          split <;> rfl
        | _ => rfl
    | _ => rfl
  | _ => rfl

theorem normalizeStep_mapColumns (renames : Environment.IsRenaming rename fields env env')
    {draft : Draft} (isOver : IsOver env fields draft) :
    normalizeStep (mapColumns rename draft) = mapColumns rename (normalizeStep draft) := by
  cases isOver with
  | @binary op left right _ _ =>
    rw [mapColumns_binary]
    cases op with
    | andAlso =>
      simp only [normalizeStep, isBool_mapColumns]
      split
      · rfl
      · split <;> rfl
    | orElse =>
      simp only [normalizeStep, isBool_mapColumns]
      split
      · rfl
      · split <;> rfl
    | comparison op =>
      simp only [normalizeStep, isZero_mapColumns, compared?_mapColumns]
      cases isZero right with
      | true => cases compared? left <;> rfl
      | false => rfl
    | calculation op => rfl
  | @conditional test whenTrue whenFalse overTest overTrue overFalse =>
    rw [mapColumns_conditional]
    simp only [normalizeStep, guarded?_mapColumns renames overTest overTrue overFalse]
    cases guarded? test whenTrue whenFalse <;> rfl
  | call name isStatic _ _ =>
    rw [mapColumns_call]
    exact (mapColumns_call rename _ _ _ _).symm
  | _ => rfl

/-- The simplified draft of the second environment is that of the first with its columns
replaced. -/
theorem simplify_mapColumns (renames : Environment.IsRenaming rename fields env env')
    {p : Predicate} (named : p.fieldNames ⊆ fields) :
    simplify env' p = mapColumns rename (simplify env p) := by
  have columns : ∀ field, field ∈ fields → env.knows field = true →
      env.resolve field ∈ fields.map env.resolve := fun field mem _ => List.mem_map_of_mem mem
  have isOver : IsOver env fields (ofPredicate p) :=
    Term.mapLeaves_every (fun leaf => nomatch leaf)
      (Term.every_of_fieldNames (fun _ => trivial) p named)
  have reducedOver : IsOver env fields (reduce env (ofPredicate p)) :=
    Term.transform_every (reduceStep_every columns) isOver
  have reduced : reduce env' (mapColumns rename (ofPredicate p)) =
      mapColumns rename (reduce env (ofPredicate p)) :=
    Term.transform_mapLeaves _ (reduceStep_every columns)
      (fun draft => reduceStep_mapColumns renames draft) isOver
  have folded : Term.fold (reduce env' (ofPredicate p)) =
      mapColumns rename (Term.fold (reduce env (ofPredicate p))) := by
    rw [← mapColumns_ofPredicate rename p, reduced, mapColumns_ofPredicate]
    exact Term.fold_mapLeaves _ _
  unfold simplify
  rw [folded]
  exact Term.transform_mapLeaves _ normalizeStep_every
    (fun draft => normalizeStep_mapColumns renames) (Term.fold_every reducedOver)

/-! ## Conditions -/

theorem condition_mapColumns (renames : Environment.IsRenaming rename fields env env')
    {draft : Draft} (isOver : IsOver env fields draft) :
    SameOutcome (Option.Rel (IsRenamed rename)) (condition env draft)
      (condition env' (mapColumns rename draft)) := by
  unfold condition
  rw [isBool_mapColumns, isEmptyMembership_mapColumns]
  split
  · exact .ok .none
  · exact (expression_mapColumns renames isOver).map fun _ _ => .some

theorem simplify_isOver (env : Environment) (p : Predicate) :
    IsOver env p.fieldNames (simplify env p) :=
  simplify_every_of_columns (fun _ named _ => List.mem_map_of_mem named)
    (Term.every_of_fieldNames (fun _ => trivial) p (List.Subset.refl _))

theorem condition_columns {draft : Draft} (isOver : IsOver env fields draft) {sql : Sql.Expression}
    (compiled : condition env draft = .ok (some sql)) :
    ∀ column ∈ sql.columns, ∃ field ∈ fields, env.resolve field = column := by
  unfold condition at compiled
  split at compiled
  · cases compiled
  · obtain ⟨e, isExpression, same⟩ := Except.map_eq_ok.1 compiled
    cases same
    have generated := expression_generated_of_columns
      (fun field named _ => List.mem_map_of_mem named) isOver _ isExpression
    exact fun column mem => List.mem_map.1 (generated.columns column mem)

/-- **Renaming is substitution.**  Under two environments without declared fields, of which each
reads different fields of a predicate from different columns, the condition of the predicate is
absent under both, or refused under both for reasons of one kind, or the second condition is the
first with the columns of the fields replaced.  No other columns are read, and the same values are
bound in the same order. -/
theorem condition_renamed (env env' : Environment) (p : Predicate)
    (undeclared : env.fields.isEmpty = true) (undeclared' : env'.fields.isEmpty = true)
    (distinct : Set.InjOn env.resolve {field | field ∈ p.fieldNames})
    (distinct' : Set.InjOn env'.resolve {field | field ∈ p.fieldNames}) :
    let rename := env.replacement env' p.fieldNames
    (∀ field ∈ p.fieldNames, rename (env.resolve field) = env'.resolve field) ∧
      SameOutcome
        (Option.Rel fun sql sql' =>
          sql' = sql.mapColumns rename ∧
            (∀ column ∈ sql.columns, ∃ field ∈ p.fieldNames, env.resolve field = column) ∧
            Sql.values sql'.pieces = Sql.values sql.pieces)
        (condition env (simplify env p)) (condition env' (simplify env' p)) := by
  intro rename
  have replaced : ∀ field ∈ p.fieldNames, rename (env.resolve field) = env'.resolve field :=
    fun field named => env.replacement_resolve env' distinct named
  have renames : Environment.IsRenaming rename p.fieldNames env env' :=
    { known := fun field _ => env.knows_of_undeclared undeclared field
      known' := fun field _ => env'.knows_of_undeclared undeclared' field
      column := replaced
      distinct := fun a inA b inB same => distinct' inA inB same }
  refine ⟨replaced, ?_⟩
  have isOver := simplify_isOver env p
  have columns : ∀ sql, condition env (simplify env p) = .ok (some sql) → _ :=
    fun _ => condition_columns isOver
  have outcome := condition_mapColumns renames isOver
  rw [simplify_mapColumns renames (List.Subset.refl _)]
  generalize condition env (simplify env p) = x, condition env' _ = y at columns outcome ⊢
  cases outcome with
  | ok results =>
    cases results with
    | none => exact .ok .none
    | @some sql _ isRenamed =>
      obtain rfl := isRenamed
      refine .ok (.some ⟨rfl, columns sql rfl, ?_⟩)
      rw [Sql.Expression.values_pieces, Sql.Expression.values_pieces,
        Sql.Expression.leafValues_mapColumns]
  | error errors => exact .error errors

/-- `(Name.Trim() == null ? null : Name.Trim()) == City || City == "Bern"` -/
def trimmedNameIsCity : Predicate :=
  let trimmed := (Predicate.field "Name").method "Trim" []
  (((trimmed.equals .null).conditional .null trimmed).equals (.field "City")).orElse
    ((Predicate.field "City").equals (.literal (.string "Bern")))

/-- The guard in `trimmedNameIsCity` is recognized although both calls have been compiled, with
the names of the fields for columns and with others. -/
theorem condition_renamed_trimmedNameIsCity :
    let p := trimmedNameIsCity
    let env : Environment := ⟨.empty, .empty, false⟩
    let env' : Environment :=
      ⟨.ofList [("Name", .mapped "p.full_name"), ("City", .named "Name")], .empty, true⟩
    let compared (name city : Sql.Column) : Sql.Expression :=
      .or (.binary (.comparison .equal) (.function .trim [.column name]) (.column city))
        (.binary (.comparison .equal) (.column city) (.value (.string "Bern")))
    condition env (simplify env p) = .ok (some (compared (.named "Name") (.named "City"))) ∧
      condition env' (simplify env' p) =
        .ok (some (compared (.mapped "p.full_name") (.named "Name"))) ∧
      env.replacement env' p.fieldNames (.named "Name") = .mapped "p.full_name" ∧
      SameOutcome
        (Option.Rel fun sql sql' =>
          sql' = sql.mapColumns (env.replacement env' p.fieldNames) ∧
            (∀ column ∈ sql.columns, ∃ field ∈ p.fieldNames, env.resolve field = column) ∧
            Sql.values sql'.pieces = Sql.values sql.pieces)
        (condition env (simplify env p)) (condition env' (simplify env' p)) := by
  intro p env env' compared
  have distinct : ∀ a ∈ p.fieldNames, ∀ b ∈ p.fieldNames,
      env.resolve a = env.resolve b → a = b := by
    decide
  have distinct' : ∀ a ∈ p.fieldNames, ∀ b ∈ p.fieldNames,
      env'.resolve a = env'.resolve b → a = b := by
    decide
  obtain ⟨replaced, outcome⟩ := condition_renamed env env' p rfl rfl
    (fun a inA b inB => distinct a inA b inB) (fun a inA b inB => distinct' a inA b inB)
  refine ⟨?_, ?_, ?_, outcome⟩
  · rfl
  · rfl
  · exact replaced "Name" (by decide)

end Draft

end PlanCompiler
