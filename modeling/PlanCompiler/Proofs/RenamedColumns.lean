/-
# Proofs.RenamedColumns -- columns replaced throughout

`Sql.Expression.mapColumns` replaces every column of an expression by another one, and
`Draft.mapColumns` does so in the compiled parts of a draft.  The values of an expression stay
where they are, and it still reads a column if it did.  Whether two expressions are written alike
stays the same too, provided that no two of their columns are replaced by the same one
(`same_mapColumns`): `IF(a IS NULL, NULL, b)` must not become a guard of `a`.

Folding never looks into the compiled parts of a draft, so it gives the same before and after
replacing them (`Term.fold_mapLeaves`).
-/
import PlanCompiler.Proofs.CoveredExpressions
import PlanCompiler.Proofs.GeneratedExpression

namespace PlanCompiler

set_option autoImplicit false

namespace Sql.Expression

/-! ## Expressions -/

mutual

/-- Replace every column. -/
def mapColumns (rename : Column → Column) : Expression → Expression
  | .column source => .column (rename source)
  | .value literal => .value literal
  | .raw words => .raw words
  | .and left right => .and (mapColumns rename left) (mapColumns rename right)
  | .or left right => .or (mapColumns rename left) (mapColumns rename right)
  | .not operand => .not (mapColumns rename operand)
  | .unary op operand => .unary op (mapColumns rename operand)
  | .binary op left right => .binary op (mapColumns rename left) (mapColumns rename right)
  | .inList item items => .inList (mapColumns rename item) (mapAllColumns rename items)
  | .function f args => .function f (mapAllColumns rename args)

def mapAllColumns (rename : Column → Column) : List Expression → List Expression
  | [] => []
  | e :: rest => mapColumns rename e :: mapAllColumns rename rest

end

variable (rename : Column → Column)

mutual

theorem leafValues_mapColumns : ∀ e : Expression, (mapColumns rename e).leafValues = e.leafValues
  | .column _ | .value _ | .raw _ => rfl
  | .and a b | .or a b | .binary _ a b => by
    simp only [mapColumns, leafValues, leafValues_mapColumns a, leafValues_mapColumns b]
  | .not a | .unary _ a => by simp only [mapColumns, leafValues, leafValues_mapColumns a]
  | .inList a as => by
    simp only [mapColumns, leafValues, leafValues_mapColumns a, allLeafValues_mapColumns as]
  | .function _ as => by simp only [mapColumns, leafValues, allLeafValues_mapColumns as]

theorem allLeafValues_mapColumns :
    ∀ es : List Expression, allLeafValues (mapAllColumns rename es) = allLeafValues es
  | [] => rfl
  | e :: rest => by
    simp only [mapAllColumns, allLeafValues, leafValues_mapColumns e, allLeafValues_mapColumns rest]

end

mutual

theorem reads_mapColumns : ∀ e : Expression, (mapColumns rename e).reads = e.reads
  | .column _ | .value _ | .raw _ => rfl
  | .and a b | .or a b | .binary _ a b => by
    simp only [mapColumns, reads, reads_mapColumns a, reads_mapColumns b]
  | .not a | .unary _ a => by simp only [mapColumns, reads, reads_mapColumns a]
  | .inList a as => by simp only [mapColumns, reads, reads_mapColumns a, anyReads_mapColumns as]
  | .function _ as => by simp only [mapColumns, reads, anyReads_mapColumns as]

theorem anyReads_mapColumns :
    ∀ es : List Expression, anyReads (mapAllColumns rename es) = anyReads es
  | [] => rfl
  | e :: rest => by
    simp only [mapAllColumns, anyReads, reads_mapColumns e, anyReads_mapColumns rest]

end

/-- The second expression is the first one with its columns replaced. -/
def IsRenamed (before after : Expression) : Prop :=
  after = mapColumns rename before

theorem all_isRenamed {before after : List Expression}
    (each : List.Forall₂ (IsRenamed rename) before after) :
    after = mapAllColumns rename before := by
  induction each with
  | nil => rfl
  | cons first _ rest => rw [mapAllColumns, first, rest]

theorem isRenamed_isCongruence : IsCongruence (IsRenamed rename) where
  value _ := rfl
  wildcard := rfl
  and left right := by rw [IsRenamed, mapColumns, left, right]
  or left right := by rw [IsRenamed, mapColumns, left, right]
  not inside := by rw [IsRenamed, mapColumns, inside]
  unary _ inside := by rw [IsRenamed, mapColumns, inside]
  binary _ left right := by rw [IsRenamed, mapColumns, left, right]
  inList item inItems := by rw [IsRenamed, mapColumns, item, all_isRenamed rename inItems]
  function _ inArgs := by rw [IsRenamed, mapColumns, all_isRenamed rename inArgs]

/-! ### Written alike -/

variable {rename} {known : Column → Prop}

mutual

/-- Generated expressions read their columns from where they are told to. -/
theorem Generated.columns : ∀ {e : Expression}, e.Generated known → ∀ c ∈ e.columns, known c
  | .column _, generated => by
    cases generated with
    | column isKnown => exact List.forall_mem_singleton.2 isKnown
  | .value _, _ | .raw _, _ => nofun
  | .and _ _, generated => by
    cases generated with
    | and inLeft inRight => exact List.forall_mem_append.2 ⟨inLeft.columns, inRight.columns⟩
  | .or _ _, generated => by
    cases generated with
    | or inLeft inRight => exact List.forall_mem_append.2 ⟨inLeft.columns, inRight.columns⟩
  | .not _, generated => by
    cases generated with
    | not inside => exact inside.columns
  | .unary _ _, generated => by
    cases generated with
    | unary _ inside => exact inside.columns
  | .binary _ _ _, generated => by
    cases generated with
    | binary _ inLeft inRight => exact List.forall_mem_append.2 ⟨inLeft.columns, inRight.columns⟩
  | .inList _ items, generated => by
    cases generated with
    | inList inItem _ inItems =>
      exact List.forall_mem_append.2 ⟨inItem.columns, allColumns_generated inItems⟩
  | .function _ args, generated => by
    cases generated with
    | function _ inArgs => exact allColumns_generated inArgs

theorem allColumns_generated :
    ∀ {es : List Expression}, (∀ e ∈ es, e.Generated known) → ∀ c ∈ allColumns es, known c
  | [], _ => nofun
  | _ :: _, generated =>
    have ⟨first, others⟩ := List.forall_mem_cons.1 generated
    List.forall_mem_append.2 ⟨first.columns, allColumns_generated others⟩

end

theorem allSame_mapColumns {as : List Expression} : ∀ {bs : List Expression},
    (∀ a ∈ as, ∀ b ∈ bs, same (mapColumns rename a) (mapColumns rename b) = same a b) →
      allSame (mapAllColumns rename as) (mapAllColumns rename bs) = allSame as bs := by
  induction as with
  | nil =>
    intro bs _
    cases bs <;> rfl
  | cons a as ih =>
    intro bs each
    cases bs with
    | nil => rfl
    | cons b bs =>
      have first := each a List.mem_cons_self b List.mem_cons_self
      have others := ih fun a inA b inB =>
        each a (List.mem_cons_of_mem _ inA) b (List.mem_cons_of_mem _ inB)
      rw [mapAllColumns, mapAllColumns, allSame, allSame, first, others]

/-- Replacing different columns by different ones keeps what is written alike, and what is not. -/
theorem same_mapColumns (distinct : ∀ c d, known c → known d → rename c = rename d → c = d)
    {a b : Expression} (inA : a.Generated known) (inB : b.Generated known) :
    same (mapColumns rename a) (mapColumns rename b) = same a b := by
  induction inA generalizing b with
  | column isKnown =>
    cases inB with
    | column isKnown' =>
      simp only [mapColumns, same, decide_eq_decide]
      exact ⟨distinct _ _ isKnown isKnown', congrArg rename⟩
    | _ => rfl
  | value single => cases inB <;> rfl
  | wildcard => cases inB <;> rfl
  | and _ _ left right =>
    cases inB with
    | and inLeft inRight => simp only [mapColumns, same, left inLeft, right inRight]
    | _ => rfl
  | or _ _ left right =>
    cases inB with
    | or inLeft inRight => simp only [mapColumns, same, left inLeft, right inRight]
    | _ => rfl
  | not _ operand =>
    cases inB with
    | not inside => simp only [mapColumns, same, operand inside]
    | _ => rfl
  | unary _ _ operand =>
    cases inB with
    | unary _ inside => simp only [mapColumns, same, operand inside]
    | _ => rfl
  | binary _ _ _ left right =>
    cases inB with
    | binary _ inLeft inRight => simp only [mapColumns, same, left inLeft, right inRight]
    | _ => rfl
  | inList _ _ _ item items =>
    cases inB with
    | inList inItem _ inItems =>
      have areSame := allSame_mapColumns fun a memA b memB => items a memA (inItems b memB)
      simp only [mapColumns, same, item inItem, areSame]
    | _ => rfl
  | function _ _ args =>
    cases inB with
    | function _ inArgs =>
      have areSame := allSame_mapColumns fun a memA b memB => args a memA (inArgs b memB)
      simp only [mapColumns, same, areSame]
    | _ => rfl

end Sql.Expression

/-! ## Terms -/

namespace Term

variable {Leaf : Type}

theorem mapLeaves_mapLeaves {First Second : Type} (f : Leaf → First) (g : First → Second)
    (t : Term Leaf) : (t.mapLeaves f).mapLeaves g = t.mapLeaves (g ∘ f) := by
  induction t using Term.induct with
  | leaf value => rfl
  | field name => rfl
  | literal value => rfl
  | unary op operand inside => simp only [mapLeaves, inside]
  | binary op left right inLeft inRight => simp only [mapLeaves, inLeft, inRight]
  | conditional test whenTrue whenFalse inTest inTrue inFalse =>
    simp only [mapLeaves, inTest, inTrue, inFalse]
  | call name target args isStatic inTarget inArgs =>
    simp only [mapLeaves, mapTarget_eq_map, mapArgs_eq_map, Option.map_map, List.map_map]
    congr 1
    · exact Option.map_congr fun t isTarget => inTarget t isTarget
    · exact List.map_congr_left inArgs

theorem reads_mapLeaves {Other : Type} (f : Leaf → Other) (leafReads : Other → Bool)
    (t : Term Leaf) : reads leafReads (t.mapLeaves f) = reads (leafReads ∘ f) t := by
  induction t using Term.induct with
  | leaf value => rfl
  | field name => rfl
  | literal value => rfl
  | unary op operand inside => simp only [mapLeaves, reads, inside]
  | binary op left right inLeft inRight => simp only [mapLeaves, reads, inLeft, inRight]
  | conditional test whenTrue whenFalse inTest inTrue inFalse =>
    simp only [mapLeaves, reads, inTest, inTrue, inFalse]
  | call name target args isStatic inTarget inArgs =>
    simp only [mapLeaves, reads, mapTarget_eq_map, mapArgs_eq_map, targetReads_eq_any,
      anyReads_eq_any, Option.any_map, List.any_map]
    have sameArgs : args.any (reads leafReads ∘ mapLeaves f) =
        args.any (reads (leafReads ∘ f)) := by
      rw [Bool.eq_iff_iff, List.any_eq_true, List.any_eq_true]
      exact exists_congr fun a => and_congr_right fun mem => by
        rw [Function.comp_apply, inArgs a mem]
    cases target with
    | none => exact congrArg _ sameArgs
    | some t => exact congrArg₂ _ (inTarget t rfl) sameArgs

/-! ### Folding -/

variable (f : Leaf → Leaf)

theorem literal?_mapLeaves (t : Term Leaf) : (t.mapLeaves f).literal? = t.literal? := by
  cases t <;> rfl

theorem targetLiteral?_mapLeaves (target : Option (Term Leaf)) :
    targetLiteral? (target.map (mapLeaves f)) = targetLiteral? target := by
  cases target with
  | none => rfl
  | some t => rw [Option.map_some, targetLiteral?, targetLiteral?, literal?_mapLeaves]

theorem foldStep_mapLeaves (t : Term Leaf) :
    foldStep (t.mapLeaves f) = (foldStep t).mapLeaves f := by
  cases t with
  | leaf value => rfl
  | field name => rfl
  | literal value => rfl
  | unary op operand =>
    have decided : unaryValue? op (operand.mapLeaves f) = unaryValue? op operand := by
      rw [unaryValue?, literal?_mapLeaves, unaryValue?]
    rw [mapLeaves, foldStep_unary, foldStep_unary, decided]
    cases unaryValue? op operand <;> rfl
  | binary op left right =>
    have inLeft := literal?_mapLeaves f left
    have inRight := literal?_mapLeaves f right
    have decided : binaryValue? op (left.mapLeaves f) (right.mapLeaves f) =
        binaryValue? op left right := by
      rw [binaryValue?, shortCircuit?_congr op inLeft inRight, inLeft, inRight, binaryValue?]
    rw [mapLeaves, foldStep_binary, foldStep_binary, decided]
    cases binaryValue? op left right <;> rfl
  | conditional test whenTrue whenFalse =>
    have inTest := isBool_congr (literal?_mapLeaves f test)
    rw [mapLeaves, foldStep_conditional, foldStep_conditional, branch?, branch?, inTest, inTest]
    split
    · rfl
    · split <;> rfl
  | call name target args isStatic =>
    have decided : callValue? name (target.map (mapLeaves f)) (args.map (mapLeaves f)) =
        callValue? name target args := by
      rw [callValue?, callValue?, targetLiteral?_mapLeaves,
        mapM_literal?_congr fun a _ => literal?_mapLeaves f a]
    rw [mapLeaves, mapTarget_eq_map, mapArgs_eq_map, foldStep_call, foldStep_call, decided]
    cases callValue? name target args with
    | some value => rfl
    | none => simp only [mapLeaves, mapTarget_eq_map, mapArgs_eq_map]

/-- Steps that commute with replacing the leaves of a node do so on whole terms. -/
theorem transform_mapLeaves {onLeaf : Leaf → Prop} {onField : String → Prop}
    {step step' : Term Leaf → Term Leaf}
    (keeps : ∀ t, Every onLeaf onField t → Every onLeaf onField (step t))
    (commutes : ∀ t, Every onLeaf onField t → step' (t.mapLeaves f) = (step t).mapLeaves f)
    {t : Term Leaf} (every : Every onLeaf onField t) :
    (t.mapLeaves f).transform step' = (t.transform step).mapLeaves f := by
  have kept : ∀ {t}, Every onLeaf onField t → Every onLeaf onField (t.transform step) :=
    transform_every keeps
  induction every with
  | leaf known => exact commutes _ (.leaf known)
  | field known => exact commutes _ (.field known)
  | literal value => exact commutes _ (.literal value)
  | unary op every inside =>
    rw [mapLeaves, transform, transform, inside, ← commutes _ (.unary op (kept every)), mapLeaves]
  | binary op everyLeft everyRight inLeft inRight =>
    rw [mapLeaves, transform, transform, inLeft, inRight,
      ← commutes _ (.binary op (kept everyLeft) (kept everyRight)), mapLeaves]
  | conditional everyTest everyTrue everyFalse inTest inTrue inFalse =>
    rw [mapLeaves, transform, transform, inTest, inTrue, inFalse,
      ← commutes _ (.conditional (kept everyTest) (kept everyTrue) (kept everyFalse)), mapLeaves]
  | @call name target args isStatic everyTarget everyArgs inTarget inArgs =>
    have keptCall : Every onLeaf onField
        (.call name (target.map (transform step)) (args.map (transform step)) isStatic) := by
      refine .call name isStatic (fun t isTarget => ?_) (List.forall_mem_map.2 fun a mem =>
        kept (everyArgs a mem))
      obtain ⟨t', given, rfl⟩ := Option.map_eq_some_iff.1 isTarget
      exact kept (everyTarget t' given)
    have sameTarget : (target.map (mapLeaves f)).map (transform step') =
        (target.map (transform step)).map (mapLeaves f) := by
      rw [Option.map_map, Option.map_map]
      exact Option.map_congr inTarget
    have sameArgs : (args.map (mapLeaves f)).map (transform step') =
        (args.map (transform step)).map (mapLeaves f) := by
      rw [List.map_map, List.map_map]
      exact List.map_congr_left inArgs
    rw [mapLeaves, transform, transform, mapTarget_eq_map, mapArgs_eq_map, transformTarget_eq_map,
      transformArgs_eq_map, transformTarget_eq_map, transformArgs_eq_map, sameTarget, sameArgs,
      ← commutes _ keptCall, mapLeaves, mapTarget_eq_map, mapArgs_eq_map]

theorem fold_mapLeaves (t : Term Leaf) : (t.mapLeaves f).fold = t.fold.mapLeaves f := by
  have every : Every (fun _ => True) (fun _ => True) t :=
    every_of_forall (fun _ => trivial) (fun _ => trivial) t
  exact transform_mapLeaves f foldStep_every (fun t _ => foldStep_mapLeaves f t) every

/-! ### Fields -/

mutual

/-- The fields that a term names, from left to right. -/
def fieldNames : Term Leaf → List String
  | .field name => [name]
  | .leaf _ | .literal _ => []
  | .unary _ operand => fieldNames operand
  | .binary _ left right => fieldNames left ++ fieldNames right
  | .conditional test whenTrue whenFalse =>
    fieldNames test ++ fieldNames whenTrue ++ fieldNames whenFalse
  | .call _ target args _ => targetFieldNames target ++ allFieldNames args

def targetFieldNames : Option (Term Leaf) → List String
  | none => []
  | some target => fieldNames target

def allFieldNames : List (Term Leaf) → List String
  | [] => []
  | arg :: rest => fieldNames arg ++ allFieldNames rest

end

theorem fieldNames_subset_all {args : List (Term Leaf)} :
    ∀ a ∈ args, a.fieldNames ⊆ allFieldNames args := by
  induction args with
  | nil => exact nofun
  | cons first rest ih =>
    exact List.forall_mem_cons.2 ⟨List.subset_append_left _ _, fun a mem =>
      List.subset_append_of_subset_right _ (ih a mem)⟩

/-- Every field of a term is among any that include the ones it names. -/
theorem every_of_fieldNames {onLeaf : Leaf → Prop} (leaves : ∀ value, onLeaf value)
    {fields : List String} (t : Term Leaf) (named : t.fieldNames ⊆ fields) :
    Every onLeaf (· ∈ fields) t := by
  induction t using Term.induct with
  | leaf value => exact .leaf (leaves value)
  | field name => exact .field (named List.mem_cons_self)
  | literal value => exact .literal value
  | unary op operand inside => exact .unary op (inside named)
  | binary op left right inLeft inRight =>
    obtain ⟨leftNamed, rightNamed⟩ := List.append_subset.1 named
    exact .binary op (inLeft leftNamed) (inRight rightNamed)
  | conditional test whenTrue whenFalse inTest inTrue inFalse =>
    obtain ⟨othersNamed, falseNamed⟩ := List.append_subset.1 named
    obtain ⟨testNamed, trueNamed⟩ := List.append_subset.1 othersNamed
    exact .conditional (inTest testNamed) (inTrue trueNamed) (inFalse falseNamed)
  | call name target args isStatic inTarget inArgs =>
    obtain ⟨targetNamed, argsNamed⟩ := List.append_subset.1 named
    refine .call name isStatic (fun t isTarget => ?_) fun a mem =>
      inArgs a mem (List.Subset.trans (fieldNames_subset_all a mem) argsNamed)
    obtain rfl := isTarget
    exact inTarget t rfl targetNamed

end Term

end PlanCompiler
