/-
# Proofs.NullGuards -- the conditionals that normalizing takes for null guards

`x == null ? null : y` is normalized to `x` where `x` and `y` are written alike.  That
is coarser than equality: zoned times are written alike if they are the same instant,
and so are `0.0` and `-0.0`.  `GuardsExactly` says that `x` and `y` are equal wherever
normalizing does this.  It holds of every draft of which nothing has been compiled and
that has neither floats nor zoned times in it (`IsExact.guardsExactly`).
-/
import PlanCompiler.Proofs.FilterMeaning
import PlanCompiler.Proofs.TermValue

namespace PlanCompiler

set_option autoImplicit false

/-! ## Literals that are equal when they are written alike -/

namespace Literal

mutual

/-- Whether there are neither floats nor zoned times in a literal. -/
def isExact : Literal → Bool
  | .float _ | .dateTimeOffset _ => false
  | .array items => areExact items
  | _ => true

def areExact : List Literal → Bool
  | [] => true
  | item :: rest => isExact item && areExact rest

end

mutual

theorem eq_of_same : ∀ {a b : Literal}, a.isExact = true → same a b = true → a = b
  | .array as, b, exact, alike => by
    cases b with
    | array bs =>
      simp only [same] at alike
      rw [eq_of_sameItems (by simpa [isExact] using exact) alike]
    | _ => simp [same] at alike
  | .float _, _, exact, _ | .dateTimeOffset _, _, exact, _ => by cases exact
  | .null, b, _, alike | .bool _, b, _, alike | .int _, b, _, alike | .uint _, b, _, alike
  | .string _, b, _, alike | .uuid _, b, _, alike | .dateTime _, b, _, alike
  | .date _, b, _, alike | .time _, b, _, alike => by
    cases b <;> simp_all [same]

theorem eq_of_sameItems : ∀ {as bs : List Literal}, areExact as = true → sameItems as bs = true →
    as = bs
  | [], [], _, _ => rfl
  | a :: as, b :: bs, exact, alike => by
    simp only [areExact, sameItems, Bool.and_eq_true] at exact alike
    rw [eq_of_same exact.1 alike.1, eq_of_sameItems exact.2 alike.2]
  | [], _ :: _, _, alike => by simp [sameItems] at alike
  | _ :: _, [], _, alike => by simp [sameItems] at alike

end

end Literal

namespace Draft

/-! ## Guards -/

/-- Whether a conditional that normalizing takes for a null guard gives the very value that it
checks. -/
def GuardsItself : Draft → Prop
  | .conditional test whenTrue whenFalse =>
    ∀ value, guarded? test whenTrue whenFalse = some value → value = whenTrue ∨ value = whenFalse
  | _ => True

/-- Whether all conditionals that normalizing takes for null guards give what they check. -/
def GuardsExactly (draft : Draft) : Prop :=
  Term.Visits normalizeStep GuardsItself draft

/-! ## Drafts that are equal when they are written alike -/

/-- Nothing has been compiled, and there are neither floats nor zoned times. -/
inductive IsExact : Draft → Prop
  | field (name : String) : IsExact (.field name)
  | literal {value : Literal} (exact : value.isExact = true) : IsExact (.literal value)
  | unary (op : UnaryOp) {operand : Draft} (inside : IsExact operand) :
      IsExact (.unary op operand)
  | binary (op : BinaryOp) {left right : Draft} (inLeft : IsExact left) (inRight : IsExact right) :
      IsExact (.binary op left right)
  | conditional {test whenTrue whenFalse : Draft} (inTest : IsExact test)
      (inTrue : IsExact whenTrue) (inFalse : IsExact whenFalse) :
      IsExact (.conditional test whenTrue whenFalse)
  | call (name : String) {target : Option Draft} {args : List Draft} (isStatic : Bool)
      (inTarget : ∀ t, target = some t → IsExact t) (inArgs : ∀ a ∈ args, IsExact a) :
      IsExact (.call name target args isStatic)

theorem eq_of_sameTarget {target other : Option Draft}
    (inTarget : ∀ t, target = some t → ∀ b, same t b = true → t = b)
    (alike : sameTarget target other = true) : target = other := by
  cases target with
  | none => exact (sameTarget_none alike).symm
  | some t =>
    obtain ⟨b, rfl, alike⟩ := sameTarget_some alike
    rw [inTarget t rfl b alike]

theorem eq_of_sameArgs {args : List Draft}
    (inArgs : ∀ a ∈ args, ∀ b, same a b = true → a = b) :
    ∀ {others : List Draft}, sameArgs args others = true → args = others := by
  induction args with
  | nil => exact fun alike => (sameArgs_nil alike).symm
  | cons a rest ih =>
    intro others alike
    obtain ⟨b, others, rfl, inArg, inRest⟩ := sameArgs_cons alike
    obtain ⟨here, later⟩ := List.forall_mem_cons.1 inArgs
    rw [here b inArg, ih later inRest]

theorem IsExact.eq_of_same {a : Draft} (exact : IsExact a) : ∀ b, same a b = true → a = b := by
  induction exact with
  | field name =>
    intro b alike
    cases b <;> simp_all [same]
  | literal exact =>
    intro b alike
    cases b with
    | literal value => rw [Literal.eq_of_same exact (by simpa [same] using alike)]
    | _ => simp [same] at alike
  | unary op _ ih =>
    intro b alike
    cases b with
    | unary op' operand =>
      simp only [same, Bool.and_eq_true, decide_eq_true_eq] at alike
      rw [alike.1, ih operand alike.2]
    | _ => simp [same] at alike
  | binary op _ _ left right =>
    intro b alike
    obtain ⟨left', right', rfl, inLeft, inRight⟩ := same_binary alike
    rw [left left' inLeft, right right' inRight]
  | conditional _ _ _ test whenTrue whenFalse =>
    intro b alike
    cases b with
    | conditional test' whenTrue' whenFalse' =>
      simp only [same, Bool.and_eq_true] at alike
      rw [test test' alike.1.1, whenTrue whenTrue' alike.1.2, whenFalse whenFalse' alike.2]
    | _ => simp [same] at alike
  | call name isStatic _ _ inTarget inArgs =>
    intro b alike
    obtain ⟨target', args', rfl, alikeTarget, alikeArgs⟩ := same_call alike
    rw [eq_of_sameTarget inTarget alikeTarget, eq_of_sameArgs inArgs alikeArgs]

/-! ## Exact drafts guard exactly -/

theorem compared?_isExact {draft a b : Draft} (exact : IsExact draft)
    (found : compared? draft = some (a, b)) : IsExact a ∧ IsExact b := by
  unfold compared? at found
  split at found
  · cases exact with
    | call _ _ inTarget inArgs =>
      split at found <;> cases found
      · exact ⟨inArgs _ (by simp), inArgs _ (by simp)⟩
      · exact ⟨inTarget _ rfl, inArgs _ (by simp)⟩
  · cases found

theorem guarded?_isBranch {test whenTrue whenFalse value : Draft} (inTrue : IsExact whenTrue)
    (inFalse : IsExact whenFalse) (found : guarded? test whenTrue whenFalse = some value) :
    value = whenTrue ∨ value = whenFalse := by
  obtain ⟨_, _, _, _, _, ⟨_, _, alike⟩ | ⟨_, _, alike⟩⟩ := guarded?_eq_some found
  · exact .inr (inFalse.eq_of_same _ alike).symm
  · exact .inl (inTrue.eq_of_same _ alike).symm

theorem IsExact.guardsItself {draft : Draft} (exact : IsExact draft) : GuardsItself draft := by
  cases exact with
  | conditional _ inTrue inFalse => exact fun _ found => guarded?_isBranch inTrue inFalse found
  | _ => trivial

theorem IsExact.normalizeStep {draft : Draft} (exact : IsExact draft) :
    IsExact (normalizeStep draft) := by
  cases exact with
  | binary op inLeft inRight =>
    have node := IsExact.binary op inLeft inRight
    cases op with
    | calculation op => exact node
    | andAlso | orElse =>
      simp only [Draft.normalizeStep]
      split
      · exact inRight
      · split
        · exact inLeft
        · exact node
    | comparison op =>
      simp only [Draft.normalizeStep]
      split
      · rename_i a b found
        obtain ⟨-, found⟩ := Option.ite_none_right_eq_some.1 found
        obtain ⟨inA, inB⟩ := compared?_isExact inLeft found
        exact .binary _ inA inB
      · exact node
  | conditional inTest inTrue inFalse =>
    simp only [Draft.normalizeStep]
    cases found : guarded? _ _ _ with
    | none => exact .conditional inTest inTrue inFalse
    | some value =>
      rcases guarded?_isBranch inTrue inFalse found with rfl | rfl
      · exact inTrue
      · exact inFalse
  | field name => exact .field name
  | literal exact => exact .literal exact
  | unary op inside => exact .unary op inside
  | call name isStatic inTarget inArgs => exact .call name isStatic inTarget inArgs

theorem IsExact.normalize_and_guardsExactly {draft : Draft} (exact : IsExact draft) :
    IsExact (normalize draft) ∧ GuardsExactly draft := by
  induction exact with
  | field name => exact ⟨.field name, .field trivial⟩
  | literal exact => exact ⟨.literal exact, .literal trivial⟩
  | unary op _ inside =>
    have node := IsExact.unary op inside.1
    exact ⟨node.normalizeStep, .unary inside.2 node.guardsItself⟩
  | binary op _ _ left right =>
    have node := IsExact.binary op left.1 right.1
    exact ⟨node.normalizeStep, .binary left.2 right.2 node.guardsItself⟩
  | conditional _ _ _ test whenTrue whenFalse =>
    have node := IsExact.conditional test.1 whenTrue.1 whenFalse.1
    exact ⟨node.normalizeStep, .conditional test.2 whenTrue.2 whenFalse.2 node.guardsItself⟩
  | @call name target args isStatic _ _ inTarget inArgs =>
    have node : IsExact (.call name (target.map normalize) (args.map normalize) isStatic) := by
      refine .call name isStatic ?_ ?_
      · intro t isTarget
        obtain ⟨t', given, rfl⟩ := Option.map_eq_some_iff.1 isTarget
        exact (inTarget t' given).1
      · intro a mem
        obtain ⟨a', given, rfl⟩ := List.mem_map.1 mem
        exact (inArgs a' given).1
    refine ⟨?_, .call (fun t given => (inTarget t given).2) (fun a given => (inArgs a given).2)
      node.guardsItself⟩
    rw [normalize, Term.transform, Term.transformTarget_eq_map, Term.transformArgs_eq_map]
    exact node.normalizeStep

/-- Without floats and zoned times, what is written alike is equal. -/
theorem IsExact.guardsExactly {draft : Draft} (exact : IsExact draft) : GuardsExactly draft :=
  exact.normalize_and_guardsExactly.2

end Draft

end PlanCompiler
