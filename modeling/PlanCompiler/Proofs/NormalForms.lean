/-
# Proofs.NormalForms -- reducing and folding are done in one run

What folding replaces can be told from a node alone: an operation or a call on literals that
has a value, a conjunction or disjunction that one literal decides, a conditional on a known
test (`Term.Evaluable`).  The terms without such a node are those that folding leaves as they
are (`Term.fold_eq_iff`), and it gives no others.

Reducing replaces the value of a field, and the calls that compile early (`Reducible`).  What
it puts in their place is a leaf or a field, so no call above or beside them gets operands
that it did not have in the first run (`reduced_reduce`).
-/
import PlanCompiler.Proofs.ReducedDrafts

namespace PlanCompiler

set_option autoImplicit false

namespace Term

variable {Leaf : Type}

/-! ## Folding -/

/-- A node that has a value, or whose value is that of a branch. -/
inductive Evaluable : Term Leaf → Prop
  | unary {op : UnaryOp} {a value : Literal} (evaluates : Literal.unary? op a = some value) :
      Evaluable (.unary op (.literal a))
  | binary {op : BinaryOp} {a b value : Literal}
      (evaluates : Literal.binary? op a b = some value) :
      Evaluable (.binary op (.literal a) (.literal b))
  /-- `false && x` or `x && false` -/
  | refuted {left right : Term Leaf}
      (decides : left = .literal (.bool false) ∨ right = .literal (.bool false)) :
      Evaluable (.binary .andAlso left right)
  /-- `true || x` or `x || true` -/
  | granted {left right : Term Leaf}
      (decides : left = .literal (.bool true) ∨ right = .literal (.bool true)) :
      Evaluable (.binary .orElse left right)
  | conditional (test : Bool) (whenTrue whenFalse : Term Leaf) :
      Evaluable (.conditional (.literal (.bool test)) whenTrue whenFalse)
  | call {name : String} {method : Method} {target : Option Literal} {args : List Literal}
      {value : Literal} (isStatic : Bool) (named : Method.ofName? name = some method)
      (evaluates : Literal.call? method target args = some value) :
      Evaluable (.call name (target.map .literal) (args.map .literal) isStatic)

theorem evaluable_unary_iff {op : UnaryOp} {operand : Term Leaf} :
    Evaluable (.unary op operand) ↔ (unaryValue? op operand).isSome = true := by
  rw [Option.isSome_iff_exists]
  constructor
  · rintro (evaluates | _)
    exact ⟨_, evaluates⟩
  · rintro ⟨value, decided⟩
    obtain ⟨a, written, evaluates⟩ := Option.bind_eq_some_iff.1 decided
    obtain rfl := eq_literal_iff.1 written
    exact .unary evaluates

theorem shortCircuit?_isSome {op : BinaryOp} {left right : Term Leaf} :
    (shortCircuit? op left right).isSome = true ↔
      (op = .andAlso ∧ (left = .literal (.bool false) ∨ right = .literal (.bool false))) ∨
      (op = .orElse ∧ (left = .literal (.bool true) ∨ right = .literal (.bool true))) := by
  unfold shortCircuit?
  cases op <;> simp [isBool_iff]

theorem binaryValue?_isSome {op : BinaryOp} {left right : Term Leaf} :
    (binaryValue? op left right).isSome = true ↔
      (shortCircuit? op left right).isSome = true ∨
        ∃ a b value, left = .literal a ∧ right = .literal b ∧
          Literal.binary? op a b = some value := by
  unfold binaryValue?
  rw [Option.orElse_eq_orElse, Option.orElse_eq_or, Option.isSome_or, Bool.or_eq_true]
  refine or_congr_right ?_
  simp only [Option.isSome_iff_exists, bind, Option.bind_eq_some_iff, eq_literal_iff]
  exact ⟨fun ⟨value, a, isLeft, b, isRight, evaluates⟩ => ⟨a, b, value, isLeft, isRight, evaluates⟩,
    fun ⟨a, b, value, isLeft, isRight, evaluates⟩ => ⟨value, a, isLeft, b, isRight, evaluates⟩⟩

theorem evaluable_binary_iff {op : BinaryOp} {left right : Term Leaf} :
    Evaluable (.binary op left right) ↔ (binaryValue? op left right).isSome = true := by
  rw [binaryValue?_isSome, shortCircuit?_isSome]
  constructor
  · rintro (_ | evaluates | decides | decides)
    · exact .inr ⟨_, _, _, rfl, rfl, evaluates⟩
    · exact .inl (.inl ⟨rfl, decides⟩)
    · exact .inl (.inr ⟨rfl, decides⟩)
  · rintro ((⟨rfl, decides⟩ | ⟨rfl, decides⟩) | ⟨a, b, value, rfl, rfl, evaluates⟩)
    · exact .refuted decides
    · exact .granted decides
    · exact .binary evaluates

theorem evaluable_conditional_iff {test whenTrue whenFalse : Term Leaf} :
    Evaluable (.conditional test whenTrue whenFalse) ↔
      (branch? test whenTrue whenFalse).isSome = true := by
  constructor
  · rintro (_ | _ | _ | _ | ⟨test, _, _⟩)
    cases test <;> rfl
  · intro decided
    unfold branch? at decided
    split at decided
    · rename_i isTrue
      obtain rfl := isBool_iff.1 isTrue
      exact .conditional true _ _
    · split at decided
      · rename_i isFalse
        obtain rfl := isBool_iff.1 isFalse
        exact .conditional false _ _
      · cases decided

theorem evaluable_call_iff {name : String} {target : Option (Term Leaf)} {args : List (Term Leaf)}
    {isStatic : Bool} :
    Evaluable (.call name target args isStatic) ↔
      (callValue? name target args).isSome = true := by
  rw [Option.isSome_iff_exists]
  constructor
  · rintro (_ | _ | _ | _ | _ | ⟨_, named, evaluates⟩)
    unfold callValue?
    rw [named, targetLiteral?_eq_some_iff.2 rfl, mapM_literal?_eq_some_iff.2 rfl]
    exact ⟨_, evaluates⟩
  · rintro ⟨value, decided⟩
    obtain ⟨method, literal, literals, named, targetWritten, argsWritten, evaluates⟩ :=
      callValue?_eq_some decided
    rw [targetLiteral?_eq_some_iff.1 targetWritten, mapM_literal?_eq_some_iff.1 argsWritten]
    exact .call isStatic named evaluates

/-- Folding has something to do where there is a value. -/
theorem undecided_iff {t : Term Leaf} : Undecided t ↔ ¬ Evaluable t := by
  cases t with
  | leaf value => exact iff_of_true trivial nofun
  | field name => exact iff_of_true trivial nofun
  | literal value => exact iff_of_true trivial nofun
  | unary op operand =>
    rw [evaluable_unary_iff, Option.not_isSome_iff_eq_none]
    rfl
  | binary op left right =>
    rw [evaluable_binary_iff, Option.not_isSome_iff_eq_none]
    rfl
  | conditional test whenTrue whenFalse =>
    rw [evaluable_conditional_iff, Option.not_isSome_iff_eq_none]
    rfl
  | call name target args isStatic =>
    rw [evaluable_call_iff, Option.not_isSome_iff_eq_none]
    rfl

/-- The terms that folding leaves as they are have no value anywhere in them. -/
theorem fold_eq_iff {t : Term Leaf} :
    t.fold = t ↔ Throughout (fun part => ¬ Evaluable part) t := by
  have same : (fun part : Term Leaf => ¬ Evaluable part) = Undecided :=
    funext fun _ => propext undecided_iff.symm
  rw [same]
  exact folded_iff.symm

theorem fold_fold (t : Term Leaf) : t.fold.fold = t.fold :=
  (folded_fold t).fold_eq

end Term

namespace Draft

open Term (Throughout)

variable {env : Environment} {name : String} {target : Option Draft} {args : List Draft}
  {isStatic : Bool}

/-! ## Reducing -/

/-- A call that is replaced before folding. -/
inductive Reducible (env : Environment) : Draft → Prop
  /-- `x.Value` on a field -/
  | unwraps {name field : String} (isStatic : Bool) (value : Method.ofName? name = some .value) :
      Reducible env (.call name (some (.field field)) [] isStatic)
  /-- A call that reads a field, or is a generator, and compiles on what its operands fold to. -/
  | compiles {name : String} {target : Option Draft} {args : List Draft} {isStatic : Bool}
      {sql : Sql.Expression} (early : compilesEarly name target args = true)
      (compiled : expression env
        (.call name (target.map Term.fold) (args.map Term.fold) isStatic) = .ok sql) :
      Reducible env (.call name target args isStatic)

theorem reduceStep_of_not_reducible {draft : Draft} (irreducible : ¬ Reducible env draft) :
    reduceStep env draft = draft := by
  cases draft with
  | call name target args isStatic =>
    rcases reduceStep_call env name target args isStatic with
      ⟨field, method, rfl, rfl, -⟩ | ⟨sql, early, compiled, -⟩ | same
    · exact absurd (.unwraps isStatic method) irreducible
    · exact absurd (.compiles early compiled) irreducible
    · exact same
  | _ => rfl

/-- A call whose operands are reduced becomes a leaf or a field, or cannot be reduced. -/
theorem reduceStep_call_reduced
    (inTarget : ∀ t, target = some t → Throughout (fun part => ¬ Reducible env part) t)
    (inArgs : ∀ a ∈ args, Throughout (fun part => ¬ Reducible env part) a) :
    Throughout (fun part => ¬ Reducible env part)
      (reduceStep env (.call name target args isStatic)) := by
  simp only [reduceStep]
  cases unwrapped : unwrapped? name target args with
  | some field =>
    refine .field ?_
    intro reducible
    cases reducible
  | none =>
    cases reduced : reducedCall? env name target args isStatic with
    | some sql =>
      refine .leaf ?_
      intro reducible
      cases reducible
    | none =>
      -- the call stays, and the operands it stays with are the reduced ones
      refine .call inTarget inArgs ?_
      rintro (⟨-, method⟩ | ⟨early, compiled⟩)
      · simp [unwrapped?, method] at unwrapped
      · rw [reducedCall?_eq_some.2 ⟨early, compiled⟩] at reduced
        cases reduced

/-- Nothing is left to reduce after reducing. -/
theorem reduced_reduce (env : Environment) (draft : Draft) :
    Throughout (fun part => ¬ Reducible env part) (reduce env draft) := by
  induction draft using Term.induct with
  | leaf sql => exact .leaf nofun
  | field name => exact .field nofun
  | literal value => exact .literal nofun
  | unary op operand inside => exact .unary inside nofun
  | binary op left right inLeft inRight => exact .binary inLeft inRight nofun
  | conditional test whenTrue whenFalse inTest inTrue inFalse =>
    exact .conditional inTest inTrue inFalse nofun
  | call name target args isStatic inTarget inArgs =>
    rw [reduce_call]
    refine reduceStep_call_reduced ?_ (List.forall_mem_map.2 inArgs)
    intro t isTarget
    obtain ⟨t', given, rfl⟩ := Option.map_eq_some_iff.1 isTarget
    exact inTarget t' given

/-- The drafts that reducing leaves as they are have no call in them that it replaces. -/
theorem reduce_eq_iff {draft : Draft} :
    reduce env draft = draft ↔ Throughout (fun part => ¬ Reducible env part) draft :=
  ⟨fun same => same ▸ reduced_reduce env draft,
    fun throughout => throughout.transform_eq fun _ => reduceStep_of_not_reducible⟩

/-- **One run of either pass gives its normal form.**  A second run changes nothing, so what is
left is what the pass does not replace: after folding there is no operation, conditional or call,
at any depth, that one operand decides or that has a value on its literals, and after reducing
there is no call that compiles early. -/
theorem reduce_fold_normal (env : Environment) (draft : Draft) :
    reduce env (reduce env draft) = reduce env draft ∧
      Term.fold (Term.fold draft) = Term.fold draft ∧
      Throughout (fun part => ¬ Reducible env part) (reduce env draft) ∧
      Throughout (fun part => ¬ Term.Evaluable part) (Term.fold draft) := by
  have reduced := reduced_reduce env draft
  have folded := Term.fold_fold draft
  exact ⟨reduce_eq_iff.2 reduced, folded, reduced, Term.fold_eq_iff.1 folded⟩

end Draft

end PlanCompiler
