/-
# Proofs.FoldedTerms -- terms that folding leaves as they are

Folding decides at a node by the literals among its operands, and by nothing else about them.
A term is folded if nothing is decided at any of its nodes (`Folded`).  Those are the terms
that folding gives (`folded_fold`) and the ones that it leaves as they are (`folded_iff`).

Other operands with the same literals among them leave a node undecided
(`undecided_unary_congr` and its siblings).  A node that folds to a literal still does so if
more of its operands are literals (`foldStep_unary_reveals` and its siblings).
-/
import PlanCompiler.Compile.Fold

namespace PlanCompiler.Term

set_option autoImplicit false

variable {Leaf : Type}

/-! ## Every node of a term -/

/-- The term and all terms in it are as told. -/
inductive Throughout (told : Term Leaf → Prop) : Term Leaf → Prop
  | leaf {value : Leaf} (here : told (.leaf value)) : Throughout told (.leaf value)
  | field {name : String} (here : told (.field name)) : Throughout told (.field name)
  | literal {value : Literal} (here : told (.literal value)) : Throughout told (.literal value)
  | unary {op : UnaryOp} {operand : Term Leaf} (inside : Throughout told operand)
      (here : told (.unary op operand)) : Throughout told (.unary op operand)
  | binary {op : BinaryOp} {left right : Term Leaf} (inLeft : Throughout told left)
      (inRight : Throughout told right) (here : told (.binary op left right)) :
      Throughout told (.binary op left right)
  | conditional {test whenTrue whenFalse : Term Leaf} (inTest : Throughout told test)
      (inTrue : Throughout told whenTrue) (inFalse : Throughout told whenFalse)
      (here : told (.conditional test whenTrue whenFalse)) :
      Throughout told (.conditional test whenTrue whenFalse)
  | call {name : String} {target : Option (Term Leaf)} {args : List (Term Leaf)} {isStatic : Bool}
      (inTarget : ∀ t, target = some t → Throughout told t)
      (inArgs : ∀ a ∈ args, Throughout told a) (here : told (.call name target args isStatic)) :
      Throughout told (.call name target args isStatic)

/-- A pass leaves a term as it is if its step does so at every node. -/
theorem Throughout.transform_eq {told : Term Leaf → Prop} {step : Term Leaf → Term Leaf}
    (kept : ∀ t, told t → step t = t) {t : Term Leaf} (throughout : Throughout told t) :
    t.transform step = t := by
  induction throughout with
  | leaf here => exact kept _ here
  | field here => exact kept _ here
  | literal here => exact kept _ here
  | unary _ here inside => rw [transform, inside, kept _ here]
  | binary _ _ here inLeft inRight => rw [transform, inLeft, inRight, kept _ here]
  | conditional _ _ _ here inTest inTrue inFalse =>
    rw [transform, inTest, inTrue, inFalse, kept _ here]
  | call _ _ here inTarget inArgs =>
    rename_i name target args isStatic _ _
    have sameTarget : target.map (transform step) = target := by
      cases target with
      | none => rfl
      | some t => rw [Option.map_some, inTarget t rfl]
    have sameArgs : args.map (transform step) = args :=
      (List.map_congr_left inArgs).trans (List.map_id _)
    rw [transform, transformTarget_eq_map, transformArgs_eq_map, sameTarget, sameArgs,
      kept _ here]

/-! ## One node -/

theorem foldStep_unary (op : UnaryOp) (operand : Term Leaf) :
    foldStep (.unary op operand) =
      match unaryValue? op operand with
      | some value => .literal value
      | none => .unary op operand := rfl

theorem foldStep_binary (op : BinaryOp) (left right : Term Leaf) :
    foldStep (.binary op left right) =
      match binaryValue? op left right with
      | some value => .literal value
      | none => .binary op left right := rfl

theorem foldStep_conditional (test whenTrue whenFalse : Term Leaf) :
    foldStep (.conditional test whenTrue whenFalse) =
      (branch? test whenTrue whenFalse).getD (.conditional test whenTrue whenFalse) := rfl

theorem foldStep_call (name : String) (target : Option (Term Leaf)) (args : List (Term Leaf))
    (isStatic : Bool) :
    foldStep (.call name target args isStatic) =
      match callValue? name target args with
      | some value => .literal value
      | none => .call name target args isStatic := rfl

/-! ## Folded terms -/

/-- Folding has nothing to do at this node. -/
def Undecided : Term Leaf → Prop
  | .unary op operand => unaryValue? op operand = none
  | .binary op left right => binaryValue? op left right = none
  | .conditional test whenTrue whenFalse => branch? test whenTrue whenFalse = none
  | .call name target args _ => callValue? name target args = none
  | _ => True

/-- Folding has nothing to do at any node. -/
abbrev Folded (t : Term Leaf) : Prop :=
  Throughout Undecided t

theorem foldStep_of_undecided {t : Term Leaf} (undecided : Undecided t) : foldStep t = t := by
  cases t with
  | leaf value => rfl
  | field name => rfl
  | literal value => rfl
  | unary op operand =>
    simp only [Undecided] at undecided
    rw [foldStep_unary, undecided]
  | binary op left right =>
    simp only [Undecided] at undecided
    rw [foldStep_binary, undecided]
  | conditional test whenTrue whenFalse =>
    simp only [Undecided] at undecided
    rw [foldStep_conditional, undecided, Option.getD_none]
  | call name target args isStatic =>
    simp only [Undecided] at undecided
    rw [foldStep_call, undecided]

/-- A folded term stays as it is. -/
theorem Folded.fold_eq {t : Term Leaf} (folded : Folded t) : t.fold = t :=
  folded.transform_eq fun _ => foldStep_of_undecided

theorem foldStep_unary_folded {op : UnaryOp} {operand : Term Leaf} (inside : Folded operand) :
    Folded (foldStep (.unary op operand)) := by
  rw [foldStep_unary]
  split
  · exact .literal trivial
  · rename_i undecided
    exact .unary inside undecided

theorem foldStep_binary_folded {op : BinaryOp} {left right : Term Leaf} (inLeft : Folded left)
    (inRight : Folded right) : Folded (foldStep (.binary op left right)) := by
  rw [foldStep_binary]
  split
  · exact .literal trivial
  · rename_i undecided
    exact .binary inLeft inRight undecided

theorem foldStep_conditional_folded {test whenTrue whenFalse : Term Leaf} (inTest : Folded test)
    (inTrue : Folded whenTrue) (inFalse : Folded whenFalse) :
    Folded (foldStep (.conditional test whenTrue whenFalse)) := by
  rw [foldStep_conditional]
  cases decided : branch? test whenTrue whenFalse with
  | none => exact .conditional inTest inTrue inFalse decided
  | some branch =>
    unfold branch? at decided
    split at decided
    · cases decided
      exact inTrue
    · split at decided <;> cases decided
      exact inFalse

theorem foldStep_call_folded {name : String} {target : Option (Term Leaf)} {args : List (Term Leaf)}
    {isStatic : Bool} (inTarget : ∀ t, target = some t → Folded t) (inArgs : ∀ a ∈ args, Folded a) :
    Folded (foldStep (.call name target args isStatic)) := by
  rw [foldStep_call]
  split
  · exact .literal trivial
  · rename_i undecided
    exact .call inTarget inArgs undecided

/-- Nothing is left to fold after folding. -/
theorem folded_fold (t : Term Leaf) : Folded t.fold := by
  unfold fold
  induction t using Term.induct with
  | leaf value => exact .leaf trivial
  | field name => exact .field trivial
  | literal value => exact .literal trivial
  | unary op operand inside => exact foldStep_unary_folded inside
  | binary op left right inLeft inRight => exact foldStep_binary_folded inLeft inRight
  | conditional test whenTrue whenFalse inTest inTrue inFalse =>
    exact foldStep_conditional_folded inTest inTrue inFalse
  | call name target args isStatic inTarget inArgs =>
    rw [transform, transformTarget_eq_map, transformArgs_eq_map]
    apply foldStep_call_folded
    · intro t isTarget
      obtain ⟨t', given, rfl⟩ := Option.map_eq_some_iff.1 isTarget
      exact inTarget t' given
    · exact List.forall_mem_map.2 inArgs

theorem folded_iff {t : Term Leaf} : Folded t ↔ t.fold = t :=
  ⟨Folded.fold_eq, fun same => same ▸ folded_fold t⟩

/-! ## What folding looks at -/

theorem eq_literal_iff {t : Term Leaf} {value : Literal} :
    t.literal? = some value ↔ t = .literal value := by
  cases t <;> simp [literal?]

theorem isBool_iff {t : Term Leaf} {truth : Bool} :
    t.isBool truth = true ↔ t = .literal (.bool truth) := by
  cases t with
  | literal value => cases value <;> simp [isBool]
  | _ => simp [isBool]

theorem fold_unary (op : UnaryOp) (operand : Term Leaf) :
    fold (.unary op operand) = foldStep (.unary op operand.fold) := rfl

theorem fold_binary (op : BinaryOp) (left right : Term Leaf) :
    fold (.binary op left right) = foldStep (.binary op left.fold right.fold) := rfl

theorem fold_call (name : String) (target : Option (Term Leaf)) (args : List (Term Leaf))
    (isStatic : Bool) :
    fold (.call name target args isStatic) =
      foldStep (.call name (target.map fold) (args.map fold) isStatic) := by
  unfold fold
  rw [transform, transformTarget_eq_map, transformArgs_eq_map]

theorem mapM_literal?_eq_some_iff {args : List (Term Leaf)} :
    ∀ {values : List Literal}, args.mapM literal? = some values ↔ args = values.map .literal := by
  induction args with
  | nil => intro values; cases values <;> simp
  | cons a rest ih =>
    intro values
    rw [List.mapM_cons]
    cases values with
    | nil => simp [Option.bind_eq_some_iff]
    | cons value others => simp [Option.bind_eq_some_iff, eq_literal_iff, ih]

theorem targetLiteral?_eq_some_iff {target : Option (Term Leaf)} {value : Option Literal} :
    targetLiteral? target = some value ↔ target = value.map .literal := by
  cases target <;> cases value <;> simp [targetLiteral?, eq_literal_iff]

theorem literal_of_mapM_literal? {args : List (Term Leaf)} {values : List Literal}
    (written : args.mapM literal? = some values) : ∀ a ∈ args, ∃ value, a = .literal value := by
  rw [mapM_literal?_eq_some_iff.1 written]
  exact List.forall_mem_map.2 fun value _ => ⟨value, rfl⟩

/-- A call that has a value is one of a known method, on literals. -/
theorem callValue?_eq_some {name : String} {target : Option (Term Leaf)} {args : List (Term Leaf)}
    {value : Literal} (decided : callValue? name target args = some value) :
    ∃ method literal literals, Method.ofName? name = some method ∧
      targetLiteral? target = some literal ∧ args.mapM literal? = some literals ∧
      Literal.call? method literal literals = some value := by
  obtain ⟨method, named, decided⟩ := Option.bind_eq_some_iff.1 decided
  obtain ⟨literal, targetWritten, decided⟩ := Option.bind_eq_some_iff.1 decided
  obtain ⟨literals, argsWritten, result⟩ := Option.bind_eq_some_iff.1 decided
  exact ⟨method, literal, literals, named, targetWritten, argsWritten, result⟩

theorem literal_of_callValue? {name : String} {target : Option (Term Leaf)}
    {args : List (Term Leaf)} {value : Literal}
    (decided : callValue? name target args = some value) :
    ∀ operand ∈ target.toList ++ args, ∃ value, operand = .literal value := by
  obtain ⟨method, literal, literals, -, targetWritten, argsWritten, -⟩ := callValue?_eq_some decided
  refine List.forall_mem_append.2 ⟨?_, literal_of_mapM_literal? argsWritten⟩
  cases target with
  | none => exact nofun
  | some t =>
    obtain ⟨x, written, -⟩ := Option.map_eq_some_iff.1 targetWritten
    exact List.forall_mem_singleton.2 ⟨x, eq_literal_iff.1 written⟩

theorem foldStep_unary_eq_literal {op : UnaryOp} {operand : Term Leaf} {value : Literal} :
    foldStep (.unary op operand) = .literal value ↔ unaryValue? op operand = some value := by
  rw [foldStep_unary]
  split <;> simp_all

theorem foldStep_binary_eq_literal {op : BinaryOp} {left right : Term Leaf} {value : Literal} :
    foldStep (.binary op left right) = .literal value ↔
      binaryValue? op left right = some value := by
  rw [foldStep_binary]
  split <;> simp_all

/-- A calculation has a value if it has one on two literals. -/
theorem binaryValue?_calculation {op : Calculation} {left right : Term Leaf} {value : Literal} :
    binaryValue? (.calculation op) left right = some value ↔
      ∃ a b, left = .literal a ∧ right = .literal b ∧ Literal.calculate? op a b = some value := by
  have decided : binaryValue? (.calculation op) left right =
      left.literal?.bind fun a => right.literal?.bind fun b => Literal.calculate? op a b := rfl
  simp only [decided, Option.bind_eq_some_iff, eq_literal_iff, exists_and_left]

theorem foldStep_call_eq_literal {name : String} {target : Option (Term Leaf)}
    {args : List (Term Leaf)} {isStatic : Bool} {value : Literal} :
    foldStep (.call name target args isStatic) = .literal value ↔
      callValue? name target args = some value := by
  rw [foldStep_call]
  split <;> simp_all

/-! ### The same literals among the operands -/

theorem isBool_congr {a b : Term Leaf} (same : a.literal? = b.literal?) (truth : Bool) :
    a.isBool truth = b.isBool truth := by
  cases a <;> cases b <;> simp_all [literal?, isBool]

theorem isNull_congr {a b : Term Leaf} (same : a.literal? = b.literal?) :
    a.isNull = b.isNull := by
  cases a <;> cases b <;> simp_all [literal?, isNull]

theorem undecided_unary_congr {op : UnaryOp} {operand operand' : Term Leaf}
    (inside : operand'.literal? = operand.literal?) (undecided : Undecided (.unary op operand)) :
    Undecided (.unary op operand') := by
  simp only [Undecided, unaryValue?] at undecided ⊢
  rw [inside]
  exact undecided

theorem shortCircuit?_congr (op : BinaryOp) {left left' right right' : Term Leaf}
    (inLeft : left'.literal? = left.literal?) (inRight : right'.literal? = right.literal?) :
    shortCircuit? op left' right' = shortCircuit? op left right := by
  unfold shortCircuit?
  simp only [isBool_congr inLeft, isBool_congr inRight]

theorem undecided_binary_congr {op : BinaryOp} {left left' right right' : Term Leaf}
    (inLeft : left'.literal? = left.literal?) (inRight : right'.literal? = right.literal?)
    (undecided : Undecided (.binary op left right)) : Undecided (.binary op left' right') := by
  simp only [Undecided, binaryValue?] at undecided ⊢
  rw [shortCircuit?_congr op inLeft inRight, inLeft, inRight]
  exact undecided

theorem undecided_conditional_congr {test test' whenTrue whenTrue' whenFalse whenFalse' : Term Leaf}
    (inTest : test'.literal? = test.literal?)
    (undecided : Undecided (.conditional test whenTrue whenFalse)) :
    Undecided (.conditional test' whenTrue' whenFalse') := by
  simp only [Undecided, branch?] at undecided ⊢
  rw [isBool_congr inTest, isBool_congr inTest]
  split at undecided
  · cases undecided
  · rename_i notTrue
    split at undecided
    · cases undecided
    · rename_i notFalse
      rw [if_neg notTrue, if_neg notFalse]

theorem mapM_literal?_congr {f : Term Leaf → Term Leaf} {args : List (Term Leaf)}
    (inArgs : ∀ a ∈ args, (f a).literal? = a.literal?) :
    (args.map f).mapM literal? = args.mapM literal? := by
  induction args with
  | nil => rfl
  | cons a rest ih =>
    obtain ⟨inFirst, inRest⟩ := List.forall_mem_cons.1 inArgs
    rw [List.map_cons, List.mapM_cons, List.mapM_cons, inFirst, ih inRest]

theorem undecided_call_congr {name : String} {f : Term Leaf → Term Leaf}
    {target : Option (Term Leaf)} {args : List (Term Leaf)} {isStatic : Bool}
    (inTarget : ∀ t, target = some t → (f t).literal? = t.literal?)
    (inArgs : ∀ a ∈ args, (f a).literal? = a.literal?)
    (undecided : Undecided (.call name target args isStatic)) :
    Undecided (.call name (target.map f) (args.map f) isStatic) := by
  have sameTarget : targetLiteral? (target.map f) = targetLiteral? target := by
    cases target with
    | none => rfl
    | some t => rw [Option.map_some, targetLiteral?, targetLiteral?, inTarget t rfl]
  simp only [Undecided, callValue?] at undecided ⊢
  rw [sameTarget, mapM_literal?_congr inArgs]
  exact undecided

/-! ### More literals among the operands -/

/-- If the first term is a literal, the second is the same. -/
def Reveals (before after : Term Leaf) : Prop :=
  ∀ value, before = .literal value → after = .literal value

theorem Reveals.isBool {a b : Term Leaf} (reveals : Reveals a b) {truth : Bool}
    (known : a.isBool truth = true) : b.isBool truth = true :=
  isBool_iff.2 (reveals _ (isBool_iff.1 known))

theorem Reveals.literal? {a b : Term Leaf} (reveals : Reveals a b) {value : Literal}
    (written : a.literal? = some value) : b.literal? = some value :=
  eq_literal_iff.2 (reveals value (eq_literal_iff.1 written))

theorem foldStep_unary_reveals (op : UnaryOp) {operand operand' : Term Leaf}
    (inside : Reveals operand operand') :
    Reveals (foldStep (.unary op operand)) (foldStep (.unary op operand')) := by
  intro value folds
  rw [foldStep_unary_eq_literal] at folds ⊢
  obtain ⟨x, written, result⟩ := Option.bind_eq_some_iff.1 folds
  rw [unaryValue?, inside.literal? written]
  exact result

theorem binaryValue?_reveals {op : BinaryOp} {left left' right right' : Term Leaf} {value : Literal}
    (inLeft : Reveals left left') (inRight : Reveals right right')
    (decided : binaryValue? op left right = some value) :
    binaryValue? op left' right' = some value := by
  unfold binaryValue? at decided
  rw [Option.orElse_eq_orElse, Option.orElse_eq_or, Option.or_eq_some_iff] at decided
  rcases decided with short | ⟨notShort, both⟩
  · -- one operand decides, and it is still there
    have short' : shortCircuit? op left' right' = some value := by
      unfold shortCircuit? at short ⊢
      cases op with
      | andAlso =>
        simp only [Option.ite_none_right_eq_some, Bool.or_eq_true] at short ⊢
        exact ⟨short.1.imp inLeft.isBool inRight.isBool, short.2⟩
      | orElse =>
        simp only [Option.ite_none_right_eq_some, Bool.or_eq_true] at short ⊢
        exact ⟨short.1.imp inLeft.isBool inRight.isBool, short.2⟩
      | comparison op => cases short
      | calculation op => cases short
    rw [binaryValue?, short']
    rfl
  · -- both are literals, and so nothing has changed
    obtain ⟨x, leftWritten, both⟩ := Option.bind_eq_some_iff.1 both
    obtain ⟨y, rightWritten, result⟩ := Option.bind_eq_some_iff.1 both
    have sameLeft : left'.literal? = left.literal? :=
      (inLeft.literal? leftWritten).trans leftWritten.symm
    have sameRight : right'.literal? = right.literal? :=
      (inRight.literal? rightWritten).trans rightWritten.symm
    rw [binaryValue?, shortCircuit?_congr op sameLeft sameRight, notShort, sameLeft, sameRight,
      leftWritten, rightWritten]
    exact result

theorem foldStep_binary_reveals (op : BinaryOp) {left left' right right' : Term Leaf}
    (inLeft : Reveals left left') (inRight : Reveals right right') :
    Reveals (foldStep (.binary op left right)) (foldStep (.binary op left' right')) := by
  intro value folds
  rw [foldStep_binary_eq_literal] at folds ⊢
  exact binaryValue?_reveals inLeft inRight folds

theorem foldStep_conditional_reveals
    {test test' whenTrue whenTrue' whenFalse whenFalse' : Term Leaf}
    (inTest : Reveals test test') (inTrue : Reveals whenTrue whenTrue')
    (inFalse : Reveals whenFalse whenFalse') :
    Reveals (foldStep (.conditional test whenTrue whenFalse))
      (foldStep (.conditional test' whenTrue' whenFalse')) := by
  intro value folds
  rw [foldStep_conditional, branch?] at folds
  split at folds
  · rename_i isTrue
    obtain rfl := inTest _ (isBool_iff.1 isTrue)
    exact inTrue value folds
  · split at folds
    · rename_i isFalse
      obtain rfl := inTest _ (isBool_iff.1 isFalse)
      exact inFalse value folds
    · cases folds

theorem mapM_literal?_reveals {f g : Term Leaf → Term Leaf} {args : List (Term Leaf)}
    (inArgs : ∀ a ∈ args, Reveals (f a) (g a)) :
    ∀ {values : List Literal}, (args.map f).mapM literal? = some values →
      (args.map g).mapM literal? = some values := by
  induction args with
  | nil => exact fun written => written
  | cons a rest ih =>
    intro values written
    obtain ⟨inFirst, inRest⟩ := List.forall_mem_cons.1 inArgs
    rw [List.map_cons, List.mapM_cons] at written ⊢
    obtain ⟨value, first, written⟩ := Option.bind_eq_some_iff.1 written
    obtain ⟨others, areOthers, result⟩ := Option.bind_eq_some_iff.1 written
    rw [inFirst.literal? first, ih inRest areOthers]
    exact result

theorem foldStep_call_reveals (name : String) (isStatic : Bool) {f g : Term Leaf → Term Leaf}
    {target : Option (Term Leaf)} {args : List (Term Leaf)}
    (inTarget : ∀ t, target = some t → Reveals (f t) (g t))
    (inArgs : ∀ a ∈ args, Reveals (f a) (g a)) :
    Reveals (foldStep (.call name (target.map f) (args.map f) isStatic))
      (foldStep (.call name (target.map g) (args.map g) isStatic)) := by
  intro value folds
  rw [foldStep_call_eq_literal] at folds ⊢
  obtain ⟨method, literal, literals, named, targetWritten, argsWritten, result⟩ :=
    callValue?_eq_some folds
  have targetWritten' : targetLiteral? (target.map g) = some literal := by
    cases target with
    | none => exact targetWritten
    | some t =>
      obtain ⟨x, written, same⟩ := Option.map_eq_some_iff.1 targetWritten
      exact Option.map_eq_some_iff.2 ⟨x, (inTarget t rfl).literal? written, same⟩
  rw [callValue?, named, targetWritten', mapM_literal?_reveals inArgs argsWritten]
  exact result

end PlanCompiler.Term
