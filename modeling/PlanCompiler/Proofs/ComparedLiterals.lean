/-
# Proofs.ComparedLiterals -- the comparisons of literals fit together

Apart from floats, every literal that is ordered at all is a point on one of eight scales,
where signed and unsigned integers share one, and two literals are ordered exactly if they are
on the same scale (`Literal.compare?_eq`).  Every scale is a total order, so the order of
literals is one as far as it goes.

The operator `==` is as good as equality on such literals.  It goes beyond the order, to nulls
and to arrays of any depth, and there the laws come from those of the items.

What folding makes of the six comparisons follows from this, as does membership in an array
(`Term.comparisons_cohere`).
-/
import PlanCompiler.Proofs.FoldedTerms
import PlanCompiler.Proofs.SimplifiedValue
import Mathlib.Data.List.Forall2

namespace PlanCompiler

set_option autoImplicit false

/-! ## Total orders -/

section

variable {α β : Type}

/-- A comparison by what a function gives. -/
theorem transCmp_on (key : α → β) (compare : β → β → Ordering) [Std.TransCmp compare] :
    Std.TransCmp fun a b => compare (key a) (key b) where
  eq_swap := Std.OrientedCmp.eq_swap
  isLE_trans := Std.TransCmp.isLE_trans

/-- Two steps that do not lead in opposite directions lead where the first of them does that
leads anywhere. -/
theorem compare_then (compare : α → α → Ordering) [Std.TransCmp compare] {a b c : α}
    (together : compare a b = compare b c ∨ compare a b = .eq ∨ compare b c = .eq) :
    compare a c = (compare a b).then (compare b c) := by
  rcases together with same | first | second
  · cases order : compare b c with
    | lt => rw [Std.TransCmp.lt_trans (same.trans order) order, same, order]; rfl
    | eq => rw [Std.TransCmp.congr_left (same.trans order), same, order]; rfl
    | gt => rw [Std.TransCmp.gt_trans (same.trans order) order, same, order]; rfl
  · rw [Std.TransCmp.congr_left first, first, Ordering.then]
  · rw [← Std.TransCmp.congr_right second, second, Ordering.then_eq]

end

instance : Std.TransCmp Uuid.compare :=
  transCmp_on (fun u : Uuid => u.value.toNat) Ord.compare

instance : Std.TransCmp Date.compare :=
  inferInstanceAs (Std.TransCmp (compareLex (compareOn Date.year)
    (compareLex (compareOn Date.month) (compareOn Date.day))))

instance : Std.TransCmp TimeOfDay.compare :=
  inferInstanceAs (Std.TransCmp (compareLex (compareOn TimeOfDay.secondOfDay)
    (compareOn TimeOfDay.nano)))

instance : Std.TransCmp DateTime.compare :=
  have := transCmp_on DateTime.date Date.compare
  have := transCmp_on DateTime.time TimeOfDay.compare
  inferInstanceAs (Std.TransCmp (compareLex
    (fun a b : DateTime => a.date.compare b.date) (fun a b => a.time.compare b.time)))

instance : Std.TransCmp ZonedDateTime.compare :=
  inferInstanceAs (Std.TransCmp (compareLex (compareOn ZonedDateTime.utcSeconds)
    (compareOn fun z => z.shown.time.nano)))

/-! ## Scales -/

/-- What literals are ordered by. -/
inductive Scale
  | truth
  | integer
  | text
  | uuid
  | dateTime
  | instant
  | date
  | time
deriving DecidableEq

namespace Scale

def Value : Scale → Type
  | truth => Bool
  | integer => Int
  | text => String
  | uuid => Uuid
  | dateTime => DateTime
  | instant => ZonedDateTime
  | date => Date
  | time => TimeOfDay

def compare : (scale : Scale) → scale.Value → scale.Value → Ordering
  | truth => fun a b : Bool => Ord.compare a b
  | integer => fun a b : Int => Ord.compare a b
  | text => fun a b : String => Ord.compare a b
  | uuid => Uuid.compare
  | dateTime => DateTime.compare
  | instant => ZonedDateTime.compare
  | date => Date.compare
  | time => TimeOfDay.compare

instance (scale : Scale) : Std.TransCmp scale.compare := by
  cases scale with
  | truth => exact inferInstanceAs (Std.TransCmp fun a b : Bool => Ord.compare a b)
  | integer => exact inferInstanceAs (Std.TransCmp fun a b : Int => Ord.compare a b)
  | text => exact inferInstanceAs (Std.TransCmp fun a b : String => Ord.compare a b)
  | uuid => exact inferInstanceAs (Std.TransCmp Uuid.compare)
  | dateTime => exact inferInstanceAs (Std.TransCmp DateTime.compare)
  | instant => exact inferInstanceAs (Std.TransCmp ZonedDateTime.compare)
  | date => exact inferInstanceAs (Std.TransCmp Date.compare)
  | time => exact inferInstanceAs (Std.TransCmp TimeOfDay.compare)

end Scale

/-- A value on its scale. -/
abbrev Point := (scale : Scale) × scale.Value

namespace Point

/-- The order of two points of the same scale. -/
def compare? (p q : Point) : Option Ordering :=
  if same : p.1 = q.1 then some (q.1.compare (same ▸ p.2) q.2) else none

theorem compare?_same (scale : Scale) (x y : scale.Value) :
    compare? ⟨scale, x⟩ ⟨scale, y⟩ = some (scale.compare x y) :=
  dif_pos rfl

theorem scale_eq {p q : Point} {order : Ordering} (compared : p.compare? q = some order) :
    p.1 = q.1 := by
  by_contra other
  rw [compare?, dif_neg other] at compared
  cases compared

theorem compare?_self (p : Point) : p.compare? p = some .eq := by
  obtain ⟨scale, x⟩ := p
  rw [compare?_same]
  exact congrArg some Std.ReflCmp.compare_self

theorem compare?_swap (p q : Point) : q.compare? p = (p.compare? q).map Ordering.swap := by
  obtain ⟨scale, x⟩ := p
  obtain ⟨scale', y⟩ := q
  by_cases same : scale = scale'
  · subst same
    rw [compare?_same, compare?_same, Option.map_some, ← Std.OrientedCmp.eq_swap]
  · rw [compare?, compare?, dif_neg same, dif_neg (Ne.symm same), Option.map_none]

theorem compare?_then {p q r : Point} {first second : Ordering}
    (isFirst : p.compare? q = some first) (isSecond : q.compare? r = some second)
    (together : first = second ∨ first = .eq ∨ second = .eq) :
    p.compare? r = some (first.then second) := by
  obtain ⟨scale, x⟩ := p
  obtain ⟨scale', y⟩ := q
  obtain ⟨scale'', z⟩ := r
  obtain rfl : scale = scale' := scale_eq isFirst
  obtain rfl : scale = scale'' := scale_eq isSecond
  rw [compare?_same, Option.some.injEq] at isFirst isSecond
  subst isFirst isSecond
  rw [compare?_same, compare_then scale.compare together]

end Point

/-! ## Literals without floats -/

namespace Literal

mutual

/-- Whether no float is in the literal, at any depth. -/
def isFloatless : Literal → Bool
  | .float _ => false
  | .array items => areFloatless items
  | _ => true

def areFloatless : List Literal → Bool
  | [] => true
  | item :: items => isFloatless item && areFloatless items

end

theorem areFloatless_iff {items : List Literal} :
    areFloatless items = true ↔ ∀ item ∈ items, item.isFloatless = true := by
  induction items with
  | nil => simp [areFloatless]
  | cons item items ih => simp [areFloatless, ih]

/-- To prove something of a literal, an array may be taken to consist of literals that it has been
proved of. -/
theorem induct {motive : Literal → Prop}
    (array : ∀ items, (∀ item ∈ items, motive item) → motive (.array items))
    (other : ∀ a : Literal, (∀ items, a ≠ .array items) → motive a) : ∀ a, motive a := by
  intro a
  refine Literal.rec (motive_1 := motive) (motive_2 := fun items => ∀ item ∈ items, motive item)
    ?null ?bool ?int ?uint ?float ?string ?uuid ?dateTime ?instant ?date ?time array ?nil ?cons a
  case nil => exact nofun
  case cons => exact fun item items here inside => List.forall_mem_cons.2 ⟨here, inside⟩
  case null => exact other .null nofun
  all_goals exact fun value => other _ nofun

/-- The point on its scale of a literal that is no float. -/
def point? : Literal → Option Point
  | .bool value => some ⟨.truth, value⟩
  | .int value => some ⟨.integer, value.toInt⟩
  | .uint value => some ⟨.integer, (value.toNat : Int)⟩
  | .string value => some ⟨.text, value⟩
  | .uuid value => some ⟨.uuid, value⟩
  | .dateTime value => some ⟨.dateTime, value⟩
  | .dateTimeOffset value => some ⟨.instant, value⟩
  | .date value => some ⟨.date, value⟩
  | .time value => some ⟨.time, value⟩
  | _ => none

variable {a b c : Literal}

theorem compare?_eq (left : a.isFloatless = true) (right : b.isFloatless = true) :
    compare? a b = a.point?.bind fun p => b.point?.bind p.compare? := by
  cases a <;> cases b <;> first
    | rfl
    | exact absurd left Bool.false_ne_true
    | exact absurd right Bool.false_ne_true

/-! ## Order -/

theorem compare?_swap (left : a.isFloatless = true) (right : b.isFloatless = true) :
    compare? b a = (compare? a b).map Ordering.swap := by
  rw [compare?_eq left right, compare?_eq right left]
  cases a.point? with
  | none => simp
  | some p =>
    cases b.point? with
    | none => rfl
    | some q => exact Point.compare?_swap p q

theorem compare?_then (inA : a.isFloatless = true) (inB : b.isFloatless = true)
    (inC : c.isFloatless = true) {first second : Ordering} (isFirst : compare? a b = some first)
    (isSecond : compare? b c = some second)
    (together : first = second ∨ first = .eq ∨ second = .eq) :
    compare? a c = some (first.then second) := by
  rw [compare?_eq inA inB] at isFirst
  rw [compare?_eq inB inC] at isSecond
  obtain ⟨p, pointA, isFirst⟩ := Option.bind_eq_some_iff.1 isFirst
  obtain ⟨q, pointB, isFirst⟩ := Option.bind_eq_some_iff.1 isFirst
  rw [pointB, Option.bind_some] at isSecond
  obtain ⟨r, pointC, isSecond⟩ := Option.bind_eq_some_iff.1 isSecond
  rw [compare?_eq inA inC, pointA, pointC]
  exact Point.compare?_then isFirst isSecond together

/-! ## Equality -/

theorem equal?_array (as bs : List Literal) :
    equal? (.array as) (.array bs) =
      if as.length = bs.length then equalItems? as bs else some false := rfl

theorem equal?_null (a : Literal) : equal? a .null = equal? .null a := by
  cases a <;> rfl

/-- Arrays of one length are equal if their items are. -/
theorem equalItems?_eq_true {as bs : List Literal} :
    as.length = bs.length ∧ equalItems? as bs = some true ↔
      List.Forall₂ (fun a b => equal? a b = some true) as bs := by
  induction as generalizing bs with
  | nil => cases bs <;> simp [equalItems?]
  | cons a as ih =>
    cases bs with
    | nil => simp
    | cons b bs =>
      rw [List.forall₂_cons, ← ih, equalItems?]
      cases equal? a b with
      | none => simp
      | some truth => cases truth <;> simp

/-- What is equal: nulls, arrays with equal items, and what the order does not tell apart. -/
theorem equal?_eq_true :
    equal? a b = some true ↔ (a = .null ∧ b = .null) ∨
      (∃ as bs, a = .array as ∧ b = .array bs ∧
        List.Forall₂ (fun a b => equal? a b = some true) as bs) ∨ compare? a b = some .eq := by
  constructor
  · intro equal
    unfold equal? at equal
    split at equal
    · exact .inl ⟨rfl, rfl⟩
    · cases equal
    · cases equal
    · rename_i as bs
      split at equal
      · rename_i sameLength
        exact .inr (.inl ⟨as, bs, rfl, rfl, equalItems?_eq_true.1 ⟨sameLength, equal⟩⟩)
      · cases equal
    · obtain ⟨order, compared, isEq⟩ := Option.map_eq_some_iff.1 equal
      rw [Ordering.isEq_iff_eq_eq] at isEq
      exact .inr (.inr (isEq ▸ compared))
  · rintro (⟨rfl, rfl⟩ | ⟨as, bs, rfl, rfl, items⟩ | compared)
    · rfl
    · obtain ⟨sameLength, equal⟩ := equalItems?_eq_true.2 items
      rw [equal?_array, if_pos sameLength, equal]
    · exact equal?_of_compare? compared

/-- Besides nulls and arrays only the order tells what is equal. -/
theorem equal?_of_other (notNull : a ≠ .null) (notArray : ∀ items, a ≠ .array items)
    (notNull' : b ≠ .null) :
    equal? a b = (compare? a b).map Ordering.isEq ∧
      equal? b a = (compare? b a).map Ordering.isEq := by
  constructor
  · unfold equal?
    split <;> simp_all
  · unfold equal?
    split <;> simp_all

theorem exists_point (isFloatless : a.isFloatless = true) (notNull : a ≠ .null)
    (notArray : ∀ items, a ≠ .array items) : ∃ point, a.point? = some point := by
  cases a with
  | null => exact absurd rfl notNull
  | array items => exact absurd rfl (notArray items)
  | float value => exact absurd isFloatless Bool.false_ne_true
  | _ => exact ⟨_, rfl⟩

theorem equal?_refl (isFloatless : a.isFloatless = true) : equal? a a = some true := by
  induction a using induct with
  | array items ih =>
    have inside := areFloatless_iff.1 isFloatless
    have same : List.Forall₂ (fun a b => equal? a b = some true) items items :=
      List.forall₂_same.2 fun item mem => ih item mem (inside item mem)
    exact equal?_eq_true.2 (.inr (.inl ⟨items, items, rfl, rfl, same⟩))
  | other a notArray =>
    by_cases isNull : a = .null
    · subst isNull
      rfl
    · obtain ⟨point, isPoint⟩ := exists_point isFloatless isNull notArray
      have self : compare? a a = some .eq := by
        rw [compare?_eq isFloatless isFloatless, isPoint]
        exact Point.compare?_self point
      exact equal?_of_compare? self

theorem compare?_array (items : List Literal) (a : Literal) :
    compare? (.array items) a = none ∧ compare? a (.array items) = none := by
  cases a <;> exact ⟨rfl, rfl⟩

theorem compare?_null (a : Literal) : compare? .null a = none ∧ compare? a .null = none := by
  cases a <;> exact ⟨rfl, rfl⟩

/-- What equals an array is one, with equal items. -/
theorem eq_array_of_equal? {as : List Literal} (equal : equal? (.array as) b = some true) :
    ∃ bs, b = .array bs ∧ List.Forall₂ (fun a b => equal? a b = some true) as bs := by
  rcases equal?_eq_true.1 equal with ⟨isNull, -⟩ | ⟨_, bs, same, rfl, items⟩ | compared
  · cases isNull
  · cases same
    exact ⟨bs, rfl, items⟩
  · rw [(compare?_array as b).1] at compared
    cases compared

theorem equalItems_trans {as bs cs : List Literal}
    (trans : ∀ a ∈ as, ∀ b ∈ bs, ∀ c ∈ cs, equal? a b = some true → equal? b c = some true →
      equal? a c = some true)
    (first : List.Forall₂ (fun a b => equal? a b = some true) as bs)
    (second : List.Forall₂ (fun b c => equal? b c = some true) bs cs) :
    List.Forall₂ (fun a c => equal? a c = some true) as cs := by
  induction first generalizing cs with
  | nil =>
    cases second
    exact .nil
  | cons here _ ih =>
    cases second with
    | cons there rest =>
      refine .cons (trans _ (by simp) _ (by simp) _ (by simp) here there) (ih ?_ rest)
      exact fun a inAs b inBs c inCs => trans a (.tail _ inAs) b (.tail _ inBs) c (.tail _ inCs)

theorem equal?_trans (inA : a.isFloatless = true) (inB : b.isFloatless = true)
    (inC : c.isFloatless = true) (first : equal? a b = some true)
    (second : equal? b c = some true) : equal? a c = some true := by
  induction a using induct generalizing b c with
  | array as ih =>
    obtain ⟨bs, rfl, itemsAB⟩ := eq_array_of_equal? first
    obtain ⟨cs, rfl, itemsBC⟩ := eq_array_of_equal? second
    have insideA := areFloatless_iff.1 inA
    have insideB := areFloatless_iff.1 inB
    have insideC := areFloatless_iff.1 inC
    have items := equalItems_trans (fun a inAs b inBs c inCs =>
      ih a inAs (insideA a inAs) (insideB b inBs) (insideC c inCs)) itemsAB itemsBC
    exact equal?_eq_true.2 (.inr (.inl ⟨as, cs, rfl, rfl, items⟩))
  | other a notArray =>
    rcases equal?_eq_true.1 first with ⟨rfl, rfl⟩ | ⟨as, _, isArray, -⟩ | comparedAB
    · exact second
    · exact absurd isArray (notArray as)
    · rcases equal?_eq_true.1 second with ⟨rfl, rfl⟩ | ⟨bs, _, rfl, -⟩ | comparedBC
      · rw [(compare?_null a).2] at comparedAB
        cases comparedAB
      · rw [(compare?_array bs a).2] at comparedAB
        cases comparedAB
      · exact equal?_of_compare? (compare?_then inA inB inC comparedAB comparedBC (.inl rfl))

/-- Items are compared up to the first that differ, in whichever order the arrays stand. -/
theorem equalItems?_comm {as bs : List Literal}
    (comm : ∀ a ∈ as, ∀ b ∈ bs, equal? a b = equal? b a) :
    equalItems? as bs = equalItems? bs as := by
  induction as generalizing bs with
  | nil => cases bs <;> rfl
  | cons a as ih =>
    cases bs with
    | nil => rfl
    | cons b bs =>
      rw [equalItems?, equalItems?, comm a (.head _) b (.head _),
        ih fun a inAs b inBs => comm a (.tail _ inAs) b (.tail _ inBs)]

theorem equal?_comm (left : a.isFloatless = true) (right : b.isFloatless = true) :
    equal? a b = equal? b a := by
  induction a using induct generalizing b with
  | array as ih =>
    by_cases isArray : ∃ bs, b = .array bs
    · obtain ⟨bs, rfl⟩ := isArray
      have insideA := areFloatless_iff.1 left
      have insideB := areFloatless_iff.1 right
      have items : equalItems? as bs = equalItems? bs as :=
        equalItems?_comm fun a inAs b inBs => ih a inAs (insideA a inAs) (insideB b inBs)
      rw [equal?_array, equal?_array, items]
      by_cases sameLength : as.length = bs.length
      · rw [if_pos sameLength, if_pos sameLength.symm]
      · rw [if_neg sameLength, if_neg (Ne.symm sameLength)]
    · by_cases isNull : b = .null
      · rw [isNull, equal?_null]
      · obtain ⟨backward, forward⟩ :=
          equal?_of_other (b := .array as) isNull (not_exists.1 isArray) nofun
        rw [forward, backward, (compare?_array as b).1, (compare?_array as b).2]
  | other a notArray =>
    by_cases aNull : a = .null
    · rw [aNull, equal?_null]
    · by_cases bNull : b = .null
      · rw [bNull, equal?_null]
      · obtain ⟨forward, backward⟩ := equal?_of_other aNull notArray bNull
        rw [forward, backward, compare?_swap left right, Option.map_map]
        exact congrArg (Option.map · (compare? a b)) (funext fun order => by cases order <;> rfl)

end Literal

/-! ## All comparisons -/

namespace Comparison

/-- The comparison that holds where this one does not. -/
def negated : Comparison → Comparison
  | .equal => .notEqual
  | .notEqual => .equal
  | .less => .greaterOrEqual
  | .lessOrEqual => .greater
  | .greater => .lessOrEqual
  | .greaterOrEqual => .less

/-- The same comparison, read from the right. -/
def swapped : Comparison → Comparison
  | .equal => .equal
  | .notEqual => .notEqual
  | .less => .greater
  | .lessOrEqual => .greaterOrEqual
  | .greater => .less
  | .greaterOrEqual => .lessOrEqual

/-- An order is one of `<`, `==` and `>`. -/
theorem existsUnique_accepts (order : Ordering) :
    ∃! op, op ∈ [Comparison.less, .equal, .greater] ∧ op.accepts order = true := by
  have one : ∃ op ∈ [Comparison.less, .equal, .greater], op.accepts order = true := by
    cases order <;> decide
  obtain ⟨op, mem, holds⟩ := one
  refine ⟨op, ⟨mem, holds⟩, fun other ⟨mem', holds'⟩ => ?_⟩
  cases order <;> cases op <;> cases other <;> simp_all [accepts]

end Comparison

namespace Literal

variable {a b : Literal}

theorem compareWith?_negated (op : Comparison) (a b : Literal) :
    compareWith? op.negated a b = (compareWith? op a b).map not := by
  cases op with
  | equal => rfl
  | notEqual =>
    rw [Comparison.negated, compareWith?, compareWith?, Option.map_map, Bool.involutive_not.comp_self,
      Option.map_id, id]
  | less | lessOrEqual | greater | greaterOrEqual =>
    rw [Comparison.negated]
    simp only [compareWith?]
    cases compare? a b with
    | none => rfl
    | some order => cases order <;> rfl

theorem compareWith?_swapped (op : Comparison) (left : a.isFloatless = true)
    (right : b.isFloatless = true) :
    compareWith? op.swapped b a = compareWith? op a b := by
  cases op with
  | equal => exact equal?_comm right left
  | notEqual => exact congrArg (Option.map not) (equal?_comm right left)
  | less | lessOrEqual | greater | greaterOrEqual =>
    rw [Comparison.swapped]
    simp only [compareWith?, compare?_swap left right]
    cases compare? a b with
    | none => rfl
    | some order => cases order <;> rfl

/-- What three literals are to each other is told without contradiction. -/
structure Coheres (a b c : Literal) : Prop where
  equal_refl : equal? a a = some true
  equal_comm : equal? a b = equal? b a
  equal_trans : equal? a b = some true → equal? b c = some true → equal? a c = some true
  compare_swap : compare? b a = (compare? a b).map Ordering.swap
  /-- From the first to the third the order is that of the steps in between, unless these lead in
  opposite directions. -/
  compare_trans : ∀ first second, compare? a b = some first → compare? b c = some second →
    (first = second ∨ first = .eq ∨ second = .eq) → compare? a c = some (first.then second)

end Literal

/-! ## Folding -/

namespace Term

variable {Leaf : Type}

/-- A comparison of two literals. -/
def compared (op : Comparison) (a b : Literal) : Term Leaf :=
  .binary (.comparison op) (.literal a) (.literal b)

theorem fold_compared (op : Comparison) (a b : Literal) :
    fold (compared op a b : Term Leaf) =
      match Literal.compareWith? op a b with
      | some truth => .literal (.bool truth)
      | none => compared op a b := by
  have value : binaryValue? (.comparison op) (.literal a) (.literal b : Term Leaf) =
      (Literal.compareWith? op a b).map .bool := rfl
  rw [compared, fold_binary]
  change foldStep (.binary (.comparison op) (.literal a) (.literal b)) = _
  simp only [foldStep, value]
  cases Literal.compareWith? op a b <;> rfl

theorem fold_compared_eq_bool {op : Comparison} {a b : Literal} {truth : Bool} :
    fold (compared op a b : Term Leaf) = .literal (.bool truth) ↔
      Literal.compareWith? op a b = some truth := by
  rw [fold_compared]
  cases Literal.compareWith? op a b <;> simp [compared]

/-- What folding makes of the comparisons of two literals is told without contradiction. -/
structure FoldsCoherently (Leaf : Type) (a b : Literal) : Prop where
  decided : (Literal.compare? a b).isSome → ∀ op, ∃ truth,
    fold (compared op a b : Term Leaf) = .literal (.bool truth)
  exactly_one : (Literal.compare? a b).isSome → ∃! op, op ∈ [Comparison.less, .equal, .greater] ∧
    fold (compared op a b : Term Leaf) = .literal (.bool true)
  negated : ∀ op truth, fold (compared op.negated a b : Term Leaf) = .literal (.bool !truth) ↔
    fold (compared op a b : Term Leaf) = .literal (.bool truth)
  /-- Both are the same literal, or both stay. -/
  swapped : ∀ op, (∃ value, fold (compared op a b : Term Leaf) = .literal value ∧
      fold (compared op.swapped b a : Term Leaf) = .literal value) ∨
    (fold (compared op a b : Term Leaf) = compared op a b ∧
      fold (compared op.swapped b a : Term Leaf) = compared op.swapped b a)

/-- A call that looks for a literal in an array, as a method of the array or of no target, tells
whether it equals an item. -/
def FindsEqual (Leaf : Type) (items : List Literal) (a : Literal) : Prop :=
  ∀ name isStatic, Method.ofName? name = some .contains →
    ∀ call ∈ [Term.call name (some (.literal (.array items))) [.literal a] isStatic,
        .call name none [.literal (.array items), .literal a] isStatic],
      ∃ truth, fold (call : Term Leaf) = .literal (.bool truth) ∧
        (truth = true ↔
          ∃ item ∈ items, fold (compared .equal item a : Term Leaf) = .literal (.bool true))

theorem foldsCoherently {a b : Literal} (left : a.isFloatless = true)
    (right : b.isFloatless = true) : FoldsCoherently Leaf a b where
  decided isOrdered op := by
    obtain ⟨order, ordered⟩ := Option.isSome_iff_exists.1 isOrdered
    exact ⟨_, fold_compared_eq_bool.2 (Literal.compareWith?_of_compare? op ordered)⟩
  exactly_one isOrdered := by
    obtain ⟨order, ordered⟩ := Option.isSome_iff_exists.1 isOrdered
    simp only [fold_compared_eq_bool, Literal.compareWith?_of_compare? _ ordered, Option.some.injEq]
    exact Comparison.existsUnique_accepts order
  negated op truth := by
    rw [fold_compared_eq_bool, fold_compared_eq_bool, Literal.compareWith?_negated,
      Option.map_eq_some_iff]
    simp
  swapped op := by
    rw [fold_compared, fold_compared, Literal.compareWith?_swapped op left right]
    cases Literal.compareWith? op a b with
    | none => exact .inr ⟨rfl, rfl⟩
    | some truth => exact .inl ⟨_, rfl, rfl⟩

theorem holds_iff {items : List Literal} {a : Literal} :
    Literal.holds items a = true ↔
      ∃ item ∈ items, fold (compared .equal item a : Term Leaf) = .literal (.bool true) := by
  simp only [Literal.holds, List.any_eq_true, beq_iff_eq, fold_compared_eq_bool,
    Literal.compareWith?]

theorem findsEqual (items : List Literal) (a : Literal) : FindsEqual Leaf items a := by
  intro name isStatic named call isCall
  refine ⟨Literal.holds items a, ?_, holds_iff⟩
  rw [List.mem_pair] at isCall
  rcases isCall with rfl | rfl <;>
  · rw [fold_call]
    apply foldStep_call_eq_literal.2
    rw [callValue?, named]
    rfl

/-- **Comparisons of literals fit together.**  On literals without floats `==` is reflexive,
symmetric and transitive, and the order is the same from both sides and transitive.  Folding gives
exactly one of `<`, `==` and `>` to literals that are ordered; it gives a comparison and its
negation opposite values, and a comparison and the same one from the other side the same; and
what an array contains is what equals one of its items. -/
theorem comparisons_cohere {a b c : Literal} (inA : a.isFloatless = true)
    (inB : b.isFloatless = true) (inC : c.isFloatless = true) :
    Literal.Coheres a b c ∧ FoldsCoherently Leaf a b ∧ ∀ items, FindsEqual Leaf items a where
  left := {
    equal_refl := Literal.equal?_refl inA
    equal_comm := Literal.equal?_comm inA inB
    equal_trans := Literal.equal?_trans inA inB inC
    compare_swap := Literal.compare?_swap inA inB
    compare_trans := fun _ _ => Literal.compare?_then inA inB inC }
  right := ⟨foldsCoherently inA inB, fun items => findsEqual items a⟩

/-- An array of signed integers, and one of unsigned integers. -/
theorem comparisons_cohere_nested :
    (Literal.array [.null, .array [.int 1, .uint 2]]).isFloatless = true ∧
      (Literal.array [.null, .array [.uint 1, .int 2]]).isFloatless = true ∧
      fold (compared .equal (.array [.null, .array [.int 1, .uint 2]])
        (.array [.null, .array [.uint 1, .int 2]]) : Term Unit) = .literal (.bool true) ∧
      Literal.equal? (.array [.null, .array [.uint 1, .int 2]])
        (.array [.null, .array [.int 1, .uint 2]]) = some true := by
  have coheres := @comparisons_cohere Unit (.array [.null, .array [.int 1, .uint 2]])
    (.array [.null, .array [.uint 1, .int 2]]) .null rfl rfl rfl
  refine ⟨rfl, rfl, rfl, ?_⟩
  rw [← coheres.1.equal_comm]
  rfl

end Term

end PlanCompiler
