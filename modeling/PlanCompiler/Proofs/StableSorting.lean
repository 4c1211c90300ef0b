/-
# Proofs.StableSorting -- sorting again, and sorting by several comparisons at once

Sorting is stable: it moves nothing past what compares equal.  So a sorted list is
determined by how each class of equal elements is ordered in it
(`eq_of_sameClasses`), and a stable sort leaves every class as it was
(`filter_stableSort`).

From this follows the law of sorting again: sorting a list that has been sorted
before is sorting once, by the later comparison first and by the earlier one where
that finds no difference (`stableSort_stableSort`).  A comparison may be left out
where one in front of it already finds every difference that it does
(`lexicographic_filter`).
-/
import Mathlib.Data.List.Induction

namespace PlanCompiler

set_option autoImplicit false

variable {α : Type}

/-! ## One comparison -/

/-- The list in the order of a comparison; what compares equal stays in the order it is in. -/
def stableSort (compare : α → α → Ordering) (items : List α) : List α :=
  items.mergeSort fun a b => (compare a b).isLE

theorem stableSort_perm (compare : α → α → Ordering) (items : List α) :
    (stableSort compare items).Perm items :=
  List.mergeSort_perm items _

/-- Whether a comparison finds no difference. -/
def tied (compare : α → α → Ordering) (a b : α) : Bool :=
  compare a b == .eq

section One

variable {compare : α → α → Ordering}

theorem tied_iff {a b : α} : tied compare a b = true ↔ compare a b = .eq := beq_iff_eq

variable [Std.TransCmp compare]

theorem tied_self (a : α) : tied compare a a = true := tied_iff.2 Std.ReflCmp.compare_self

theorem isLE_self (a : α) : (compare a a).isLE = true := by
  have self : compare a a = .eq := Std.ReflCmp.compare_self
  rw [self]
  rfl

theorem isLE_total (a b : α) : ((compare a b).isLE || (compare b a).isLE) = true := by
  have swapped : compare a b = (compare b a).swap := Std.OrientedCmp.eq_swap
  rw [swapped]
  cases compare b a <;> rfl

variable (compare)

theorem pairwise_stableSort (items : List α) :
    (stableSort compare items).Pairwise fun a b => (compare a b).isLE = true :=
  List.pairwise_mergeSort (fun _ _ _ => Std.TransCmp.isLE_trans) isLE_total items

/-- Elements that compare equal keep their order. -/
theorem filter_stableSort (x : α) (items : List α) :
    (stableSort compare items).filter (tied compare x) = items.filter (tied compare x) := by
  have sorted : (items.filter (tied compare x)).Pairwise fun a b => (compare a b).isLE = true := by
    refine List.pairwise_filter.2 (List.pairwise_of_forall fun a b isA isB => ?_)
    rw [tied_iff] at isA isB
    rw [Std.TransCmp.eq_trans (Std.OrientedCmp.eq_symm isA) isB]
    rfl
  have kept : (items.filter (tied compare x)).Sublist (stableSort compare items) :=
    List.sublist_mergeSort (fun _ _ _ => Std.TransCmp.isLE_trans) isLE_total sorted
      List.filter_sublist
  have inClass := kept.filter (tied compare x)
  rw [List.filter_filter, funext fun a => Bool.and_self (tied compare x a)] at inClass
  have sameLength := ((stableSort_perm compare items).filter (tied compare x)).length_eq
  exact (inClass.eq_of_length sameLength.symm).symm

variable {compare}

theorem mem_of_sameClasses {xs ys : List α} {a : α} (mem : a ∈ xs)
    (same : ∀ x, xs.filter (tied compare x) = ys.filter (tied compare x)) : a ∈ ys := by
  have inClass : a ∈ xs.filter (tied compare a) := List.mem_filter.2 ⟨mem, tied_self a⟩
  rw [same a] at inClass
  exact (List.mem_filter.1 inClass).1

/-- The first element of a sorted list is the least one. -/
theorem isLE_of_sorted {a b : α} {as : List α}
    (sorted : (a :: as).Pairwise fun a b => (compare a b).isLE = true) (mem : b ∈ a :: as) :
    (compare a b).isLE = true := by
  rcases List.mem_cons.1 mem with rfl | mem
  · exact isLE_self b
  · exact (List.pairwise_cons.1 sorted).1 b mem

/-- Two sorted lists are the same if each class of equal elements is ordered alike in them. -/
theorem eq_of_sameClasses : ∀ {xs ys : List α},
    xs.Pairwise (fun a b => (compare a b).isLE = true) →
    ys.Pairwise (fun a b => (compare a b).isLE = true) →
    (∀ x, xs.filter (tied compare x) = ys.filter (tied compare x)) → xs = ys := by
  intro xs
  induction xs with
  | nil =>
    intro ys _ _ same
    cases ys with
    | nil => rfl
    | cons b bs => cases mem_of_sameClasses List.mem_cons_self fun x => (same x).symm
  | cons a as ih =>
    intro ys sortedX sortedY same
    cases ys with
    | nil => cases mem_of_sameClasses List.mem_cons_self same
    | cons b bs =>
      have ab := isLE_of_sorted sortedX
        (mem_of_sameClasses List.mem_cons_self fun x => (same x).symm)
      have ba := isLE_of_sorted sortedY (mem_of_sameClasses List.mem_cons_self same)
      -- the first elements are of one class, and the first of it in both lists
      have isTied : tied compare a b = true := tied_iff.2 (Std.OrientedCmp.isLE_antisymm ab ba)
      have firsts := same a
      rw [List.filter_cons_of_pos (tied_self a), List.filter_cons_of_pos isTied] at firsts
      obtain rfl := (List.cons.inj firsts).1
      refine congrArg _ (ih sortedX.tail sortedY.tail fun x => ?_)
      have rests := same x
      by_cases inClass : tied compare x a = true
      · rw [List.filter_cons_of_pos inClass, List.filter_cons_of_pos inClass] at rests
        exact (List.cons.inj rests).2
      · rwa [List.filter_cons_of_neg inClass, List.filter_cons_of_neg inClass] at rests

variable (compare)

/-- Where elements compare equal, sorting leaves the order that they were in before. -/
theorem pairwise_tied {before : α → α → Prop} {items : List α} (ordered : items.Pairwise before) :
    (stableSort compare items).Pairwise fun a b => compare a b = .eq → before a b := by
  rw [List.pairwise_iff_forall_sublist]
  intro a b sub equal
  have inClass := sub.filter (tied compare a)
  rw [filter_stableSort, List.filter_cons_of_pos (tied_self a),
    List.filter_cons_of_pos (tied_iff.2 equal)] at inClass
  exact List.pairwise_iff_forall_sublist.1 ordered (inClass.trans List.filter_sublist)

end One

/-! ## One comparison after another -/

theorem filter_tied_compareLex (major minor : α → α → Ordering) (x : α) (items : List α) :
    items.filter (tied (compareLex major minor) x) =
      (items.filter (tied major x)).filter (tied minor x) := by
  rw [List.filter_filter]
  refine List.filter_congr fun a _ => ?_
  rw [Bool.eq_iff_iff, Bool.and_eq_true, tied_iff, tied_iff, tied_iff, and_comm]
  exact Ordering.then_eq_eq

/-- **Sorting again** is sorting once, by the later comparison and then by the earlier one. -/
theorem stableSort_stableSort (major minor : α → α → Ordering) [Std.TransCmp major]
    [Std.TransCmp minor] (items : List α) :
    stableSort major (stableSort minor items) = stableSort (compareLex major minor) items := by
  refine eq_of_sameClasses ?_ (pairwise_stableSort (compareLex major minor) items) fun x => ?_
  · have byMajor := pairwise_stableSort major (stableSort minor items)
    have byMinor := pairwise_tied major (pairwise_stableSort minor items)
    refine byMajor.and byMinor |>.imp fun {a b} ⟨le, ties⟩ => ?_
    rw [compareLex, Ordering.isLE_then_iff_or]
    cases order : major a b with
    | lt => exact .inl rfl
    | eq => exact .inr ⟨rfl, ties order⟩
    | gt => simp [order] at le
  · have swap : ∀ xs : List α, (xs.filter (tied major x)).filter (tied minor x) =
        (xs.filter (tied minor x)).filter (tied major x) := by
      intro xs
      rw [List.filter_filter, List.filter_filter]
      exact List.filter_congr fun a _ => Bool.and_comm _ _
    rw [filter_stableSort, filter_tied_compareLex, filter_tied_compareLex, filter_stableSort, swap,
      filter_stableSort, swap]

/-! ## Several comparisons at once -/

/-- The first difference that one of the comparisons finds. -/
def lexicographic : List (α → α → Ordering) → α → α → Ordering
  | [] => fun _ _ => .eq
  | first :: rest => compareLex first (lexicographic rest)

theorem lexicographic_append (as bs : List (α → α → Ordering)) :
    lexicographic (as ++ bs) = compareLex (lexicographic as) (lexicographic bs) := by
  induction as with
  | nil => rfl
  | cons first rest ih =>
    funext a b
    simp only [List.cons_append, lexicographic, ih, compareLex, Ordering.then_assoc]

theorem lexicographic_eq_eq {comparisons : List (α → α → Ordering)} {a b : α} :
    lexicographic comparisons a b = .eq ↔ ∀ compare ∈ comparisons, compare a b = .eq := by
  induction comparisons with
  | nil => simp [lexicographic]
  | cons first rest ih => simp [lexicographic, compareLex, Ordering.then_eq_eq, ih]

theorem transCmp_lexicographic {comparisons : List (α → α → Ordering)}
    (all : ∀ compare ∈ comparisons, Std.TransCmp compare) :
    Std.TransCmp (lexicographic comparisons) := by
  induction comparisons with
  | nil => exact { eq_swap := rfl, isLE_trans := fun _ _ => rfl }
  | cons first rest ih =>
    obtain ⟨isFirst, areRest⟩ := List.forall_mem_cons.1 all
    have := ih areRest
    exact inferInstanceAs (Std.TransCmp (compareLex first (lexicographic rest)))

/-- Sorting by each group of comparisons in turn is sorting once, by the last group first. -/
theorem foldl_stableSort {groups : List (List (α → α → Ordering))}
    (all : ∀ group ∈ groups, ∀ compare ∈ group, Std.TransCmp compare) (items : List α) :
    groups.foldl (fun sorted group => stableSort (lexicographic group) sorted) items =
      stableSort (lexicographic groups.reverse.flatten) items := by
  induction groups using List.reverseRecOn with
  | nil => exact (List.mergeSort_of_pairwise (List.pairwise_of_forall fun _ _ => rfl)).symm
  | append_singleton groups group ih =>
    have earlier : ∀ group ∈ groups, ∀ compare ∈ group, Std.TransCmp compare :=
      fun group mem => all group (List.mem_append_left _ mem)
    have := transCmp_lexicographic (all group (List.mem_append_right _ List.mem_cons_self))
    have : Std.TransCmp (lexicographic groups.reverse.flatten) := by
      refine transCmp_lexicographic fun compare mem => ?_
      obtain ⟨group, inGroups, inGroup⟩ := List.mem_flatten.1 mem
      exact earlier group (List.mem_reverse.1 inGroups) compare inGroup
    rw [List.foldl_append, ih earlier, List.reverse_concat, List.flatten_cons, lexicographic_append]
    exact stableSort_stableSort _ _ items

/-- What is left out changes nothing if something in front of it finds every difference that it
does. -/
theorem lexicographic_filter {κ : Type} (compare : κ → α → α → Ordering) (kept : κ → Bool) :
    ∀ {keys : List κ}, (∀ before key after, keys = before ++ key :: after → kept key = false →
      ∃ decisive ∈ before, ∀ a b, compare decisive a b = .eq → compare key a b = .eq) →
    lexicographic ((keys.filter kept).map compare) = lexicographic (keys.map compare) := by
  intro keys
  induction keys using List.reverseRecOn with
  | nil => exact fun _ => rfl
  | append_singleton keys last ih =>
    intro redundant
    have rest := ih fun before key after split =>
      redundant before key (after ++ [last]) (by simp [split])
    rw [List.filter_append, List.map_append, List.map_append, lexicographic_append,
      lexicographic_append, rest]
    cases isKept : kept last with
    | true => simp [isKept]
    | false =>
      obtain ⟨decisive, mem, decides⟩ := redundant keys last [] rfl isKept
      funext a b
      simp only [List.filter_cons, isKept, List.filter_nil, compareLex, lexicographic, List.map_nil,
        List.map_cons]
      cases order : lexicographic (keys.map compare) a b with
      | lt => rfl
      | gt => rfl
      | eq =>
        have equal := lexicographic_eq_eq.1 order _ (List.mem_map_of_mem mem)
        rw [decides a b equal]
        rfl

end PlanCompiler
