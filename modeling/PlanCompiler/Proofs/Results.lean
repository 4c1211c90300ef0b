/-
# Proofs.Results -- computations that may fail

What is known of the parts of a computation once its result is: the steps of one that
succeeds have succeeded themselves (`Except.bind_eq_ok`), and so has every element of a
list and every round of a loop.  One that fails does so in one of its steps
(`Except.bind_eq_error`), a list in the first of its elements that fails
(`Except.mapM_eq_error_iff`), and a loop in one of its rounds.
-/

namespace PlanCompiler

set_option autoImplicit false

theorem Except.bind_eq_ok {ε α β : Type} {x : Except ε α} {f : α → Except ε β} {b : β} :
    x >>= f = .ok b ↔ ∃ a, x = .ok a ∧ f a = .ok b := by
  cases x with
  | error e => simp [bind, Except.bind]
  | ok a => simp [bind, Except.bind]

theorem Except.bind_eq_error {ε α β : Type} {x : Except ε α} {f : α → Except ε β} {e : ε} :
    x >>= f = .error e ↔ x = .error e ∨ ∃ a, x = .ok a ∧ f a = .error e := by
  cases x with
  | error e' => simp [bind, Except.bind]
  | ok a => simp [bind, Except.bind]

theorem Except.map_eq_ok {ε α β : Type} {x : Except ε α} {f : α → β} {b : β} :
    f <$> x = .ok b ↔ ∃ a, x = .ok a ∧ f a = b := by
  cases x with
  | error e => simp [Functor.map, Except.map]
  | ok a => simp [Functor.map, Except.map]

theorem Except.toOption_eq_some {ε α : Type} {x : Except ε α} {a : α} :
    x.toOption = some a ↔ x = .ok a := by
  cases x with
  | error e => simp [Except.toOption]
  | ok a => simp [Except.toOption]

/-- What is known of a result is known of one that there is. -/
theorem Except.toOption_map_eq_some {ε α β : Type} {x : Except ε α} {f : α → β} {b : β} :
    x.toOption.map f = some b ↔ ∃ a, x = .ok a ∧ f a = b := by
  simp only [Option.map_eq_some_iff, Except.toOption_eq_some]

theorem Except.exists_of_mapM {ε α β : Type} {f : α → Except ε β} {as : List α} :
    ∀ {bs : List β}, as.mapM f = .ok bs → ∀ b ∈ bs, ∃ a ∈ as, f a = .ok b := by
  induction as with
  | nil =>
    intro bs succeeded
    cases succeeded
    exact fun b mem => absurd mem List.not_mem_nil
  | cons a as ih =>
    intro bs succeeded b mem
    rw [List.mapM_cons] at succeeded
    obtain ⟨first, isFirst, succeeded⟩ := Except.bind_eq_ok.1 succeeded
    obtain ⟨rest, areRest, same⟩ := Except.bind_eq_ok.1 succeeded
    cases same
    rcases List.mem_cons.1 mem with rfl | mem
    · exact ⟨a, List.mem_cons_self, isFirst⟩
    · obtain ⟨a', inRest, result⟩ := ih areRest b mem
      exact ⟨a', List.mem_cons_of_mem _ inRest, result⟩

theorem Except.exists_result_of_mapM {ε α β : Type} {f : α → Except ε β} {as : List α} :
    ∀ {bs : List β}, as.mapM f = .ok bs → ∀ a ∈ as, ∃ b ∈ bs, f a = .ok b := by
  induction as with
  | nil => exact fun _ => nofun
  | cons first rest ih =>
    intro bs succeeded
    rw [List.mapM_cons] at succeeded
    obtain ⟨b, isFirst, succeeded⟩ := Except.bind_eq_ok.1 succeeded
    obtain ⟨others, areOthers, same⟩ := Except.bind_eq_ok.1 succeeded
    cases same
    refine List.forall_mem_cons.2 ⟨⟨b, List.mem_cons_self, isFirst⟩, fun a mem => ?_⟩
    obtain ⟨b', inOthers, result⟩ := ih areOthers a mem
    exact ⟨b', List.mem_cons_of_mem _ inOthers, result⟩

/-- What fails for a list fails for the first of its elements that does. -/
theorem Except.mapM_eq_error_iff {ε α β : Type} {f : α → Except ε β} {e : ε} {as : List α} :
    as.mapM f = .error e ↔ ∃ before a after, as = before ++ a :: after ∧
      (∀ earlier ∈ before, ∃ b, f earlier = .ok b) ∧ f a = .error e := by
  constructor
  · intro failed
    induction as with
    | nil => cases failed
    | cons first rest ih =>
      rw [List.mapM_cons] at failed
      rcases Except.bind_eq_error.1 failed with isError | ⟨b, isFirst, failed⟩
      · exact ⟨[], first, rest, rfl, nofun, isError⟩
      · rcases Except.bind_eq_error.1 failed with others | ⟨_, -, returned⟩
        · obtain ⟨before, a, after, rfl, succeeded, isError⟩ := ih others
          have allBefore := List.forall_mem_cons.2 ⟨⟨b, isFirst⟩, succeeded⟩
          exact ⟨first :: before, a, after, rfl, allBefore, isError⟩
        · cases returned
  · rintro ⟨before, a, after, rfl, succeeded, isError⟩
    induction before with
    | nil =>
      rw [List.nil_append, List.mapM_cons, isError]
      rfl
    | cons first before ih =>
      obtain ⟨⟨b, isFirst⟩, succeeded⟩ := List.forall_mem_cons.1 succeeded
      rw [List.cons_append, List.mapM_cons, isFirst]
      exact Except.bind_eq_error.2 (.inr ⟨b, rfl, Except.bind_eq_error.2 (.inl (ih succeeded))⟩)

/-- What fails for a list fails for one of its elements. -/
theorem Except.exists_of_mapM_error {α β ε : Type} {f : α → Except ε β} {e : ε} {as : List α}
    (failed : as.mapM f = .error e) : ∃ a ∈ as, f a = .error e := by
  obtain ⟨before, a, after, rfl, -, isError⟩ := Except.mapM_eq_error_iff.1 failed
  exact ⟨a, List.mem_append_right _ List.mem_cons_self, isError⟩

/-- A loop fails in one of its rounds. -/
theorem Except.exists_of_foldlM_error {ε α β : Type} {f : β → α → Except ε β} {e : ε}
    {as : List α} : ∀ {b : β}, as.foldlM f b = .error e → ∃ a ∈ as, ∃ b, f b a = .error e := by
  induction as with
  | nil =>
    intro b failed
    cases failed
  | cons a rest ih =>
    intro b failed
    rw [List.foldlM_cons] at failed
    rcases Except.bind_eq_error.1 failed with first | ⟨next, -, others⟩
    · exact ⟨a, List.mem_cons_self, b, first⟩
    · obtain ⟨a', mem, isError⟩ := ih others
      exact ⟨a', List.mem_cons_of_mem _ mem, isError⟩

/-- What holds of a loop that succeeds, by induction on the rounds that it has made. -/
theorem Except.foldlM_induction {ε α β : Type} {f : β → α → Except ε β}
    {motive : List α → β → β → Prop} (done : ∀ b, motive [] b b)
    (round : ∀ {a : α} {rest : List α} {before next after : β}, f before a = .ok next →
      motive rest next after → motive (a :: rest) before after) {as : List α} :
    ∀ {before after : β}, as.foldlM f before = .ok after → motive as before after := by
  induction as with
  | nil =>
    intro before after succeeded
    cases succeeded
    exact done before
  | cons a rest ih =>
    intro before after succeeded
    rw [List.foldlM_cons] at succeeded
    obtain ⟨next, first, succeeded⟩ := Except.bind_eq_ok.1 succeeded
    exact round first (ih succeeded)

end PlanCompiler
