/-
# Proofs.JsonRecord -- records are read back from their members

What is left out of a record when it is written is what is taken where nothing is given
(`Record.defaulted_of_memberIf`, `Record.optional_of_memberOf`), and members that stand in the
order in which the record declares them are all of its record (`record?_of_sublist`).
-/
import PlanCompiler.Json.Record

namespace PlanCompiler.Json

set_option autoImplicit false

variable {α : Type}

/-! ## Records -/

theorem map_fst_memberIf (given : Bool) (name : String) (value : Json) :
    ((memberIf given name value).map Prod.fst).Sublist [name] := by
  cases given <;> simp [memberIf]

theorem map_fst_memberOf (name : String) (write : α → Json) (value : Option α) :
    ((memberOf name write value).map Prod.fst).Sublist [name] := by
  cases value <;> simp [memberOf]

theorem map_fst_append {first second : List (String × Json)} {names others : List String}
    (isFirst : (first.map Prod.fst).Sublist names)
    (isSecond : (second.map Prod.fst).Sublist others) :
    ((first ++ second).map Prod.fst).Sublist (names ++ others) := by
  rw [List.map_append]
  exact isFirst.append isSecond

@[simp] theorem lookup_memberIf (given : Bool) (name other : String) (value : Json) :
    (memberIf given name value).lookup other =
      if other = name ∧ given = true then some value else none := by
  by_cases same : other = name
  · cases given <;> simp [memberIf, same]
  · have notKey : (other == name) = false := by simp [same]
    cases given <;> simp [memberIf, List.lookup_cons, notKey, same]

@[simp] theorem lookup_memberOf (name other : String) (write : α → Json) (value : Option α) :
    (memberOf name write value).lookup other =
      if other = name then value.map write else none := by
  by_cases same : other = name
  · cases value <;> simp [memberOf, same]
  · have notKey : (other == name) = false := by simp [same]
    cases value <;> simp [memberOf, List.lookup_cons, notKey, same]

/-- Members that are declared, in their order, are all there is to a record. -/
theorem record?_of_sublist {names : List String} {members : List (String × Json)}
    (declared : (members.map Prod.fst).Sublist names) (distinct : names.Nodup) :
    record? names (.object members) = some members := by
  have known : members.filter (fun entry => names.contains entry.1) = members := by
    refine List.filter_eq_self.2 fun entry mem => ?_
    exact List.contains_iff_mem.2 (declared.subset (List.mem_map_of_mem mem))
  have isDistinct := declared.nodup distinct
  change (if ((members.filter fun entry => names.contains entry.1).map Prod.fst).Nodup then
    some (members.filter fun entry => names.contains entry.1) else none) = _
  rw [known]
  exact if_pos isDistinct

namespace Record

variable {record : Record} {name : String} {read : Json → Option α} {value : α}

theorem required_of_lookup {json : Json} (found : record.lookup name = some json)
    (isRead : read json = some value) : record.required name read = some value := by
  rw [required, found]
  exact isRead

theorem defaulted_of_lookup {json : Json} {default : α} (found : record.lookup name = some json)
    (isRead : read json = some value) : record.defaulted name default read = some value := by
  rw [defaulted, found]
  exact isRead

/-- A value that is left out when it is the default. -/
theorem defaulted_of_memberIf {json : Json} {default : α} (given : Bool)
    (found : record.lookup name = if given then some json else none)
    (isRead : given = true → read json = some value) (isDefault : given = false → value = default) :
    record.defaulted name default read = some value := by
  unfold defaulted
  rw [found]
  cases given with
  | true => exact isRead rfl
  | false => exact congrArg some (isDefault rfl).symm

/-- A value that may be missing. -/
theorem optional_of_memberOf (write : α → Json) (value : Option α)
    (found : record.lookup name = value.map write) (notNull : ∀ given ∈ value, write given ≠ .null)
    (isRead : ∀ given ∈ value, read (write given) = some given) :
    record.optional name read = some value := by
  unfold optional
  rw [found]
  cases value with
  | none => rfl
  | some given =>
    simp only [Option.map_some]
    split
    · rename_i missing
      cases missing
    · rename_i null
      exact absurd (Option.some.inj null) (notNull given rfl)
    · rename_i same
      cases same
      rw [isRead given rfl]
      rfl

end Record

/-! ## Values -/

theorem uint32?_toNat (n : UInt32) : uint32? (.integer n.toNat) = some n := by
  have fits : (0 : Int) ≤ n.toNat ∧ (n.toNat : Int) < Nat.pow 2 32 :=
    ⟨Int.natCast_nonneg _, Int.ofNat_lt.2 n.toNat_lt⟩
  rw [uint32?, integerIn?, if_pos fits]
  exact congrArg some UInt32.ofNat_toNat

theorem uint64?_toNat (n : UInt64) : uint64? (.integer n.toNat) = some n := by
  have fits : (0 : Int) ≤ n.toNat ∧ (n.toNat : Int) < Nat.pow 2 64 :=
    ⟨Int.natCast_nonneg _, Int.ofNat_lt.2 n.toNat_lt⟩
  rw [uint64?, integerIn?, if_pos fits]
  exact congrArg some UInt64.ofNat_toNat

theorem nullable?_ofOption {read : Json → Option α} {write : α → Json}
    (notNull : ∀ given, write given ≠ .null) (isRead : ∀ given, read (write given) = some given)
    (value : Option α) : nullable? read (ofOption write value) = some value := by
  cases value with
  | none => rfl
  | some given =>
    unfold nullable? ofOption
    split
    · rename_i null
      exact absurd null (notNull given)
    · rw [isRead given]
      rfl

theorem keyword?_of_lookup (place : Place) {spellings : List (String × α)} {text : String}
    {value : α} (found : spellings.lookup text = some value) :
    keyword? place spellings (.string text) = some value :=
  found

theorem mapM_map {α β γ : Type} {read : γ → Option β} {write : α → γ} {f : α → β} {values : List α}
    (isRead : ∀ value ∈ values, read (write value) = some (f value)) :
    (values.map write).mapM read = some (values.map f) := by
  induction values with
  | nil => rfl
  | cons value rest ih =>
    obtain ⟨isFirst, areRest⟩ := List.forall_mem_cons.1 isRead
    rw [List.map_cons, List.mapM_cons, isFirst, ih areRest]
    rfl

theorem list?_map {read : Json → Option α} {write : α → Json} {values : List α}
    (isRead : ∀ value ∈ values, read (write value) = some value) :
    list? read (.array (values.map write)) = some values := by
  have all := mapM_map (f := id) isRead
  rw [List.map_id] at all
  exact all

end PlanCompiler.Json
