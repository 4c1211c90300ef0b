/-
# Proofs.PlanText -- a plan is read back from its JSON

A plan is written with each operation around the plan it refines, so it is read from the outside
in while it was written from the inside out.  What carries the proof is what is known of the
JSON of a part of the plan: whatever operations follow, it is read as its own operations with
those behind them (`Plan.Stands`).  Each operation keeps that (`Plan.Stands.operation`), and so
does a whole plan (`Plan.Stands.plan`).

Predicates and literals are read with fuel, the depth of their JSON, and nothing is lost by
giving them more.  What is left out when they are written, a target, arguments, `is_static` or
a mutator, is what is taken where nothing is given.

The texts of dates, times and identifiers are read back whatever they are
(`Proofs.ScalarText`), and so are integers.  Of floats it is a condition, as not every float is
(`5e54`); and a zoned time has to be one that the calendar has at UTC.
-/
import PlanCompiler.Plan.Json
import PlanCompiler.Proofs.JsonRecord
import PlanCompiler.Proofs.JsonText
import PlanCompiler.Proofs.RefusedPlans
import PlanCompiler.Proofs.ScalarText

namespace PlanCompiler

set_option autoImplicit false

open Json

/-! ## Literals -/

namespace Literal

mutual

/-- Every float in the literal is read back by itself, and every zoned time in it is a day of the
calendar at UTC. -/
def IsLegible : Literal → Prop
  | .float value => Json.read? (realText value) = some (.real value)
  | .dateTimeOffset value => ZonedDateTime.of? value.shown value.offset = some value
  | .array items => AreLegible items
  | _ => True

def AreLegible : List Literal → Prop
  | [] => True
  | item :: rest => IsLegible item ∧ AreLegible rest

end

theorem depth_tagged (kind : String) (value : Json) : (tagged kind value).depth = value.depth + 1 := by
  simp [tagged, depth, depthOfMembers]

theorem isLegible_tagged {kind : String} {value : Json} (legible : value.IsLegible) :
    (tagged kind value).IsLegible := by
  simp [tagged, Json.IsLegible, MembersAreLegible, legible]

/-- The kind of a literal and its value, as they are written. -/
theorem fields?_tagged (place : Place) {kind : String} (isKind : kind ∈ kinds) (value : Json) :
    fields? place (tagged kind value) = some (kind, some value, place) := by
  have found : ∀ kind ∈ kinds, (kinds.map fun kind => (kind, kind)).lookup kind = some kind := by
    decide
  rw [tagged, fields?]
  refine Option.bind_eq_some_iff.2 ⟨_, record?_of_sublist (List.Sublist.refl _) (by decide), ?_⟩
  refine Option.bind_eq_some_iff.2 ⟨_, Record.required_of_lookup (by simp)
    (keyword?_of_lookup place (found kind isKind)), ?_⟩
  simp [List.lookup_cons]

theorem fields?_null (place : Place) :
    fields? place (.object [("type", .string "null")]) = some ("null", none, place) := by
  rw [fields?]
  refine Option.bind_eq_some_iff.2 ⟨_, record?_of_sublist
    (List.Sublist.cons_cons _ (List.nil_sublist _)) (by decide), ?_⟩
  have isKind : (kinds.map fun kind => (kind, kind)).lookup "null" = some "null" := by decide
  refine Option.bind_eq_some_iff.2 ⟨_, Record.required_of_lookup List.lookup_cons_self
    (keyword?_of_lookup place isKind), ?_⟩
  simp [List.lookup_cons]

theorem int64?_toInt (value : Int64) : int64? (.integer value.toInt) = some value := by
  have fits : (-Nat.pow 2 63 : Int) ≤ value.toInt ∧ value.toInt < (Nat.pow 2 63 : Nat) :=
    ⟨value.le_toInt, value.toInt_lt⟩
  rw [int64?, integerIn?, if_pos fits]
  exact congrArg some (Int64.ofInt_toInt value)

theorem ofText?_ofList {α : Type} {read : List Char → Option α} (make : α → Literal)
    {text : List Char} {value : α} (isRead : read text = some value) :
    ofText? read make (.string (.ofList text)) = some (make value) := by
  rw [ofText?, String.toList_ofList, isRead]
  rfl

/-- Unsigned integers, whatever their JSON: with the integer itself in its place, the bound of
64 bits would be computed. -/
theorem ofJsonWithin?_unsigned (fuel : Nat) (place : Place) (json : Json) :
    ofJsonWithin? (fuel + 1) place (tagged "u_int" json) = json.uint64?.map .uint := by
  rw [ofJsonWithin?, fields?_tagged place (by decide)]
  simp

theorem depth_pos (value : Literal) : 0 < value.toJson.depth := by
  cases value <;> simp [toJson, textual, depth_tagged, depth]

mutual

/-- A literal is read back, with any fuel that is enough for its depth. -/
theorem ofJsonWithin?_toJson : ∀ (value : Literal) (fuel : Nat) (place : Place), value.IsLegible →
    value.toJson.depth ≤ fuel → ofJsonWithin? fuel place value.toJson = some value
  | value, 0, _, _, shallow => absurd value.depth_pos (by omega)
  | .null, fuel + 1, place, _, _ => by
    rw [toJson, ofJsonWithin?, fields?_null place]
    simp
  | .bool value, fuel + 1, place, _, _ => by
    rw [toJson, ofJsonWithin?, fields?_tagged place (by decide)]
    simp [bool?]
  | .int value, fuel + 1, place, _, _ => by
    rw [toJson, ofJsonWithin?, fields?_tagged place (by decide)]
    simp [int64?_toInt]
  | .uint value, fuel + 1, place, _, _ => by
    rw [toJson, ofJsonWithin?_unsigned, uint64?_toNat]
    rfl
  | .float value, fuel + 1, place, _, _ => by
    rw [toJson, ofJsonWithin?, fields?_tagged place (by decide)]
    simp [real?]
  | .string text, fuel + 1, place, _, _ => by
    rw [toJson, ofJsonWithin?, fields?_tagged place (by decide)]
    simp [string?]
  | .uuid value, fuel + 1, place, _, _ => by
    rw [toJson, textual, ofJsonWithin?, fields?_tagged place (by decide)]
    simp [ofText?_ofList Literal.uuid value.read?_text]
  | .dateTime value, fuel + 1, place, _, _ => by
    rw [toJson, textual, ofJsonWithin?, fields?_tagged place (by decide)]
    simp [ofText?_ofList Literal.dateTime value.read?_text]
  | .dateTimeOffset value, fuel + 1, place, legible, _ => by
    rw [IsLegible] at legible
    rw [toJson, textual, ofJsonWithin?, fields?_tagged place (by decide)]
    simp [ofText?_ofList Literal.dateTimeOffset (ZonedDateTime.read?_shortText legible)]
  | .date value, fuel + 1, place, _, _ => by
    rw [toJson, textual, ofJsonWithin?, fields?_tagged place (by decide)]
    simp [ofText?_ofList Literal.date value.read?_text]
  | .time value, fuel + 1, place, _, _ => by
    rw [toJson, textual, ofJsonWithin?, fields?_tagged place (by decide)]
    simp [ofText?_ofList Literal.time value.read?_text]
  | .array items, fuel + 1, place, legible, shallow => by
    rw [IsLegible] at legible
    rw [toJson, depth_tagged, depth] at shallow
    rw [toJson, ofJsonWithin?, fields?_tagged place (by decide)]
    simp [list?, mapM_itemsToJson items fuel place legible (by omega)]

theorem mapM_itemsToJson : ∀ (items : List Literal) (fuel : Nat) (place : Place),
    AreLegible items → depthOfItems (itemsToJson items) ≤ fuel →
    (itemsToJson items).mapM (ofJsonWithin? fuel place) = some items
  | [], _, _, _, _ => rfl
  | item :: rest, fuel, place, legible, shallow => by
    rw [AreLegible] at legible
    rw [itemsToJson, depthOfItems] at shallow
    rw [itemsToJson, List.mapM_cons, ofJsonWithin?_toJson item fuel place legible.1 (by omega),
      mapM_itemsToJson rest fuel place legible.2 (by omega)]
    rfl

end

mutual

/-- The JSON of a legible literal is legible. -/
theorem isLegible_toJson : ∀ value : Literal, value.IsLegible → value.toJson.IsLegible
  | .null, _ => by simp [toJson, Json.IsLegible, MembersAreLegible]
  | .bool value, _ => isLegible_tagged (by simp [Json.IsLegible])
  | .int value, _ => by
    refine isLegible_tagged ?_
    rw [Json.IsLegible]
    exact ⟨value.le_toInt, Int.lt_trans value.toInt_lt (by decide)⟩
  | .uint value, _ => by
    refine isLegible_tagged ?_
    rw [Json.IsLegible]
    exact isInteger_natural value.toNat_lt
  | .float value, legible => by
    rw [IsLegible] at legible
    refine isLegible_tagged ?_
    rw [Json.IsLegible]
    exact legible
  | .string _, _ | .uuid _, _ | .dateTime _, _ | .dateTimeOffset _, _ | .date _, _ | .time _, _ =>
    isLegible_tagged (by simp [Json.IsLegible])
  | .array items, legible => by
    rw [IsLegible] at legible
    refine isLegible_tagged ?_
    rw [Json.IsLegible]
    exact areLegible_itemsToJson items legible

theorem areLegible_itemsToJson : ∀ items : List Literal, AreLegible items →
    Json.AreLegible (itemsToJson items)
  | [], _ => by simp [itemsToJson, Json.AreLegible]
  | item :: rest, legible => by
    rw [AreLegible] at legible
    rw [itemsToJson, Json.AreLegible]
    exact ⟨isLegible_toJson item legible.1, areLegible_itemsToJson rest legible.2⟩

end

end Literal

/-! ## Predicates -/

namespace Predicate

section

variable {kind : String} {members : List (String × Json)}

theorem depth_choice (kind : String) (members : List (String × Json)) :
    (choice kind members).depth = depthOfMembers members + 1 := by
  simp [choice, depth, depthOfMembers]

theorem isLegible_choice (legible : ∀ member ∈ members, member.2.IsLegible) :
    (choice kind members).IsLegible := by
  rw [choice, Json.IsLegible, membersAreLegible_iff, List.forall_mem_cons]
  exact ⟨by simp [Json.IsLegible], legible⟩

theorem legible_memberIf {given : Bool} {name : String} {value : Json}
    (legible : value.IsLegible) : ∀ member ∈ memberIf given name value, member.2.IsLegible := by
  cases given with
  | false => exact nofun
  | true => exact List.forall_mem_singleton.2 legible

/-- The record of a choice is what stands beside its kind. -/
theorem choice?_choice (place : Place) {kinds : List String} (isKind : kind ∈ kinds)
    (apart : "type" ∉ members.map Prod.fst) :
    (choice kind members).choice? place kinds = some (kind, .object members) := by
  have others : ∀ member ∈ members, member.1 ≠ "type" := by
    rintro member mem same
    exact apart (same ▸ List.mem_map_of_mem mem)
  have noKind : members.filter (·.1 == "type") = [] :=
    List.filter_eq_nil_iff.2 fun member mem => by simp [others member mem]
  have rest : members.filter (·.1 != "type") = members :=
    List.filter_eq_self.2 fun member mem => by simp [others member mem]
  simp [choice, choice?, kind?, noKind, rest, isKind]

end

end Predicate

namespace Term

variable {Leaf : Type}

mutual

/-- The literals of the term, from left to right. -/
def literals : Term Leaf → List Literal
  | .leaf _ => []
  | .field _ => []
  | .literal value => [value]
  | .unary _ operand => literals operand
  | .binary _ left right => literals left ++ literals right
  | .conditional test whenTrue whenFalse =>
    literals test ++ literals whenTrue ++ literals whenFalse
  | .call _ target args _ => targetLiterals target ++ argsLiterals args

def targetLiterals : Option (Term Leaf) → List Literal
  | none => []
  | some target => literals target

def argsLiterals : List (Term Leaf) → List Literal
  | [] => []
  | arg :: rest => literals arg ++ argsLiterals rest

end

theorem argsLiterals_eq_flatMap (args : List (Term Leaf)) :
    argsLiterals args = args.flatMap literals := by
  induction args with
  | nil => rfl
  | cons arg rest ih => rw [argsLiterals, List.flatMap_cons, ih]

end Term

namespace Predicate

theorem targetToJson_eq_memberOf (target : Option Predicate) :
    targetToJson target = memberOf "target" toJson target := by
  cases target <;> simp [targetToJson, memberOf]

theorem argsToJson_eq_map (args : List Predicate) : argsToJson args = args.map toJson := by
  induction args with
  | nil => simp [argsToJson]
  | cons arg rest ih => rw [argsToJson, List.map_cons, ih]

theorem toJson_ne_null (p : Predicate) : p.toJson ≠ .null := by
  cases p with
  | leaf value => exact nomatch value
  | field | literal | unary | binary | conditional | call =>
    rw [toJson]
    exact Json.noConfusion

section

variable {name : String} {target : Option Predicate} {args : List Predicate} {isStatic : Bool}

theorem depth_target_lt {given : Predicate} (isTarget : target = some given) :
    given.toJson.depth < (toJson (.call name target args isStatic)).depth := by
  subst isTarget
  rw [toJson, depth_choice, targetToJson_eq_memberOf]
  exact Nat.lt_succ_of_le (depthOfMembers_le_iff.1 (Nat.le_refl _) ("target", given.toJson)
    (by simp [memberOf]))

theorem depth_arg_lt {arg : Predicate} (mem : arg ∈ args) :
    arg.toJson.depth < (toJson (.call name target args isStatic)).depth := by
  have given : (!args.isEmpty) = true := by simpa using List.ne_nil_of_mem mem
  have inArray : arg.toJson.depth < (Json.array (argsToJson args)).depth := by
    rw [depth, argsToJson_eq_map]
    exact Nat.lt_succ_of_le (depthOfItems_le_iff.1 (Nat.le_refl _) _ (List.mem_map_of_mem mem))
  rw [toJson, depth_choice]
  exact Nat.lt_of_lt_of_le inArray (Nat.le_succ_of_le (depthOfMembers_le_iff.1 (Nat.le_refl _)
    ("args", .array (argsToJson args)) (by simp [memberIf, given])))

/-- A call is read back if its target and its arguments are.  What is left out when it is
written is the default when it is read. -/
theorem ofJsonWithin?_call {fuel : Nat} (place : Place) (name : String) (isStatic : Bool)
    (isTarget : ∀ given ∈ target, ofJsonWithin? fuel .insideChoice (toJson given) = some given)
    (areArgs : ∀ arg ∈ args, ofJsonWithin? fuel .insideChoice (toJson arg) = some arg) :
    ofJsonWithin? (fuel + 1) place (toJson (.call name target args isStatic)) =
      some (.call name target args isStatic) := by
  have readArgs : list? (ofJsonWithin? fuel .insideChoice) (.array (argsToJson args)) =
      some args := by
    rw [argsToJson_eq_map]
    exact list?_map areArgs
  have noArgs : (!args.isEmpty) = false → args = [] :=
    fun absent => List.isEmpty_iff.1 (by simpa using absent)
  have declared : ((("name", Json.string name) :: memberOf "target" toJson target
      ++ memberIf (!args.isEmpty) "args" (.array (argsToJson args))
      ++ memberIf isStatic "is_static" (.bool isStatic)).map Prod.fst).Sublist
        ["name", "target", "args", "is_static"] :=
    (map_fst_append (map_fst_append (map_fst_memberOf _ _ _) (map_fst_memberIf _ _ _))
      (map_fst_memberIf _ _ _)).cons_cons _
  rw [toJson, ofJsonWithin?, targetToJson_eq_memberOf]
  refine Option.bind_eq_some_iff.2 ⟨_, choice?_choice place (by decide)
    (fun mem => absurd (declared.subset mem) (by decide)), ?_⟩
  refine Option.bind_eq_some_iff.2 ⟨_, record?_of_sublist declared (by decide), ?_⟩
  refine Option.bind_eq_some_iff.2 ⟨_, Record.required_of_lookup (by simp)
    (rfl : string? (.string name) = _), ?_⟩
  refine Option.bind_eq_some_iff.2 ⟨_, Record.optional_of_memberOf toJson target
    (by simp [List.lookup_cons, List.lookup_append]) (fun given _ => toJson_ne_null given)
    isTarget, ?_⟩
  refine Option.bind_eq_some_iff.2 ⟨_, Record.defaulted_of_memberIf (!args.isEmpty)
    (by simp [List.lookup_cons, List.lookup_append]) (fun _ => readArgs) noArgs, ?_⟩
  refine Option.bind_eq_some_iff.2 ⟨_, Record.defaulted_of_memberIf isStatic
    (by simp [List.lookup_cons, List.lookup_append]) (fun _ => (rfl : bool? (.bool isStatic) = _))
    id, ?_⟩
  rfl

end

/-- A predicate is read back, with any fuel that is enough for its depth. -/
theorem ofJsonWithin?_toJson (p : Predicate) : ∀ (fuel : Nat) (place : Place),
    (∀ value ∈ p.literals, value.IsLegible) → p.toJson.depth ≤ fuel →
    ofJsonWithin? fuel place p.toJson = some p := by
  induction p using Term.induct with
  | leaf value => exact nomatch value
  | field name =>
    intro fuel place legible shallow
    rw [toJson, depth_choice] at shallow
    obtain ⟨fuel, rfl⟩ : ∃ more, fuel = more + 1 := ⟨fuel - 1, by omega⟩
    rw [toJson, ofJsonWithin?]
    refine Option.bind_eq_some_iff.2 ⟨_, choice?_choice place (by decide) (by simp), ?_⟩
    refine Option.bind_eq_some_iff.2 ⟨_, record?_of_sublist (List.Sublist.refl _) (by decide), ?_⟩
    refine Option.bind_eq_some_iff.2 ⟨_, Record.required_of_lookup (by simp)
      (rfl : string? (.string name) = _), ?_⟩
    rfl
  | literal value =>
    intro fuel place legible shallow
    rw [toJson, depth_choice] at shallow
    obtain ⟨fuel, rfl⟩ : ∃ more, fuel = more + 1 := ⟨fuel - 1, by omega⟩
    have isRead := value.ofJsonWithin?_toJson value.toJson.depth .insideChoice
      (legible value List.mem_cons_self) (Nat.le_refl _)
    rw [toJson, ofJsonWithin?]
    refine Option.bind_eq_some_iff.2 ⟨_, choice?_choice place (by decide) (by simp), ?_⟩
    refine Option.bind_eq_some_iff.2 ⟨_, record?_of_sublist (List.Sublist.refl _) (by decide), ?_⟩
    refine Option.bind_eq_some_iff.2 ⟨_, Record.required_of_lookup (by simp) isRead, ?_⟩
    rfl
  | unary op operand ih =>
    intro fuel place legible shallow
    rw [toJson, depth_choice] at shallow
    simp only [depthOfMembers] at shallow
    obtain ⟨fuel, rfl⟩ : ∃ more, fuel = more + 1 := ⟨fuel - 1, by omega⟩
    have isOperand := ih fuel .insideChoice legible (by omega)
    rw [toJson, ofJsonWithin?]
    refine Option.bind_eq_some_iff.2 ⟨_, choice?_choice place (by decide) (by simp), ?_⟩
    refine Option.bind_eq_some_iff.2 ⟨_, record?_of_sublist (List.Sublist.refl _) (by decide), ?_⟩
    refine Option.bind_eq_some_iff.2 ⟨_, Record.required_of_lookup (by simp)
      (keyword?_of_lookup .insideChoice op.spelling_read), ?_⟩
    refine Option.bind_eq_some_iff.2 ⟨_, Record.required_of_lookup (by simp [List.lookup_cons])
      isOperand, ?_⟩
    rfl
  | binary op left right ihLeft ihRight =>
    intro fuel place legible shallow
    rw [Term.literals, List.forall_mem_append] at legible
    rw [toJson, depth_choice] at shallow
    simp only [depthOfMembers] at shallow
    obtain ⟨fuel, rfl⟩ : ∃ more, fuel = more + 1 := ⟨fuel - 1, by omega⟩
    have isLeft := ihLeft fuel .insideChoice legible.1 (by omega)
    have isRight := ihRight fuel .insideChoice legible.2 (by omega)
    rw [toJson, ofJsonWithin?]
    refine Option.bind_eq_some_iff.2 ⟨_, choice?_choice place (by decide) (by simp), ?_⟩
    refine Option.bind_eq_some_iff.2 ⟨_, record?_of_sublist (List.Sublist.refl _) (by decide), ?_⟩
    refine Option.bind_eq_some_iff.2 ⟨_, Record.required_of_lookup (by simp)
      (keyword?_of_lookup .insideChoice op.spelling_read), ?_⟩
    refine Option.bind_eq_some_iff.2 ⟨_, Record.required_of_lookup (by simp [List.lookup_cons])
      isLeft, ?_⟩
    refine Option.bind_eq_some_iff.2 ⟨_, Record.required_of_lookup (by simp [List.lookup_cons])
      isRight, ?_⟩
    rfl
  | conditional test whenTrue whenFalse ihTest ihTrue ihFalse =>
    intro fuel place legible shallow
    rw [Term.literals, List.forall_mem_append, List.forall_mem_append] at legible
    obtain ⟨⟨legibleTest, legibleTrue⟩, legibleFalse⟩ := legible
    rw [toJson, depth_choice] at shallow
    simp only [depthOfMembers] at shallow
    obtain ⟨fuel, rfl⟩ : ∃ more, fuel = more + 1 := ⟨fuel - 1, by omega⟩
    have isTest := ihTest fuel .insideChoice legibleTest (by omega)
    have isTrue := ihTrue fuel .insideChoice legibleTrue (by omega)
    have isFalse := ihFalse fuel .insideChoice legibleFalse (by omega)
    rw [toJson, ofJsonWithin?]
    refine Option.bind_eq_some_iff.2 ⟨_, choice?_choice place (by decide) (by simp), ?_⟩
    refine Option.bind_eq_some_iff.2 ⟨_, record?_of_sublist (List.Sublist.refl _) (by decide), ?_⟩
    refine Option.bind_eq_some_iff.2 ⟨_, Record.required_of_lookup (by simp) isTest, ?_⟩
    refine Option.bind_eq_some_iff.2 ⟨_, Record.required_of_lookup (by simp [List.lookup_cons])
      isTrue, ?_⟩
    refine Option.bind_eq_some_iff.2 ⟨_, Record.required_of_lookup (by simp [List.lookup_cons])
      isFalse, ?_⟩
    rfl
  | call name target args isStatic ihTarget ihArgs =>
    intro fuel place legible shallow
    rw [Term.literals, List.forall_mem_append, Term.argsLiterals_eq_flatMap,
      List.forall_mem_flatMap] at legible
    cases fuel with
    | zero =>
      rw [toJson, depth_choice] at shallow
      exact absurd shallow (Nat.not_succ_le_zero _)
    | succ fuel =>
      refine ofJsonWithin?_call place name isStatic ?_ ?_
      · rintro given rfl
        exact ihTarget given rfl fuel .insideChoice legible.1
          (Nat.le_of_lt_succ (Nat.lt_of_lt_of_le (depth_target_lt rfl) shallow))
      · intro arg mem
        exact ihArgs arg mem fuel .insideChoice (legible.2 arg mem)
          (Nat.le_of_lt_succ (Nat.lt_of_lt_of_le (depth_arg_lt mem) shallow))

theorem readAt?_toJson {p : Predicate} (place : Place)
    (legible : ∀ value ∈ p.literals, value.IsLegible) : readAt? place p.toJson = some p :=
  p.ofJsonWithin?_toJson _ place legible (Nat.le_refl _)

/-- The JSON of a predicate is legible if its literals are. -/
theorem isLegible_toJson (p : Predicate) :
    (∀ value ∈ p.literals, value.IsLegible) → p.toJson.IsLegible := by
  have isText (text : String) : (Json.string text).IsLegible := by simp [Json.IsLegible]
  have isFlag (b : Bool) : (Json.bool b).IsLegible := by simp [Json.IsLegible]
  induction p using Term.induct with
  | leaf value => exact nomatch value
  | field name =>
    intro legible
    rw [toJson]
    exact isLegible_choice (List.forall_mem_singleton.2 (isText name))
  | literal value =>
    intro legible
    rw [toJson]
    exact isLegible_choice (List.forall_mem_singleton.2
      (value.isLegible_toJson (legible value List.mem_cons_self)))
  | unary op operand ih =>
    intro legible
    rw [toJson]
    refine isLegible_choice ?_
    simp only [List.forall_mem_cons]
    exact ⟨isText _, ih legible, nofun⟩
  | binary op left right ihLeft ihRight =>
    intro legible
    rw [Term.literals, List.forall_mem_append] at legible
    rw [toJson]
    refine isLegible_choice ?_
    simp only [List.forall_mem_cons]
    exact ⟨isText _, ihLeft legible.1, ihRight legible.2, nofun⟩
  | conditional test whenTrue whenFalse ihTest ihTrue ihFalse =>
    intro legible
    rw [Term.literals, List.forall_mem_append, List.forall_mem_append] at legible
    rw [toJson]
    refine isLegible_choice ?_
    simp only [List.forall_mem_cons]
    exact ⟨ihTest legible.1.1, ihTrue legible.1.2, ihFalse legible.2, nofun⟩
  | call name target args isStatic ihTarget ihArgs =>
    intro legible
    rw [Term.literals, List.forall_mem_append, Term.argsLiterals_eq_flatMap,
      List.forall_mem_flatMap] at legible
    have areArgs : (Json.array (argsToJson args)).IsLegible := by
      rw [Json.IsLegible, areLegible_iff, argsToJson_eq_map, List.forall_mem_map]
      exact fun arg mem => ihArgs arg mem (legible.2 arg mem)
    have isTarget : ∀ member ∈ targetToJson target, member.2.IsLegible := by
      cases target with
      | none => exact nofun
      | some target => exact List.forall_mem_singleton.2 (ihTarget target rfl legible.1)
    rw [toJson]
    refine isLegible_choice ?_
    rw [List.cons_append, List.cons_append, List.forall_mem_cons, List.forall_mem_append,
      List.forall_mem_append]
    exact ⟨isText name, ⟨isTarget, legible_memberIf areArgs⟩, legible_memberIf (isFlag isStatic)⟩

end Predicate

/-! ## Operations -/

namespace Shape

/-- The literals of the shape, from left to right. -/
def literals : Shape → List Literal
  | .row => []
  | .field _ => []
  | .composite members => members.flatMap Term.literals

theorem readAt?_toJson {shape : Shape} (place : Place)
    (legible : ∀ value ∈ shape.literals, value.IsLegible) :
    readAt? place shape.toJson = some shape := by
  cases shape with
  | row =>
    rw [readAt?, toJson]
    refine Option.bind_eq_some_iff.2 ⟨_, Predicate.choice?_choice place (by decide) (by simp), ?_⟩
    rfl
  | field name =>
    rw [readAt?, toJson]
    refine Option.bind_eq_some_iff.2 ⟨_, Predicate.choice?_choice place (by decide) (by simp), ?_⟩
    refine Option.bind_eq_some_iff.2 ⟨_, record?_of_sublist (List.Sublist.refl _) (by decide), ?_⟩
    refine Option.bind_eq_some_iff.2 ⟨_, Record.required_of_lookup (by simp)
      (rfl : string? (.string name) = _), ?_⟩
    rfl
  | composite members =>
    rw [literals, List.forall_mem_flatMap] at legible
    have areMembers : list? (Predicate.readAt? .insideChoice)
        (.array (members.map Predicate.toJson)) = some members :=
      list?_map fun p mem => Predicate.readAt?_toJson .insideChoice (legible p mem)
    rw [readAt?, toJson]
    refine Option.bind_eq_some_iff.2 ⟨_, Predicate.choice?_choice place (by decide) (by simp), ?_⟩
    refine Option.bind_eq_some_iff.2 ⟨_, record?_of_sublist (List.Sublist.refl _) (by decide), ?_⟩
    refine Option.bind_eq_some_iff.2 ⟨_, Record.required_of_lookup (by simp) areMembers, ?_⟩
    rfl

theorem isLegible_toJson {shape : Shape}
    (legible : ∀ value ∈ shape.literals, value.IsLegible) : shape.toJson.IsLegible := by
  cases shape with
  | row => exact Predicate.isLegible_choice nofun
  | field name =>
    exact Predicate.isLegible_choice (List.forall_mem_singleton.2 (by simp [Json.IsLegible]))
  | composite members =>
    rw [literals, List.forall_mem_flatMap] at legible
    refine Predicate.isLegible_choice (List.forall_mem_singleton.2 ?_)
    rw [Json.IsLegible, areLegible_iff, List.forall_mem_map]
    exact fun p mem => p.isLegible_toJson (legible p mem)

end Shape

namespace Operation

/-- The literals of the operation, from left to right. -/
def literals : Operation → List Literal
  | .filter predicate => predicate.literals
  | .sortBy key _ => key.literals
  | .thenSortBy key _ => key.literals
  | .skip _ => []
  | .take _ => []
  | .project shape _ => shape.literals

/-- What an operation has to be to be read back: its literals are legible, and its mutator has an
index of 64 bits. -/
structure IsLegible (operation : Operation) : Prop where
  literals : ∀ value ∈ operation.literals, value.IsLegible
  mutator : ∀ id ∈ operation.mutator?, id < Nat.pow 2 64

theorem mutatorOfJson?_ofNat {id : Nat} (fits : id < Nat.pow 2 64) :
    mutatorOfJson? (.integer (Int.ofNat id)) = some id := by
  have same : (UInt64.ofNat id).toNat = id := UInt64.toNat_ofNat_of_lt fits
  have isRead := uint64?_toNat (UInt64.ofNat id)
  rw [same] at isRead
  rw [mutatorOfJson?]
  change (uint64? (.integer id)).map UInt64.toNat = some id
  rw [isRead, Option.map_some, same]

variable {operation : Operation} {source : Json}

theorem depth_lt_toJson (operation : Operation) (source : Json) :
    source.depth < (operation.toJson source).depth := by
  have within : ∀ kind members name, (name, source) ∈ members →
      source.depth < (Predicate.choice kind members).depth := by
    intro kind members name mem
    rw [Predicate.depth_choice]
    exact Nat.lt_succ_of_le (depthOfMembers_le_iff.1 (Nat.le_refl _) (name, source) mem)
  cases operation <;> exact within _ _ "source" (by simp)

/-- An operation is read back from its record, along with the plan it refines. -/
theorem ofRecord?_toJson (source : Json) (place : Place) (legible : operation.IsLegible) :
    ∃ kind json, (operation.toJson source).choice? place Plan.kinds = some (kind, json) ∧
      kind ≠ "source" ∧ ofRecord? kind json = some (operation, source) := by
  have isLiteral := legible.literals
  cases operation with
  | filter predicate =>
    rw [toJson]
    refine ⟨_, _, Predicate.choice?_choice place (by decide) (by simp), by decide, ?_⟩
    rw [ofRecord?]
    refine Option.bind_eq_some_iff.2 ⟨_, record?_of_sublist (List.Sublist.refl _) (by decide), ?_⟩
    refine Option.bind_eq_some_iff.2 ⟨_, Record.required_of_lookup (by simp)
      (Predicate.readAt?_toJson .insideChoice isLiteral), ?_⟩
    refine Option.bind_eq_some_iff.2 ⟨_, Record.required_of_lookup (by simp [List.lookup_cons])
      (rfl : some source = _), ?_⟩
    rfl
  | sortBy key direction | thenSortBy key direction =>
    rw [toJson]
    refine ⟨_, _, Predicate.choice?_choice place (by decide) (by simp), by decide, ?_⟩
    rw [ofRecord?]
    refine Option.bind_eq_some_iff.2 ⟨_, record?_of_sublist (List.Sublist.refl _) (by decide), ?_⟩
    refine Option.bind_eq_some_iff.2 ⟨_, Record.required_of_lookup (by simp)
      (Predicate.readAt?_toJson .insideChoice isLiteral), ?_⟩
    refine Option.bind_eq_some_iff.2 ⟨_, Record.required_of_lookup (by simp [List.lookup_cons])
      (keyword?_of_lookup .insideChoice direction.spelling_read), ?_⟩
    refine Option.bind_eq_some_iff.2 ⟨_, Record.required_of_lookup (by simp [List.lookup_cons])
      (rfl : some source = _), ?_⟩
    rfl
  | skip count | take count =>
    rw [toJson]
    refine ⟨_, _, Predicate.choice?_choice place (by decide) (by simp), by decide, ?_⟩
    rw [ofRecord?]
    refine Option.bind_eq_some_iff.2 ⟨_, record?_of_sublist (List.Sublist.refl _) (by decide), ?_⟩
    refine Option.bind_eq_some_iff.2 ⟨_, Record.required_of_lookup (by simp)
      (uint64?_toNat count), ?_⟩
    refine Option.bind_eq_some_iff.2 ⟨_, Record.required_of_lookup (by simp [List.lookup_cons])
      (rfl : some source = _), ?_⟩
    rfl
  | project shape mutator =>
    have declared : ((("shape", shape.toJson) :: (memberOf "mutator"
        (fun id : Nat => Json.integer (Int.ofNat id)) mutator ++ [("source", source)])).map
          Prod.fst).Sublist ["shape", "mutator", "source"] :=
      (map_fst_append (map_fst_memberOf _ _ _) (List.Sublist.refl _)).cons_cons _
    rw [toJson]
    refine ⟨_, _, Predicate.choice?_choice place (by decide)
      (fun mem => absurd (declared.subset mem) (by decide)), by decide, ?_⟩
    rw [ofRecord?]
    refine Option.bind_eq_some_iff.2 ⟨_, record?_of_sublist declared (by decide), ?_⟩
    refine Option.bind_eq_some_iff.2 ⟨_, Record.required_of_lookup (by simp)
      (Shape.readAt?_toJson .insideChoice isLiteral), ?_⟩
    refine Option.bind_eq_some_iff.2 ⟨_, Record.optional_of_memberOf _ mutator
      (by simp [List.lookup_cons, List.lookup_append]) (fun _ _ => Json.noConfusion)
      (fun id mem => mutatorOfJson?_ofNat (legible.mutator id mem)), ?_⟩
    refine Option.bind_eq_some_iff.2 ⟨_, Record.required_of_lookup
      (by simp [List.lookup_cons, List.lookup_append]) (rfl : some source = _), ?_⟩
    rfl

theorem isLegible_toJson (legible : operation.IsLegible) (isSource : source.IsLegible) :
    (operation.toJson source).IsLegible := by
  have isLiteral := legible.literals
  have isText (text : String) : (Json.string text).IsLegible := by simp [Json.IsLegible]
  have isCount (count : UInt64) : (Json.integer count.toNat).IsLegible := by
    rw [Json.IsLegible]
    exact isInteger_natural count.toNat_lt
  cases operation with
  | filter predicate =>
    refine Predicate.isLegible_choice ?_
    simp only [List.forall_mem_cons]
    exact ⟨predicate.isLegible_toJson isLiteral, isSource, nofun⟩
  | sortBy key direction | thenSortBy key direction =>
    refine Predicate.isLegible_choice ?_
    simp only [List.forall_mem_cons]
    exact ⟨key.isLegible_toJson isLiteral, isText _, isSource, nofun⟩
  | skip count | take count =>
    refine Predicate.isLegible_choice ?_
    simp only [List.forall_mem_cons]
    exact ⟨isCount count, isSource, nofun⟩
  | project shape mutator =>
    have isMutator : ∀ member ∈ memberOf "mutator"
        (fun id : Nat => Json.integer (Int.ofNat id)) mutator, member.2.IsLegible := by
      cases mutator with
      | none => exact nofun
      | some id =>
        refine List.forall_mem_singleton.2 ?_
        rw [Json.IsLegible]
        exact isInteger_natural (legible.mutator id rfl)
    refine Predicate.isLegible_choice ?_
    rw [List.forall_mem_cons, List.forall_mem_append, List.forall_mem_singleton]
    exact ⟨Shape.isLegible_toJson isLiteral, isMutator, isSource⟩

end Operation

/-! ## Plans -/

namespace Plan

/-- The JSON stands for a plan: it is legible, and whatever operations follow, it is read as the
plan with those behind it. -/
structure Stands (json : Json) (plan : Plan) : Prop where
  legible : json.IsLegible
  isRead : ∀ size place later, json.depth ≤ size →
    ofJsonWithin? size place json later = some (plan ++ later)

/-- The source stands for the plan without operations. -/
theorem Stands.source : Stands (Predicate.choice "source" []) [] where
  legible := Predicate.isLegible_choice nofun
  isRead size place later shallow := by
    rw [Predicate.depth_choice] at shallow
    obtain ⟨size, rfl⟩ : ∃ more, size = more + 1 := ⟨size - 1, by omega⟩
    rw [ofJsonWithin?]
    refine Option.bind_eq_some_iff.2 ⟨_, Predicate.choice?_choice place (by decide) (by simp), ?_⟩
    rfl

/-- One operation more. -/
theorem Stands.operation {json : Json} {plan : Plan} (stands : Stands json plan)
    {operation : Operation} (legible : operation.IsLegible) :
    Stands (operation.toJson json) (plan ++ [operation]) where
  legible := Operation.isLegible_toJson legible stands.legible
  isRead size place later shallow := by
    have deeper := operation.depth_lt_toJson json
    obtain ⟨size, rfl⟩ : ∃ more, size = more + 1 := ⟨size - 1, by omega⟩
    obtain ⟨kind, rest, isChoice, notSource, isRecord⟩ :=
      Operation.ofRecord?_toJson json place legible
    -- the operation is found first and the plan it refines is read for it to follow
    rw [ofJsonWithin?, isChoice]
    simp only [Option.bind_eq_bind, Option.bind_some, if_neg notSource, isRecord]
    rw [stands.isRead size .insideChoice (operation :: later) (by omega), List.append_assoc]
    rfl

/-- Any number of operations more. -/
theorem Stands.plan {json : Json} {before : Plan} (stands : Stands json before) (plan : Plan)
    (legible : ∀ operation ∈ plan, operation.IsLegible) :
    Stands (toJsonFrom json plan) (before ++ plan) := by
  induction plan generalizing json before with
  | nil =>
    rw [toJsonFrom, List.append_nil]
    exact stands
  | cons operation rest ih =>
    obtain ⟨isFirst, areRest⟩ := List.forall_mem_cons.1 legible
    rw [toJsonFrom, List.append_cons]
    exact ih (stands.operation isFirst) areRest

/-- The literals of the plan, from its first operation to its last. -/
def literals (plan : Plan) : List Literal :=
  plan.flatMap Operation.literals

/-- **A plan is read back from its JSON**, be it on one line or over several, if that is nested
no deeper than can be read, every literal in it is legible and its mutators have indices of 64
bits. -/
theorem printed_reread {plan : Plan} (literals : ∀ value ∈ plan.literals, value.IsLegible)
    (mutators : ∀ id ∈ plan.mutatorIds, id < Nat.pow 2 64)
    (shallow : plan.toJson.depth ≤ Json.maxDepth) :
    (Json.read? plan.toJson.compact).bind ofJson? = some plan ∧
      (Json.read? plan.toJson.pretty).bind ofJson? = some plan := by
  have legible : ∀ operation ∈ plan, operation.IsLegible := fun operation mem =>
    { literals := fun value isIn => literals value (List.mem_flatMap.2 ⟨operation, mem, isIn⟩)
      mutator := fun id isIn => mutators id (List.mem_filterMap.2 ⟨operation, mem, isIn⟩) }
  have stands : Stands plan.toJson plan := Stands.source.plan plan legible
  have isRead : ofJson? plan.toJson = some plan := by
    rw [ofJson?, whole?, if_pos (isUsable_of_isLegible _ stands.legible),
      stands.isRead _ .outside [] (Nat.le_refl _), List.append_nil]
  constructor
  · rw [read?_compact stands.legible shallow]
    exact isRead
  · rw [read?_pretty stands.legible shallow]
    exact isRead

/-- Whether the value is this float. -/
def isReal (x : Float) : Json → Bool
  | .real y => decide (y = x)
  | _ => false

theorem eq_real_of_isReal {x : Float} {v : Json} (same : isReal x v = true) : v = .real x := by
  cases v with
  | real y => exact congrArg Json.real (of_decide_eq_true same)
  | _ => cases same

/-- The leap second at the end of 2016, as clocks an hour and a half behind UTC showed it. -/
def leapSecond : ZonedDateTime :=
  ⟨⟨⟨2016, 12, 31, by decide⟩, ⟨22, 29, 59, 1250000000, by decide, by decide, by decide, by decide,
    by decide⟩⟩, -90, by decide⟩

/-- A plan with literals of several kinds, some in a nested array, and calls with and without a
target. -/
def lateVisits : Plan := [
  .filter (.andAlso
    (.not (.callStatic "IsNullOrEmpty" [.field "Name"]))
    (.isIn (.field "Rating") [.null, .float 1.5, .array [.uint 7, .uuid ⟨0xf47ac10b58cc4372⟩]])),
  .sortBy (.conditional (.lessThan (.field "At") (.literal (.dateTimeOffset leapSecond)))
    (.member (.field "At") "Hour") .null) .descending,
  .thenSortBy (.field "Name") .ascending,
  .project (.fields ["Name", "At"]) none,
  .skip 20,
  .project (.composite [.literal (.date ⟨-44, 3, 15, by decide⟩), .negate (.field "Rating")])
    (some 3)]

theorem printed_lateVisits :
    (∀ value ∈ lateVisits.literals, value.IsLegible) ∧
      (∀ id ∈ lateVisits.mutatorIds, id < Nat.pow 2 64) ∧
      lateVisits.toJson.depth ≤ Json.maxDepth ∧
      (Json.read? lateVisits.toJson.compact).bind ofJson? = some lateVisits ∧
      (Json.read? lateVisits.toJson.pretty).bind ofJson? = some lateVisits := by
  have half : Json.read? (realText 1.5) = some (.real 1.5) := by
    have agrees : (Json.read? (realText 1.5)).any (isReal 1.5) = true := by decide +kernel
    obtain ⟨v, isRead, same⟩ := (Option.any_eq_true _ _).1 agrees
    rw [isRead, eq_real_of_isReal same]
  have moment : ZonedDateTime.of? leapSecond.shown leapSecond.offset = some leapSecond := by
    rw [ZonedDateTime.of?, dif_pos leapSecond.offset_bound]
    exact if_pos (by decide)
  have legible : ∀ value ∈ lateVisits.literals, value.IsLegible := by
    change ∀ value ∈ [Literal.array [.null, .float 1.5, .array [.uint 7,
      .uuid ⟨0xf47ac10b58cc4372⟩]], .dateTimeOffset leapSecond, .null,
      .date ⟨-44, 3, 15, by decide⟩], value.IsLegible
    simp [Literal.IsLegible, Literal.AreLegible, half, moment]
  have mutators : ∀ id ∈ lateVisits.mutatorIds, id < Nat.pow 2 64 := by decide +kernel
  have shallow : lateVisits.toJson.depth ≤ Json.maxDepth := by decide +kernel
  exact ⟨legible, mutators, shallow, printed_reread legible mutators shallow⟩

end Plan

end PlanCompiler
