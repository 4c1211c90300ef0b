/-
# Proofs.Grouping -- trees whose text is grouped in another way

Operations stand in parentheses when they are written, and negations do not: `NOT (a)`
encloses its operand only.  `NOT` binds more weakly than comparisons, null tests,
`LIKE`, `IN` and calculations.  Where it comes first under one of these, the text is
therefore read as the negation of the whole operation (`floated`), and where it comes
second, the text cannot be read at all.

`regrouped` is the tree that the text of a tree is read as.  It is the tree itself
exactly when no negation stands as such an operand (`regrouped_eq_some_iff`).
-/
import PlanCompiler.Proofs.WrittenPieces

namespace PlanCompiler.Sql

set_option autoImplicit false

namespace Expression

/-! ## What is read back -/

def isNot : Expression → Bool
  | .not _ => true
  | _ => false

/-- An operation whose first operand is this tree, read as this other tree: `NOT` goes around. -/
def floated (node : Expression → Expression) (operand read : Expression) : Expression :=
  match operand, read with
  | .not _, .not inner => .not (node inner)
  | _, read => node read

mutual

/-- The tree that the text of a tree is read as. -/
def regrouped : Expression → Option Expression
  | .column source => some (.column source)
  | .value literal => some (.value literal)
  | .raw words => some (.raw words)
  | .and left right => do return .and (← regrouped left) (← regrouped right)
  | .or left right => do return .or (← regrouped left) (← regrouped right)
  | .not operand => do return .not (← regrouped operand)
  | .unary .negate operand => do return .unary .negate (← regrouped operand)
  | .unary test operand => do return floated (.unary test) operand (← regrouped operand)
  | .binary op left right => do
    let left' ← regrouped left
    let right' ← if right.isNot then none else regrouped right
    return floated (fun first => .binary op first right') left left'
  | .inList item items => do
    let item' ← regrouped item
    let items' ← allRegrouped items
    return floated (fun first => .inList first items') item item'
  | .function f args => do return .function f (← allRegrouped args)

def allRegrouped : List Expression → Option (List Expression)
  | [] => some []
  | e :: rest => do return (← regrouped e) :: (← allRegrouped rest)

end

mutual

/-- The tree with a placeholder for each value, numbered from left to right. -/
def numbered (position : Nat) : Expression → Expression
  | .column source => .column source
  | .value _ => .raw (parameterName position)
  | .raw words => .raw words
  | .and left right =>
    .and (numbered position left) (numbered (position + left.leafValues.length) right)
  | .or left right =>
    .or (numbered position left) (numbered (position + left.leafValues.length) right)
  | .not operand => .not (numbered position operand)
  | .unary op operand => .unary op (numbered position operand)
  | .binary op left right =>
    .binary op (numbered position left) (numbered (position + left.leafValues.length) right)
  | .inList item items =>
    .inList (numbered position item) (allNumbered (position + item.leafValues.length) items)
  | .function f args => .function f (allNumbered position args)

def allNumbered (position : Nat) : List Expression → List Expression
  | [] => []
  | e :: rest => numbered position e :: allNumbered (position + e.leafValues.length) rest

end

/-! ## Trees that are read back -/

mutual

/-- No `NOT` stands as an operand of a comparison, a null test, `LIKE`, `IN` or a calculation. -/
def negationsApart : Expression → Bool
  | .column _ | .value _ | .raw _ => true
  | .and left right | .or left right => negationsApart left && negationsApart right
  | .not operand | .unary .negate operand => negationsApart operand
  | .unary _ operand => !operand.isNot && negationsApart operand
  | .binary _ left right =>
    !left.isNot && !right.isNot && negationsApart left && negationsApart right
  | .inList item items => !item.isNot && negationsApart item && allNegationsApart items
  | .function _ args => allNegationsApart args

def allNegationsApart : List Expression → Bool
  | [] => true
  | e :: rest => negationsApart e && allNegationsApart rest

end

theorem regrouped_not_eq_some {a e' : Expression} (isRead : regrouped (.not a) = some e') :
    ∃ a', regrouped a = some a' ∧ e' = .not a' := by
  rw [regrouped] at isRead
  obtain ⟨a', inside, same⟩ := Option.bind_eq_some_iff.1 isRead
  cases same
  exact ⟨a', inside, rfl⟩

theorem regrouped_isNot {e e' : Expression} (isRead : e.regrouped = some e')
    (isNot : e.isNot = true) : e'.isNot = true := by
  cases e with
  | not a =>
    obtain ⟨a', -, rfl⟩ := regrouped_not_eq_some isRead
    rfl
  | _ => cases isNot

/-- What is read of an operation is no `NOT` only where its first operand is none. -/
theorem floated_eq_iff (node : Expression → Expression) {operand read : Expression}
    (isRead : regrouped operand = some read) {whole : Expression} (notNot : whole.isNot = false) :
    floated node operand read = whole ↔ operand.isNot = false ∧ node read = whole := by
  cases isNot : operand.isNot with
  | false =>
    have plain : floated node operand read = node read := by
      cases operand with
      | not a => cases isNot
      | _ => rfl
    rw [plain]
    exact ⟨fun same => ⟨rfl, same⟩, fun same => same.2⟩
  | true =>
    refine ⟨fun same => ?_, fun same => nomatch same.1⟩
    have inner := regrouped_isNot isRead isNot
    cases operand with
    | not a =>
      cases read with
      | not b =>
        rw [← same] at notNot
        cases notNot
      | _ => cases inner
    | _ => cases isNot

theorem regrouped_test (test : UnaryOperator) (isTest : test ≠ .negate) (a : Expression) :
    regrouped (.unary test a) = some (.unary test a) ↔
      a.isNot = false ∧ regrouped a = some a := by
  have whole : regrouped (.unary test a) = do
      return floated (.unary test) a (← regrouped a) := by
    cases test with
    | negate => exact absurd rfl isTest
    | _ => rw [regrouped]; exact nofun
  rw [whole]
  cases isRead : regrouped a with
  | none => simp
  | some a' =>
    have notNot : (unary test a).isNot = false := rfl
    simpa using floated_eq_iff (.unary test) isRead notNot

theorem regrouped_binary (op : Operator) (a b : Expression) :
    regrouped (.binary op a b) = some (.binary op a b) ↔
      a.isNot = false ∧ b.isNot = false ∧ regrouped a = some a ∧ regrouped b = some b := by
  rw [regrouped]
  cases first : regrouped a with
  | none => simp
  | some a' =>
    cases isNot : b.isNot with
    | true => simp
    | false =>
      cases regrouped b with
      | none => simp
      | some b' =>
        have notNot : (binary op a b).isNot = false := rfl
        simpa using floated_eq_iff (fun first => .binary op first b') first notNot

theorem regrouped_inList (a : Expression) (as : List Expression) :
    regrouped (.inList a as) = some (.inList a as) ↔
      a.isNot = false ∧ regrouped a = some a ∧ allRegrouped as = some as := by
  rw [regrouped]
  cases first : regrouped a with
  | none => simp
  | some a' =>
    cases allRegrouped as with
    | none => simp
    | some as' =>
      have notNot : (inList a as).isNot = false := rfl
      simpa using floated_eq_iff (fun first => .inList first as') first notNot

mutual

/-- A tree is read back exactly when its negations stand apart. -/
theorem regrouped_eq_some_iff : ∀ e : Expression,
    regrouped e = some e ↔ negationsApart e = true
  | .column _ | .value _ | .raw _ => by simp [regrouped, negationsApart]
  | .and a b | .or a b => by
    rw [negationsApart, Bool.and_eq_true, ← regrouped_eq_some_iff a, ← regrouped_eq_some_iff b,
      regrouped]
    cases regrouped a <;> cases regrouped b <;> simp
  | .not a | .unary .negate a => by
    rw [negationsApart, ← regrouped_eq_some_iff a, regrouped]
    cases regrouped a <;> simp
  | .unary .isNull a => by
    rw [regrouped_test .isNull nofun, regrouped_eq_some_iff a]
    simp [negationsApart]
  | .unary .isNotNull a => by
    rw [regrouped_test .isNotNull nofun, regrouped_eq_some_iff a]
    simp [negationsApart]
  | .binary op a b => by
    rw [regrouped_binary, regrouped_eq_some_iff a, regrouped_eq_some_iff b]
    simp [negationsApart, and_assoc]
  | .inList a as => by
    rw [regrouped_inList, regrouped_eq_some_iff a, allRegrouped_eq_some_iff as]
    simp [negationsApart, and_assoc]
  | .function f as => by
    rw [negationsApart, ← allRegrouped_eq_some_iff as, regrouped]
    cases allRegrouped as <;> simp

theorem allRegrouped_eq_some_iff : ∀ es : List Expression,
    allRegrouped es = some es ↔ allNegationsApart es = true
  | [] => by simp [allRegrouped, allNegationsApart]
  | e :: rest => by
    rw [allNegationsApart, Bool.and_eq_true, ← regrouped_eq_some_iff e,
      ← allRegrouped_eq_some_iff rest, allRegrouped]
    cases regrouped e <;> cases allRegrouped rest <;> simp

end

theorem isNot_numbered (e : Expression) (position : Nat) :
    (e.numbered position).isNot = e.isNot := by
  cases e <;> simp [numbered, isNot]

mutual

/-- Placeholders in place of values change nothing about the negations. -/
theorem negationsApart_numbered : ∀ (e : Expression) (position : Nat),
    negationsApart (e.numbered position) = negationsApart e
  | .column _, _ | .value _, _ | .raw _, _ => by simp [numbered, negationsApart]
  | .and a b, _ | .or a b, _ | .binary _ a b, _ => by
    simp [numbered, negationsApart, negationsApart_numbered a, negationsApart_numbered b,
      isNot_numbered]
  | .not a, _ | .unary .negate a, _ | .unary .isNull a, _ | .unary .isNotNull a, _ => by
    simp [numbered, negationsApart, negationsApart_numbered a, isNot_numbered]
  | .inList a as, _ => by
    simp [numbered, negationsApart, negationsApart_numbered a, allNegationsApart_numbered as,
      isNot_numbered]
  | .function _ as, _ => by simp [numbered, negationsApart, allNegationsApart_numbered as]

theorem allNegationsApart_numbered : ∀ (es : List Expression) (position : Nat),
    allNegationsApart (allNumbered position es) = allNegationsApart es
  | [], _ => rfl
  | e :: rest, _ => by
    simp [allNumbered, allNegationsApart, negationsApart_numbered e,
      allNegationsApart_numbered rest]

end

end Expression

end PlanCompiler.Sql
