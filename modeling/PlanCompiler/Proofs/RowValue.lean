/-
# Proofs.RowValue -- what rows hold, and the operators on it

The meaning of filters is given on rows that hold nulls, truths and integers of
any size.  Of a value of another kind only is known that it is not null.

Each operator comes twice.  The strict one, `f?`, has a result only where both
operands are of the kind that it asks for.  The one of SQL has it also where an
operand is null: the result is then null, unless the other operand decides it
(`sqlAnd?`, `sqlOr?`).  Where the strict operator has a result, the other one has
the same (`lifted_eq`, `sqlAnd?_eq`, `sqlOr?_eq`).
-/
import PlanCompiler.Literal.Basic
import PlanCompiler.Operator

namespace PlanCompiler

set_option autoImplicit false

/-- Whether two values satisfy a comparison. -/
def Comparison.relates {α : Type} [DecidableEq α] [LT α] [DecidableLT α] [LE α] [DecidableLE α]
    (op : Comparison) (a b : α) : Bool :=
  match op with
  | .equal => a = b
  | .notEqual => a ≠ b
  | .less => a < b
  | .lessOrEqual => a ≤ b
  | .greater => b < a
  | .greaterOrEqual => b ≤ a

/-- The calculations that stay within the integers. -/
def Calculation.onIntegers? : Calculation → Int → Int → Option Int
  | .add, a, b => some (a + b)
  | .subtract, a, b => some (a - b)
  | .multiply, a, b => some (a * b)
  | .divide, _, _ | .modulo, _, _ => none

inductive RowValue
  | null
  | bool (value : Bool)
  | integer (value : Int)
  /-- A value of another kind. -/
  | other
deriving DecidableEq, Repr

/-- The integer that a literal is written for. -/
def Literal.integer? : Literal → Option Int
  | .int value => some value.toInt
  | .uint value => some value.toNat
  | _ => none

/-- The value that a literal is written for. -/
def Literal.rowValue : Literal → RowValue
  | .null => .null
  | .bool value => .bool value
  | .int value => .integer value.toInt
  | .uint value => .integer value.toNat
  | _ => .other

namespace RowValue

def isNull : RowValue → Bool
  | .null => true
  | _ => false

/-! ## Strict operators -/

/-- Two truths or two integers compared. -/
def compare? (op : Comparison) : RowValue → RowValue → Option RowValue
  | .bool a, .bool b => some (.bool (op.relates a b))
  | .integer a, .integer b => some (.bool (op.relates a b))
  | _, _ => none

/-- The null test that a comparison with a written null is. -/
def testNull? (op : Comparison) (value : RowValue) : Option RowValue :=
  match op with
  | .equal => some (.bool value.isNull)
  | .notEqual => some (.bool !value.isNull)
  | _ => none

def calculate? (op : Calculation) : RowValue → RowValue → Option RowValue
  | .integer a, .integer b => (op.onIntegers? a b).map .integer
  | _, _ => none

def and? : RowValue → RowValue → Option RowValue
  | .bool a, .bool b => some (.bool (a && b))
  | _, _ => none

def or? : RowValue → RowValue → Option RowValue
  | .bool a, .bool b => some (.bool (a || b))
  | _, _ => none

def not? : RowValue → Option RowValue
  | .bool a => some (.bool !a)
  | _ => none

def negate? : RowValue → Option RowValue
  | .integer a => some (.integer (-a))
  | _ => none

/-- Whether an integer is among literals. -/
def member? (items : List Literal) : RowValue → Option RowValue
  | .integer a => some (.bool (items.any fun item => item.integer? == some a))
  | _ => none

/-! ## Operators of SQL -/

/-- The operator with null as its result wherever an operand is null. -/
def lifted (f : RowValue → RowValue → Option RowValue) (a b : RowValue) : Option RowValue :=
  if a.isNull || b.isNull then some .null else f a b

def sqlAnd? : RowValue → RowValue → Option RowValue
  | .bool false, .null | .null, .bool false => some (.bool false)
  | .bool true, .null | .null, .bool true | .null, .null => some .null
  | a, b => and? a b

def sqlOr? : RowValue → RowValue → Option RowValue
  | .bool true, .null | .null, .bool true => some (.bool true)
  | .bool false, .null | .null, .bool false | .null, .null => some .null
  | a, b => or? a b

def sqlNot? : RowValue → Option RowValue
  | .null => some .null
  | a => not? a

def sqlNegate? : RowValue → Option RowValue
  | .null => some .null
  | a => negate? a

/-- `x IN (items)` is `x = item OR ...`. -/
def sqlMember? (value : RowValue) : List RowValue → Option RowValue
  | [] => some (.bool false)
  | item :: rest => do sqlOr? (← lifted (compare? .equal) value item) (← sqlMember? value rest)

/-! ## Where the strict operators have a result -/

theorem lifted_eq {f : RowValue → RowValue → Option RowValue} {a b v : RowValue}
    (left : a.isNull = false) (right : b.isNull = false) (h : f a b = some v) :
    lifted f a b = some v := by
  simp [lifted, left, right, h]

theorem compare?_notNull {op : Comparison} {a b v : RowValue} (h : compare? op a b = some v) :
    a.isNull = false ∧ b.isNull = false := by
  cases a <;> cases b <;> simp_all [compare?, isNull]

theorem calculate?_notNull {op : Calculation} {a b v : RowValue}
    (h : calculate? op a b = some v) : a.isNull = false ∧ b.isNull = false := by
  cases a <;> cases b <;> simp_all [calculate?, isNull]

theorem lifted_compare?_eq {op : Comparison} {a b v : RowValue} (h : compare? op a b = some v) :
    lifted (compare? op) a b = some v :=
  lifted_eq (compare?_notNull h).1 (compare?_notNull h).2 h

theorem lifted_calculate?_eq {op : Calculation} {a b v : RowValue}
    (h : calculate? op a b = some v) : lifted (calculate? op) a b = some v :=
  lifted_eq (calculate?_notNull h).1 (calculate?_notNull h).2 h

theorem and?_eq_some {a b v : RowValue} (h : and? a b = some v) :
    ∃ x y, a = .bool x ∧ b = .bool y ∧ v = .bool (x && y) := by
  cases a <;> cases b <;> simp_all [and?]

theorem or?_eq_some {a b v : RowValue} (h : or? a b = some v) :
    ∃ x y, a = .bool x ∧ b = .bool y ∧ v = .bool (x || y) := by
  cases a <;> cases b <;> simp_all [or?]

theorem sqlAnd?_eq {a b v : RowValue} (h : and? a b = some v) : sqlAnd? a b = some v := by
  obtain ⟨x, y, rfl, rfl, rfl⟩ := and?_eq_some h
  simp [sqlAnd?, and?]

theorem sqlOr?_eq {a b v : RowValue} (h : or? a b = some v) : sqlOr? a b = some v := by
  obtain ⟨x, y, rfl, rfl, rfl⟩ := or?_eq_some h
  simp [sqlOr?, or?]

theorem sqlNot?_eq {a v : RowValue} (h : not? a = some v) : sqlNot? a = some v := by
  cases a <;> simp_all [sqlNot?, not?]

theorem sqlNegate?_eq {a v : RowValue} (h : negate? a = some v) : sqlNegate? a = some v := by
  cases a <;> simp_all [sqlNegate?, negate?]

/-- Membership among literals that are all integers, as SQL has it. -/
theorem sqlMember?_eq {a v : RowValue} {items : List Literal}
    (integers : ∀ item ∈ items, item.integer?.isSome) (h : member? items a = some v) :
    sqlMember? a (items.map Literal.rowValue) = some v := by
  cases a with
  | integer a =>
    simp only [member?, Option.some.injEq] at h
    subst h
    induction items with
    | nil => rfl
    | cons item rest ih =>
      have rest_eq := ih fun item mem => integers item (List.mem_cons_of_mem _ mem)
      have isInteger := integers item List.mem_cons_self
      obtain ⟨n, written⟩ := Option.isSome_iff_exists.1 isInteger
      have value : item.rowValue = .integer n := by
        cases item <;> simp_all [Literal.integer?, Literal.rowValue]
      have same : (some n == some a) = decide (a = n) := by
        rw [Bool.eq_iff_iff, beq_iff_eq, Option.some.injEq, decide_eq_true_iff]
        exact eq_comm
      simp only [List.map_cons, sqlMember?, value, rest_eq, List.any_cons, written, same]
      simp [lifted, isNull, compare?, Comparison.relates, sqlOr?, or?]
  | _ => simp [member?] at h

end RowValue

end PlanCompiler
