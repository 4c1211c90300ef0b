/-
# Predicate.Basic -- predicates as they are written

A predicate is a term of fields and literals and nothing else.  Filters, sort keys
and the members of projections are predicates.  The functions here build them from
left to right: `(field "Id").equals (literal (.int 1))`.
-/
import PlanCompiler.Predicate.Term

namespace PlanCompiler

set_option autoImplicit false

abbrev Predicate := Term Empty

namespace Predicate

/-! ## Leaves -/

/-- A field of the row. -/
def field (name : String) : Predicate := Term.field name

def literal (value : Literal) : Predicate := Term.literal value

def null : Predicate := literal .null

def fieldName? : Predicate → Option String
  | .field name => some name
  | _ => none

def display (p : Predicate) : String :=
  Term.display (fun leaf => nomatch leaf) p

/-! ## Operators -/

def compare (op : Comparison) (left right : Predicate) : Predicate :=
  .binary (.comparison op) left right

def equals (left right : Predicate) : Predicate := compare .equal left right
def notEquals (left right : Predicate) : Predicate := compare .notEqual left right
def lessThan (left right : Predicate) : Predicate := compare .less left right
def lessThanOrEqual (left right : Predicate) : Predicate := compare .lessOrEqual left right
def greaterThan (left right : Predicate) : Predicate := compare .greater left right
def greaterThanOrEqual (left right : Predicate) : Predicate := compare .greaterOrEqual left right

def calculate (op : Calculation) (left right : Predicate) : Predicate :=
  .binary (.calculation op) left right

def add (left right : Predicate) : Predicate := calculate .add left right
def subtract (left right : Predicate) : Predicate := calculate .subtract left right
def multiply (left right : Predicate) : Predicate := calculate .multiply left right
def divide (left right : Predicate) : Predicate := calculate .divide left right
def modulo (left right : Predicate) : Predicate := calculate .modulo left right

def andAlso (left right : Predicate) : Predicate := .binary .andAlso left right
def orElse (left right : Predicate) : Predicate := .binary .orElse left right

def not (operand : Predicate) : Predicate := .unary .not operand
def negate (operand : Predicate) : Predicate := .unary .negate operand

def conditional (test whenTrue whenFalse : Predicate) : Predicate :=
  Term.conditional test whenTrue whenFalse

/-! ## Calls -/

/-- Call a method of this expression. -/
def method (target : Predicate) (name : String) (args : List Predicate) : Predicate :=
  .call name (some target) args false

/-- A member of this expression, such as `Year` or `Value`. -/
def member (target : Predicate) (name : String) : Predicate :=
  target.method name []

/-- Call a static method, such as `DateTime.Now` or `string.Concat`. -/
def callStatic (name : String) (args : List Predicate) : Predicate :=
  .call name none args true

def contains (target value : Predicate) : Predicate := target.method "Contains" [value]
def startsWith (target value : Predicate) : Predicate := target.method "StartsWith" [value]
def endsWith (target value : Predicate) : Predicate := target.method "EndsWith" [value]

/-- Membership in a fixed collection of values. -/
def isIn (item : Predicate) (values : List Literal) : Predicate :=
  (literal (.array values)).contains item

end Predicate

end PlanCompiler
