/-
# Compile.Call -- calls in SQL

A call is compiled from its operands, each given with what it compiles to by
itself.  `none` means that the call has no counterpart in SQL; an error means that
it has one, but not for these operands.  Operands are asked for their SQL in the
order in which they fail: the pattern of a `LIKE` before the text that is matched,
otherwise from left to right.
-/
import PlanCompiler.Compile.Draft
import PlanCompiler.Compile.Error
import PlanCompiler.Compile.Method

namespace PlanCompiler

set_option autoImplicit false

/-- An operand with what it compiles to. -/
structure Operand where
  draft : Draft
  sql : Except CompileError Sql.Expression

namespace Operand

/-- The items, if the operand is a collection. -/
def items? (operand : Operand) : Option (List Literal) :=
  match operand.draft with
  | .literal (.array items) => some items
  | _ => none

end Operand

/-- The collection and the item of a membership test, `[1, 2].Contains(Id)` or
`Enumerable.Contains([1, 2], Id)`. -/
def membership? : Option Operand → List Operand → Option (List Literal × Operand)
  | some collection, [item] => collection.items?.map fun items => (items, item)
  | none, [collection, item] => collection.items?.map fun items => (items, item)
  | _, _ => none

namespace Sql.Expression

/-- A value in a list; collections do not nest. -/
def ofItem : Literal → Except CompileError Sql.Expression
  | .array items => .error (.arrayNotSupported (Literal.array items).display)
  | item => .ok (.value item)

/-- Membership in a fixed collection. -/
def ofMembership (name : String) (items : List Literal) (item : Operand) :
    Except CompileError Sql.Expression := do
  if items.isEmpty then
    throw (.emptyInList ("[]." ++ name ++ "(" ++ item.draft.display ++ ")"))
  let values ← items.mapM ofItem
  return .inList (← item.sql) values

/-- A match against the concatenation of the parts of a pattern. -/
def like (text : Operand) (pattern : List Sql.Expression) :
    Except CompileError Sql.Expression := do
  return .binary .like (← text.sql) (.function .concat pattern)

def unaryFunction (function : Sql.Function) (operand : Operand) :
    Except CompileError Sql.Expression := do
  return .function function [← operand.sql]

def equality (left right : Operand) : Except CompileError Sql.Expression := do
  let left ← left.sql
  return .binary (.comparison .equal) left (← right.sql)

/-- The SQL of a call, `none` when there is none. -/
def ofCall? (name : String) (target : Option Operand) (args : List Operand) (isStatic : Bool) :
    Except CompileError (Option Sql.Expression) :=
  match Method.ofName? name, target, args with
  | some .value, some target, [] => some <$> target.sql
  | some .equals, some left, [right] => some <$> equality left right
  | some .equals, none, [left, right] => some <$> equality left right
  | some .concat, target, args =>
    if target.isNone && args.isEmpty then .ok none
    else do return some (.function .concat (← (target.toList ++ args).mapM Operand.sql))
  | some .contains, target, args =>
    match membership? target args with
    | some (items, item) => some <$> ofMembership name items item
    | none =>
      match target, args with
      | some text, [part] => do
        let part ← part.sql
        some <$> like text [wildcard, part, wildcard]
      | _, _ => .ok none
  | some .startsWith, some text, [start] => do
    let start ← start.sql
    some <$> like text [start, wildcard]
  | some .endsWith, some text, [ending] => do
    let ending ← ending.sql
    some <$> like text [wildcard, ending]
  | some .toUpper, some target, [] => some <$> unaryFunction .upper target
  | some .toLower, some target, [] => some <$> unaryFunction .lower target
  | some .trim, some target, [] => some <$> unaryFunction .trim target
  | some (.generator generator), none, [] =>
    .ok (if isStatic then some (.function generator.function []) else none)
  | some (.part part), some target, [] => some <$> unaryFunction part.function target
  | _, _, _ => .ok none

end Sql.Expression

end PlanCompiler
