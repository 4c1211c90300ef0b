/-
# Predicate.Json -- predicates in JSON

Every predicate is a choice by `type`.  A missing target, an empty list of
arguments and a false `is_static` are left out when written.
-/
import PlanCompiler.Json.Record
import PlanCompiler.Literal.Json
import PlanCompiler.Predicate.Basic

namespace PlanCompiler.Predicate

set_option autoImplicit false

/-! ## Writing -/

/-- The object of a choice. -/
def choice (kind : String) (members : List (String × Json)) : Json :=
  .object (("type", .string kind) :: members)

mutual

def toJson : Predicate → Json
  | .leaf value => nomatch value
  | .field name => choice "field_ref" [("name", .string name)]
  | .literal value => choice "literal" [("value", value.toJson)]
  | .unary op operand =>
    choice "unary_op" [("op", .string op.spelling), ("operand", toJson operand)]
  | .binary op left right =>
    choice "binary_op" [("op", .string op.spelling), ("left", toJson left), ("right", toJson right)]
  | .conditional test whenTrue whenFalse =>
    choice "conditional" [("test", toJson test), ("when_true", toJson whenTrue),
      ("when_false", toJson whenFalse)]
  | .call name target args isStatic =>
    choice "call" (("name", .string name) :: targetToJson target
      ++ Json.memberIf (!args.isEmpty) "args" (.array (argsToJson args))
      ++ Json.memberIf isStatic "is_static" (.bool isStatic))

def targetToJson : Option Predicate → List (String × Json)
  | none => []
  | some target => [("target", toJson target)]

def argsToJson : List Predicate → List Json
  | [] => []
  | arg :: rest => toJson arg :: argsToJson rest

end

/-! ## Reading -/

def kinds : List String :=
  ["binary_op", "unary_op", "field_ref", "literal", "call", "conditional"]

/-- A predicate whose record nests at most this deep. -/
def ofJsonWithin? : Nat → Json.Place → Json → Option Predicate
  | 0, _, _ => none
  | depth + 1, place, json => do
    let (kind, json) ← json.choice? place kinds
    let operand := ofJsonWithin? depth .insideChoice
    match kind with
    | "field_ref" =>
      let record ← json.record? ["name"]
      some (.field (← record.required "name" Json.string?))
    | "literal" =>
      let record ← json.record? ["value"]
      some (.literal (← record.required "value" (Literal.readAt? .insideChoice)))
    | "unary_op" =>
      let record ← json.record? ["op", "operand"]
      some (.unary (← record.required "op" (Json.keyword? .insideChoice UnaryOp.spellings))
        (← record.required "operand" operand))
    | "binary_op" =>
      let record ← json.record? ["op", "left", "right"]
      some (.binary (← record.required "op" (Json.keyword? .insideChoice BinaryOp.spellings))
        (← record.required "left" operand) (← record.required "right" operand))
    | "conditional" =>
      let record ← json.record? ["test", "when_true", "when_false"]
      some (.conditional (← record.required "test" operand) (← record.required "when_true" operand)
        (← record.required "when_false" operand))
    | "call" =>
      let record ← json.record? ["name", "target", "args", "is_static"]
      some (.call (← record.required "name" Json.string?) (← record.optional "target" operand)
        (← record.defaulted "args" [] (Json.list? operand))
        (← record.defaulted "is_static" false Json.bool?))
    | _ => none

/-- The predicate that stands in a place. -/
def readAt? (place : Json.Place) (json : Json) : Option Predicate :=
  ofJsonWithin? json.depth place json

def ofJson? (json : Json) : Option Predicate :=
  json.whole? (readAt? .outside)

end PlanCompiler.Predicate
