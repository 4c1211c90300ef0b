/-
# Plan.Json -- plans in JSON

Each operation is a choice by `type` with the plan it refines as `source`.  An
absent mutator is left out when written.
-/
import PlanCompiler.Plan.Operation

namespace PlanCompiler

set_option autoImplicit false

namespace Shape

def toJson : Shape → Json
  | .row => Predicate.choice "row" []
  | .field name => Predicate.choice "field" [("name", .string name)]
  | .composite members =>
    Predicate.choice "composite" [("members", .array (members.map Predicate.toJson))]

def kinds : List String :=
  ["row", "field", "composite"]

/-- The shape that stands in a place. -/
def readAt? (place : Json.Place) (json : Json) : Option Shape := do
  let (kind, json) ← json.choice? place kinds
  match kind with
  | "row" => (json.record? []).map fun _ => .row
  | "field" =>
    let record ← json.record? ["name"]
    some (.field (← record.required "name" Json.string?))
  | "composite" =>
    let record ← json.record? ["members"]
    some (.composite (← record.required "members"
      (Json.list? (Predicate.readAt? .insideChoice))))
  | _ => none

def ofJson? (json : Json) : Option Shape :=
  json.whole? (readAt? .outside)

end Shape

namespace Operation

/-- The operation around the JSON of the plan it refines. -/
def toJson (source : Json) : Operation → Json
  | .filter predicate =>
    Predicate.choice "filter" [("predicate", predicate.toJson), ("source", source)]
  | .sortBy key direction =>
    Predicate.choice "sort_by" [("key", key.toJson), ("direction", .string direction.spelling),
      ("source", source)]
  | .thenSortBy key direction =>
    Predicate.choice "then_sort_by" [("key", key.toJson), ("direction", .string direction.spelling),
      ("source", source)]
  | .skip count => Predicate.choice "skip" [("count", .integer count.toNat), ("source", source)]
  | .take count => Predicate.choice "take" [("count", .integer count.toNat), ("source", source)]
  | .project shape mutator =>
    Predicate.choice "project" (("shape", shape.toJson) ::
      (Json.memberOf "mutator" (fun id => .integer (Int.ofNat id)) mutator ++ [("source", source)]))

/-- An index of a mutator. -/
def mutatorOfJson? (json : Json) : Option Nat :=
  json.uint64?.map UInt64.toNat

/-- The operation of this kind, and the JSON of the plan it refines. -/
def ofRecord? (kind : String) (json : Json) : Option (Operation × Json) := do
  match kind with
  | "filter" =>
    let record ← json.record? ["predicate", "source"]
    some (.filter (← record.required "predicate" (Predicate.readAt? .insideChoice)),
      ← record.required "source" some)
  | "sort_by" =>
    let record ← json.record? ["key", "direction", "source"]
    some (.sortBy (← record.required "key" (Predicate.readAt? .insideChoice))
      (← record.required "direction" (Json.keyword? .insideChoice Direction.spellings)),
      ← record.required "source" some)
  | "then_sort_by" =>
    let record ← json.record? ["key", "direction", "source"]
    some (.thenSortBy (← record.required "key" (Predicate.readAt? .insideChoice))
      (← record.required "direction" (Json.keyword? .insideChoice Direction.spellings)),
      ← record.required "source" some)
  | "skip" =>
    let record ← json.record? ["count", "source"]
    some (.skip (← record.required "count" Json.uint64?), ← record.required "source" some)
  | "take" =>
    let record ← json.record? ["count", "source"]
    some (.take (← record.required "count" Json.uint64?), ← record.required "source" some)
  | "project" =>
    let record ← json.record? ["shape", "mutator", "source"]
    some (.project (← record.required "shape" (Shape.readAt? .insideChoice))
      (← record.optional "mutator" mutatorOfJson?), ← record.required "source" some)
  | _ => none

end Operation

namespace Plan

/-- The JSON of a plan around that of the plan it refines. -/
def toJsonFrom (source : Json) : Plan → Json
  | [] => source
  | operation :: rest => toJsonFrom (operation.toJson source) rest

def toJson (plan : Plan) : Json :=
  toJsonFrom (Predicate.choice "source" []) plan

def kinds : List String :=
  ["source", "filter", "sort_by", "then_sort_by", "skip", "take", "project"]

/-- A plan of at most this many operations, given the operations that follow it. -/
def ofJsonWithin? : Nat → Json.Place → Json → Plan → Option Plan
  | 0, _, _, _ => none
  | size + 1, place, json, later => do
    let (kind, json) ← json.choice? place kinds
    if kind = "source" then (json.record? []).map fun _ => later
    else
      let (operation, source) ← Operation.ofRecord? kind json
      ofJsonWithin? size .insideChoice source (operation :: later)

def ofJson? (json : Json) : Option Plan :=
  json.whole? fun json => ofJsonWithin? json.depth .outside json []

end Plan

end PlanCompiler
