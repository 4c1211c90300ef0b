/-
# NativeQuery.Field -- what is known about the fields of a row

A row whose fields are not declared at all may be asked for any field, and each
is then taken for a simple column.
-/
import PlanCompiler.Json.Record
import PlanCompiler.ScalarType

namespace PlanCompiler

set_option autoImplicit false

structure FieldInfo where
  type : ScalarType
  nullable : Bool
  description : Option String
deriving DecidableEq, Repr

/-- The declared fields, in the order of their declaration. -/
abbrev Fields := Dictionary FieldInfo

namespace FieldInfo

def toJson (info : FieldInfo) : Json :=
  .object (("type", .string info.type.name) :: ("nullable", .bool info.nullable) ::
    Json.memberOf "description" .string info.description)

def ofJson? (json : Json) : Option FieldInfo := do
  let record ← json.record? ["type", "nullable", "description"]
  some {
    type := ← record.required "type" (Json.keyword? .outside ScalarType.spellings)
    nullable := ← record.defaulted "nullable" false Json.bool?
    description := ← record.optional "description" Json.string? }

end FieldInfo

end PlanCompiler
