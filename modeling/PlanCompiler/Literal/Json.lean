/-
# Literal.Json -- literals in JSON

A literal is a record of its kind, `type`, and its `value`; null has no value.
Written as an array it is always the two of them.  Numbers are JSON numbers,
everything with a text of its own is that text: identifiers, dates and times.

The kind is a keyword in an object, and the kind of a choice in an array.  A value
that comes before its kind is read like a value inside a choice.
-/
import PlanCompiler.Calendar.Printer
import PlanCompiler.Calendar.Reader
import PlanCompiler.Json.Record
import PlanCompiler.Literal.Basic

namespace PlanCompiler.Literal

set_option autoImplicit false

/-- The record of a kind and a value. -/
def tagged (kind : String) (value : Json) : Json :=
  .object [("type", .string kind), ("value", value)]

def textual (kind : String) (text : List Char) : Json :=
  tagged kind (.string (.ofList text))

mutual

def toJson : Literal → Json
  | .null => .object [("type", .string "null")]
  | .bool value => tagged "bool" (.bool value)
  | .int value => tagged "int" (.integer value.toInt)
  | .uint value => tagged "u_int" (.integer value.toNat)
  | .float value => tagged "float" (.real value)
  | .string text => tagged "string" (.string text)
  | .uuid value => textual "uuid" value.text
  | .dateTime value => textual "date_time" (value.text 'T')
  | .dateTimeOffset value => textual "date_time_offset" value.shortText
  | .date value => textual "date" value.text
  | .time value => textual "time" value.text
  | .array items => tagged "array" (.array (itemsToJson items))

def itemsToJson : List Literal → List Json
  | [] => []
  | item :: rest => item.toJson :: itemsToJson rest

end

/-! ## Reading -/

def kinds : List String :=
  ["null", "bool", "int", "u_int", "float", "string", "uuid", "date_time", "date_time_offset",
    "date", "time", "array"]

/-- The kind and the value of a literal's record, and where the value stands. -/
def fields? (place : Json.Place) : Json → Option (String × Option Json × Json.Place)
  | .array [kind, value] => do some (← Json.kind? place kinds kind, some value, place)
  | .object members => do
    let record ← (Json.object members).record? ["type", "value"]
    let kind ← record.required "type" (Json.keyword? place (kinds.map fun kind => (kind, kind)))
    let value := record.lookup "value"
    if record.map (·.1) = ["value", "type"] then
      some (kind, ← value.mapM (Json.whole? some), .insideChoice)
    else some (kind, value, place)
  | _ => none

/-- A value that is read from its text. -/
def ofText? {α : Type} (read : List Char → Option α) (make : α → Literal) :
    Json → Option Literal
  | .string text => (read text.toList).map make
  | _ => none

/-- A literal whose record nests at most this deep. -/
def ofJsonWithin? : Nat → Json.Place → Json → Option Literal
  | 0, _, _ => none
  | depth + 1, place, json => do
    let (kind, value, place) ← fields? place json
    match kind, value with
    | "null", none | "null", some .null => some .null
    | _, none => none
    | kind, some value =>
      match kind with
      | "bool" => value.bool?.map .bool
      | "int" => value.int64?.map .int
      | "u_int" => value.uint64?.map .uint
      | "float" => value.real?.map .float
      | "string" => value.string?.map .string
      | "uuid" => ofText? Uuid.read? .uuid value
      | "date_time" => ofText? DateTime.read? .dateTime value
      | "date_time_offset" => ofText? ZonedDateTime.read? .dateTimeOffset value
      | "date" => ofText? Date.read? .date value
      | "time" => ofText? TimeOfDay.read? .time value
      | "array" => (value.list? (ofJsonWithin? depth place)).map .array
      | _ => none

/-- The literal that stands in a place. -/
def readAt? (place : Json.Place) (json : Json) : Option Literal :=
  ofJsonWithin? json.depth place json

def ofJson? (json : Json) : Option Literal :=
  readAt? .outside json

end PlanCompiler.Literal
