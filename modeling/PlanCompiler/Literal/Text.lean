/-
# Literal.Text -- the two texts of a literal

`text?` is the bare text, as a concatenation uses it: nothing for null, and no
text at all for an array.  `display` is the form in which plans and messages show
a literal: texts are quoted, null is `null` and arrays are bracketed.
-/
import PlanCompiler.Calendar.Printer
import PlanCompiler.Decimal.Shortest
import PlanCompiler.Literal.Basic
import PlanCompiler.Text.Quoted

namespace PlanCompiler.Literal

set_option autoImplicit false

/-- The value as text, without quotes.  Arrays have none. -/
def text? : Literal → Option String
  | .null => some ""
  | .bool value => some (if value then "true" else "false")
  | .int value => some (toString value.toInt)
  | .uint value => some (toString value.toNat)
  | .float value => some (.ofList (floatText value))
  | .string text => some text
  | .uuid value => some (.ofList value.text)
  | .dateTime value => some (.ofList (value.text ' '))
  | .dateTimeOffset value => some (.ofList value.text)
  | .date value => some (.ofList value.text)
  | .time value => some (.ofList value.text)
  | .array _ => none

mutual

def display : Literal → String
  | .null => "null"
  | .string text => Text.quoted text
  | .array items => "[" ++ ", ".intercalate (displayItems items) ++ "]"
  | value => value.text?.getD ""

def displayItems : List Literal → List String
  | [] => []
  | item :: rest => item.display :: displayItems rest

end

end PlanCompiler.Literal
