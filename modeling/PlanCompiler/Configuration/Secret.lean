/-
# Configuration.Secret -- values that may be kept out of the configuration

A secret is written in place as a text, or it is an object that names the
environment variable to read it from, and is usable in all its parts.
-/
import PlanCompiler.Json.Record

namespace PlanCompiler

set_option autoImplicit false

/-- The environment: what each variable that is present holds. -/
abbrev Variables := String → Option String

inductive Secret
  | plain (value : String)
  | fromVariable (name : String)
deriving DecidableEq, Repr

namespace Secret

def toJson : Secret → Json
  | .plain value => .string value
  | .fromVariable name => .object [("variable", .string name)]

def ofJson? : Json → Option Secret
  | .string value => some (.plain value)
  | .object members => (Json.object members).whole? fun json => do
    let record ← json.record? ["variable"]
    some (.fromVariable (← record.required "variable" Json.string?))
  | _ => none

theorem ofJson_toJson (secret : Secret) : ofJson? secret.toJson = some secret := by
  cases secret <;> rfl

/-- The value, or the name of the variable that is not present. -/
def resolve (environment : Variables) : Secret → Except String String
  | .plain value => .ok value
  | .fromVariable name =>
    match environment name with
    | some value => .ok value
    | none => .error name

end Secret

end PlanCompiler
