/-
# ScalarType -- the kinds of values a field of a row can hold

A kind is *simple* when a field of it is exactly one column that a projection can
select.  JSON documents, objects and arrays are not.
-/

namespace PlanCompiler

set_option autoImplicit false

inductive ScalarType
  | boolean
  | integer
  | unsignedInteger
  | float
  | decimal
  | string
  | enumeration
  | uuid
  | dateTime
  | dateTimeOffset
  | date
  | time
  | json
  | object
  | array
deriving DecidableEq, Repr

namespace ScalarType

def all : List ScalarType :=
  [.boolean, .integer, .unsignedInteger, .float, .decimal, .string, .enumeration, .uuid, .dateTime,
    .dateTimeOffset, .date, .time, .json, .object, .array]

def name : ScalarType → String
  | .boolean => "boolean"
  | .integer => "integer"
  | .unsignedInteger => "unsigned_integer"
  | .float => "float"
  | .decimal => "decimal"
  | .string => "string"
  | .enumeration => "enum"
  | .uuid => "uuid"
  | .dateTime => "date_time"
  | .dateTimeOffset => "date_time_offset"
  | .date => "date"
  | .time => "time"
  | .json => "json"
  | .object => "object"
  | .array => "array"

def isSimple : ScalarType → Bool
  | .json | .object | .array => false
  | _ => true

/-- The kinds a projection can narrow to. -/
def simple : List ScalarType :=
  all.filter isSimple

def spellings : List (String × ScalarType) :=
  all.map fun kind => (kind.name, kind)

theorem lookup_name (kind : ScalarType) : spellings.lookup kind.name = some kind := by
  cases kind <;> decide

end ScalarType

end PlanCompiler
