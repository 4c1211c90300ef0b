/-
# Compile.Method -- the methods that are recognized

A method is recognized by its name alone.  The name may be qualified by the type
it belongs to, `string.Compare`; only what follows the last dot counts.
-/
import PlanCompiler.Literal.DatePart
import PlanCompiler.Sql.Expression

namespace PlanCompiler

set_option autoImplicit false

/-- Static calls that have another value each time they run. -/
inductive Generator
  | now
  | utcNow
  | today
  | newGuid
deriving DecidableEq, Repr

inductive Method
  | value
  | equals
  | concat
  | contains
  | startsWith
  | endsWith
  | toUpper
  | toLower
  | trim
  | toText
  | length
  | count
  | compare
  | compareTo
  | generator (value : Generator)
  | part (value : DatePart)
deriving DecidableEq, Repr

namespace Generator

def name : Generator → String
  | .now => "Now"
  | .utcNow => "UtcNow"
  | .today => "Today"
  | .newGuid => "NewGuid"

def function : Generator → Sql.Function
  | .now => .now
  | .utcNow => .utcTimestamp
  | .today => .currentDate
  | .newGuid => .uuid

end Generator

/-- The function that reads a part in SQL. -/
def DatePart.function : DatePart → Sql.Function
  | .year => .year
  | .month => .month
  | .day => .day
  | .hour => .hour
  | .minute => .minute
  | .second => .second
  | .dayOfWeek => .dayOfWeek
  | .dayOfYear => .dayOfYear

/-- The name of a method without what it is qualified by. -/
def methodName (name : String) : String :=
  .ofList (name.toList.reverse.takeWhile (· ≠ '.')).reverse

namespace Method

def name : Method → String
  | .value => "Value"
  | .equals => "Equals"
  | .concat => "Concat"
  | .contains => "Contains"
  | .startsWith => "StartsWith"
  | .endsWith => "EndsWith"
  | .toUpper => "ToUpper"
  | .toLower => "ToLower"
  | .trim => "Trim"
  | .toText => "ToString"
  | .length => "Length"
  | .count => "Count"
  | .compare => "Compare"
  | .compareTo => "CompareTo"
  | .generator g => g.name
  | .part p => p.name

def all : List Method :=
  [.value, .equals, .concat, .contains, .startsWith, .endsWith, .toUpper, .toLower, .trim, .toText,
    .length, .count, .compare, .compareTo]
    ++ [Generator.now, .utcNow, .today, .newGuid].map .generator ++ DatePart.all.map .part

/-- The method that a call by this name means. -/
def ofName? (name : String) : Option Method :=
  let short := methodName name
  all.find? fun method => method.name == short

end Method

end PlanCompiler
