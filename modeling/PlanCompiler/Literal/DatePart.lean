/-
# Literal.DatePart -- the parts of dates and times

Parts are numbered as MySQL numbers them: the days of the week from 1 on Sunday,
the days of the year from 1.  A date has midnight as its time of day, a time of
day has no date, and the second of a leap second is 59.
-/
import PlanCompiler.Literal.Basic

namespace PlanCompiler

set_option autoImplicit false

inductive DatePart
  | year
  | month
  | day
  | hour
  | minute
  | second
  | dayOfWeek
  | dayOfYear
deriving DecidableEq, Repr

namespace DatePart

def all : List DatePart :=
  [.year, .month, .day, .hour, .minute, .second, .dayOfWeek, .dayOfYear]

def name : DatePart → String
  | .year => "Year"
  | .month => "Month"
  | .day => "Day"
  | .hour => "Hour"
  | .minute => "Minute"
  | .second => "Second"
  | .dayOfWeek => "DayOfWeek"
  | .dayOfYear => "DayOfYear"

/-- The part as a date shows it; dates show no time of day. -/
def ofDate? (d : Date) : DatePart → Option Int
  | .year => some d.year
  | .month => some d.month
  | .day => some d.day
  | .dayOfWeek => some d.dayOfWeek
  | .dayOfYear => some d.dayOfYear
  | .hour | .minute | .second => none

/-- The part as a time of day shows it. -/
def ofTime? (t : TimeOfDay) : DatePart → Option Int
  | .hour => some t.hour
  | .minute => some t.minute
  | .second => some t.second
  | _ => none

/-- The part of a value, if the value has it. -/
def of? (part : DatePart) : Literal → Option Int
  | .dateTime value => part.ofDate? value.date <|> part.ofTime? value.time
  | .dateTimeOffset value => part.ofDate? value.shown.date <|> part.ofTime? value.shown.time
  | .date value => part.ofDate? value <|> some 0
  | .time value => part.ofTime? value
  | _ => none

/-- The part as a literal. -/
def extract? (part : DatePart) (value : Literal) : Option Literal :=
  (part.of? value).map fun n => .int (.ofInt n)

end DatePart

end PlanCompiler
