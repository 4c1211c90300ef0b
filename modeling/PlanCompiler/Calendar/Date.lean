/-
# Calendar.Date -- days of the proleptic Gregorian calendar

A date is a year, a month and a day that the calendar has.  Years run from
`minYear` to `maxYear`, a little over a quarter of a million each way, and year
zero exists.

`dayNumber` counts days from the first of January of year 1, which was a Monday;
the day of the week is read off it.
-/

namespace PlanCompiler

set_option autoImplicit false

namespace Date

def minYear : Int := -262143

def maxYear : Int := 262142

def isLeapYear (year : Int) : Bool :=
  year % 4 == 0 && (year % 100 != 0 || year % 400 == 0)

def daysInMonth (year : Int) (month : Nat) : Nat :=
  match month with
  | 2 => if isLeapYear year then 29 else 28
  | 4 | 6 | 9 | 11 => 30
  | _ => 31

/-- Whether the calendar has this day. -/
def Exists (year : Int) (month day : Nat) : Prop :=
  minYear ≤ year ∧ year ≤ maxYear ∧ 1 ≤ month ∧ month ≤ 12 ∧ 1 ≤ day ∧
    day ≤ daysInMonth year month

instance (year : Int) (month day : Nat) : Decidable (Exists year month day) :=
  inferInstanceAs (Decidable (_ ∧ _ ∧ _ ∧ _ ∧ _ ∧ _))

end Date

/-- A day of the calendar. -/
structure Date where
  year : Int
  month : Nat
  day : Nat
  valid : Date.Exists year month day
deriving DecidableEq

namespace Date

def of? (year : Int) (month day : Nat) : Option Date :=
  if h : Exists year month day then some ⟨year, month, day, h⟩ else none

theorem of?_self (d : Date) : of? d.year d.month d.day = some d := by
  simp [of?, d.valid]

/-! ## Counting days -/

/-- The position of the day in its year, from 1. -/
def dayOfYear (d : Date) : Nat :=
  ((List.range' 1 (d.month - 1)).map (daysInMonth d.year)).foldr (· + ·) 0 + d.day

def daysBeforeYear (year : Int) : Int :=
  let y := year - 1
  365 * y + y / 4 - y / 100 + y / 400

def dayNumber (d : Date) : Int :=
  daysBeforeYear d.year + d.dayOfYear

/-- The position of the day in its week, counting from 1 on Sunday. -/
def dayOfWeek (d : Date) : Nat :=
  (d.dayNumber % 7).toNat + 1

/-- Dates are compared by year, then month, then day. -/
def compare (a b : Date) : Ordering :=
  (Ord.compare a.year b.year).then
    ((Ord.compare a.month b.month).then (Ord.compare a.day b.day))

/-- The numbers of the first and the last day. -/
def firstDay : Int := daysBeforeYear minYear + 1

def lastDay : Int := daysBeforeYear (maxYear + 1)

end Date

end PlanCompiler
