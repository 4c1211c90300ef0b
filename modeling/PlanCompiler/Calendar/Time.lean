/-
# Calendar.Time -- times of day and moments

A time of day counts hours, minutes, seconds and nanoseconds.  A leap second is
kept as the second before it with at least a thousand million nanoseconds, so it
comes after that second and before the next minute.

A `DateTime` is a date with a time of day and no zone.  A `ZonedDateTime` adds an
offset from UTC in whole minutes; it is identified with the instant it denotes,
so two that differ only in their offset are equal (`ZonedDateTime.same`).
-/
import PlanCompiler.Calendar.Date

namespace PlanCompiler

set_option autoImplicit false

/-- A time of day, possibly within a leap second. -/
structure TimeOfDay where
  hour : Nat
  minute : Nat
  second : Nat
  nano : Nat
  hour_lt : hour < 24
  minute_lt : minute < 60
  second_lt : second < 60
  nano_lt : nano < 2000000000
  leap : 1000000000 ≤ nano → second = 59
deriving DecidableEq

namespace TimeOfDay

/-- The time with these fields; second 60 is the leap second after second 59. -/
def of? (hour minute second fraction : Nat) : Option TimeOfDay :=
  if h : hour < 24 ∧ minute < 60 ∧ fraction < 1000000000 then
    if s : second < 60 then
      some ⟨hour, minute, second, fraction, h.1, h.2.1, s, by omega, by omega⟩
    else if second = 60 then
      some ⟨hour, minute, 59, 1000000000 + fraction, h.1, h.2.1, by omega, by omega, by omega⟩
    else none
  else none

/-- The second a clock shows, 60 during a leap second. -/
def clockSecond (t : TimeOfDay) : Nat :=
  t.second + t.nano / 1000000000

/-- The part of a second that has passed, in nanoseconds. -/
def fraction (t : TimeOfDay) : Nat :=
  t.nano % 1000000000

def secondOfDay (t : TimeOfDay) : Nat :=
  t.hour * 3600 + t.minute * 60 + t.second

def compare (a b : TimeOfDay) : Ordering :=
  (Ord.compare a.secondOfDay b.secondOfDay).then (Ord.compare a.nano b.nano)

theorem of?_clock (t : TimeOfDay) : of? t.hour t.minute t.clockSecond t.fraction = some t := by
  obtain ⟨hour, minute, second, nano, h, m, s, n, leap⟩ := t
  by_cases big : 1000000000 ≤ nano
  · have second_eq : second = 59 := leap big
    have div : nano / 1000000000 = 1 := by omega
    have mod : nano % 1000000000 = nano - 1000000000 := by omega
    have back : 1000000000 + (nano - 1000000000) = nano := by omega
    have small : nano - 1000000000 < 1000000000 := by omega
    simp [of?, clockSecond, fraction, div, mod, second_eq, h, m, back, small]
  · have div : nano / 1000000000 = 0 := by omega
    have mod : nano % 1000000000 = nano := by omega
    have small : nano < 1000000000 := by omega
    simp [of?, clockSecond, fraction, div, mod, h, m, s, small]

end TimeOfDay

/-- A date and a time of day, in no particular zone. -/
structure DateTime where
  date : Date
  time : TimeOfDay
deriving DecidableEq

namespace DateTime

def compare (a b : DateTime) : Ordering :=
  (a.date.compare b.date).then (a.time.compare b.time)

/-- Seconds since the start of the day before the first day of year 1. -/
def seconds (d : DateTime) : Int :=
  d.date.dayNumber * 86400 + d.time.secondOfDay

end DateTime

/-- A date and time of day as shown at an offset from UTC, in minutes. -/
structure ZonedDateTime where
  shown : DateTime
  offset : Int
  offset_bound : -1440 < offset ∧ offset < 1440

namespace ZonedDateTime

/-- The seconds of the instant, counted at UTC. -/
def utcSeconds (z : ZonedDateTime) : Int :=
  z.shown.seconds - z.offset * 60

/-- The instant must be a day of the calendar at UTC as well. -/
def of? (shown : DateTime) (offset : Int) : Option ZonedDateTime :=
  if h : -1440 < offset ∧ offset < 1440 then
    let z : ZonedDateTime := ⟨shown, offset, h⟩
    let day := z.utcSeconds / 86400
    if Date.firstDay ≤ day ∧ day ≤ Date.lastDay then some z else none
  else none

/-- Instants are compared at UTC. -/
def compare (a b : ZonedDateTime) : Ordering :=
  (Ord.compare a.utcSeconds b.utcSeconds).then (Ord.compare a.shown.time.nano b.shown.time.nano)

/-- Whether both denote one instant. -/
def same (a b : ZonedDateTime) : Bool :=
  (a.compare b).isEq

end ZonedDateTime

end PlanCompiler
