/-
# Calendar.Printer -- the texts of dates and times

Every field has two digits and the year has four.  A year outside 0 to 9999 is
written with a sign and at least four digits.  The fraction of a second is left
out when it is zero and otherwise has three, six or nine digits, the fewest that
show it exactly.  A zoned time ends in its offset, or in `Z` where the text wants
the short form of UTC.
-/
import PlanCompiler.Calendar.Time

namespace PlanCompiler

set_option autoImplicit false

/-- A number with leading zeros up to `width` digits. -/
def padded (width n : Nat) : List Char :=
  let digits := Nat.toDigits 10 n
  List.replicate (width - digits.length) '0' ++ digits

theorem length_padded (width n : Nat) : width ≤ (padded width n).length := by
  simp only [padded, List.length_append, List.length_replicate]
  omega

def yearText (year : Int) : List Char :=
  if 0 ≤ year ∧ year ≤ 9999 then padded 4 year.toNat
  else (if year < 0 then '-' else '+') :: padded 4 year.natAbs

def Date.text (d : Date) : List Char :=
  yearText d.year ++ '-' :: padded 2 d.month ++ '-' :: padded 2 d.day

def fractionText (nanos : Nat) : List Char :=
  if nanos = 0 then []
  else if nanos % 1000000 = 0 then '.' :: padded 3 (nanos / 1000000)
  else if nanos % 1000 = 0 then '.' :: padded 6 (nanos / 1000)
  else '.' :: padded 9 nanos

def TimeOfDay.text (t : TimeOfDay) : List Char :=
  padded 2 t.hour ++ ':' :: padded 2 t.minute ++ ':' :: padded 2 t.clockSecond
    ++ fractionText t.fraction

/-- A date and a time with `separator` between them. -/
def DateTime.text (separator : Char) (d : DateTime) : List Char :=
  d.date.text ++ separator :: d.time.text

def offsetText (minutes : Int) : List Char :=
  (if minutes < 0 then '-' else '+') ::
    (padded 2 (minutes.natAbs / 60) ++ ':' :: padded 2 (minutes.natAbs % 60))

/-- The moment with its offset, UTC being written in full. -/
def ZonedDateTime.text (z : ZonedDateTime) : List Char :=
  z.shown.text 'T' ++ offsetText z.offset

/-- The moment with its offset, UTC being written `Z`. -/
def ZonedDateTime.shortText (z : ZonedDateTime) : List Char :=
  z.shown.text 'T' ++ if z.offset = 0 then ['Z'] else offsetText z.offset

end PlanCompiler
