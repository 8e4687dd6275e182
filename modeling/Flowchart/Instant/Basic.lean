/-!
# Dates and instants

A date is one of the Gregorian calendar, extended to all years; its days are counted from the first
of January 1970. Years start in March in the computation, so that the leap day comes last.

An instant is a point in time: a day, a second of the day and nanoseconds. A leap second shares its
second with the one before and has a thousand million nanoseconds or more. Instants lie between the
first day of the year -262143 and the last day of the year 262142; `addSeconds?` gives none outside.
-/

namespace Flowchart

/-! ## Dates -/

/-- A date. Years before the first are zero and negative. -/
structure Date where
  year : Int
  month : Nat
  day : Nat
  deriving DecidableEq, Repr

namespace Date

/-- Whether a year has a leap day. -/
def isLeapYear (year : Int) : Bool :=
  year % 4 == 0 && (year % 100 != 0 || year % 400 == 0)

/-- The number of days of a month. -/
def monthLength (year : Int) (month : Nat) : Nat :=
  if month = 2 then if isLeapYear year then 29 else 28
  else if month = 4 || month = 6 || month = 9 || month = 11 then 30
  else 31

/-- Whether a date exists. -/
def isValid (d : Date) : Bool :=
  1 ≤ d.month && d.month ≤ 12 && 1 ≤ d.day && d.day ≤ monthLength d.year d.month

/-- The days from the first of January 1970 to a date. -/
def toDays (d : Date) : Int :=
  let year := if d.month ≤ 2 then d.year - 1 else d.year
  let era := year / 400
  let yearOfEra := year % 400
  let dayOfYear : Int := (153 * ((d.month + 9) % 12) + 2) / 5 + d.day - 1
  let dayOfEra := yearOfEra * 365 + yearOfEra / 4 - yearOfEra / 100 + dayOfYear
  era * 146097 + dayOfEra - 719468

/-- The date so many days after the first of January 1970. -/
def ofDays (days : Int) : Date :=
  let shifted := days + 719468
  let era := shifted / 146097
  let dayOfEra := shifted % 146097
  let yearOfEra := (dayOfEra - dayOfEra / 1460 + dayOfEra / 36524 - dayOfEra / 146096) / 365
  let dayOfYear := dayOfEra - (365 * yearOfEra + yearOfEra / 4 - yearOfEra / 100)
  let shiftedMonth := (5 * dayOfYear + 2) / 153
  let day := dayOfYear - (153 * shiftedMonth + 2) / 5 + 1
  let month := if shiftedMonth < 10 then shiftedMonth + 3 else shiftedMonth - 9
  let year := yearOfEra + era * 400
  ⟨if month ≤ 2 then year + 1 else year, month.toNat, day.toNat⟩

end Date

/-! ## Instants -/

/-- A point in time. Days count from the first of January 1970. -/
structure Instant where
  day : Int
  second : Nat
  nano : Nat
  deriving DecidableEq, Inhabited, Repr

namespace Instant

/-- The number of seconds of a day. -/
def daySeconds : Nat := 86400

/-- The number of nanoseconds of a second. -/
def secondNanos : Nat := 1000000000

/-- The first and the last day. -/
def firstDay : Int := Date.toDays ⟨-262143, 1, 1⟩
def lastDay : Int := Date.toDays ⟨262142, 12, 31⟩

/-- The least instant. -/
def least : Instant := ⟨firstDay, 0, 0⟩

/-- The greatest instant. -/
def greatest : Instant := ⟨lastDay, daySeconds - 1, secondNanos - 1⟩

/-- Whether one instant is earlier than another. -/
def earlier (a b : Instant) : Bool :=
  a.day < b.day || (a.day == b.day && (a.second < b.second ||
    (a.second == b.second && a.nano < b.nano)))

/-- The later of two instants. -/
def later (a b : Instant) : Instant :=
  if a.earlier b then b else a

/-- An instant, unless its day is out of range. -/
def inRange? (t : Instant) : Option Instant :=
  if firstDay ≤ t.day && t.day ≤ lastDay then some t else none

/-- The instant so many whole seconds later, or earlier if the number is negative. Moving away from
a leap second counts it with the second before when going forward, and with the one after when
going back. -/
def addSeconds? (t : Instant) (n : Int) : Option Instant :=
  let leap := secondNanos ≤ t.nano && n != 0
  let start : Int := if leap && n < 0 then t.second + 1 else t.second
  let total := start + n
  inRange? {
    day := t.day + total / daySeconds
    second := (total % daySeconds).toNat
    nano := if leap then t.nano - secondNanos else t.nano }

/-- The instant so many milliseconds later; beyond the greatest instant time stands still. -/
def addMillis (t : Instant) (millis : Nat) : Instant :=
  let nanos := t.nano + millis * 1000000
  match addSeconds? { t with nano := nanos % secondNanos } (nanos / secondNanos) with
  | some later => later
  | none => greatest

/-- The number of seconds from one instant to another, any part of a second dropped, for instants
of which the second is the later. A leap second in between counts if it belongs to one of them. -/
def secondsUntil (a b : Instant) : Int :=
  let gap := (b.day - a.day) * daySeconds + (b.second - a.second : Int)
  let gap :=
    if a.second < b.second && secondNanos ≤ a.nano then gap + 1
    else if b.second < a.second && secondNanos ≤ b.nano then gap - 1
    else gap
  let nanos := (b.nano - a.nano : Int)
  gap + nanos / secondNanos

/-- The number of whole days from one instant to a later one. -/
def daysUntil (a b : Instant) : Int :=
  (a.secondsUntil b).tdiv daySeconds

end Instant
end Flowchart
