/-!
Points in time and their dates.  Time is counted in microseconds from the start of 1970, UTC, and
dates are those of the Gregorian calendar, carried back before its introduction.
-/

namespace HeadLint

/-- A point in time, in microseconds from the start of 1970. -/
structure Instant where
  micros : Int
deriving DecidableEq, Inhabited

/-- A day of the calendar. -/
structure Date where
  year : Int
  month : Nat
  day : Nat
deriving DecidableEq, Inhabited

namespace Date

/-- The days from the start of 1970 to a date.  Years are counted from March, so that the leap day
is the last of its year, and grouped by four hundred, after which the calendar repeats. -/
def toDays (d : Date) : Int :=
  let year := if d.month ≤ 2 then d.year - 1 else d.year
  let era := year.fdiv 400
  let yearOfEra := (year - era * 400).toNat
  let month := if d.month ≤ 2 then d.month + 9 else d.month - 3
  let dayOfYear := (153 * month + 2) / 5 + d.day - 1
  let dayOfEra := yearOfEra * 365 + yearOfEra / 4 - yearOfEra / 100 + dayOfYear
  era * 146097 + dayOfEra - 719468

/-- The date so many days after the start of 1970. -/
def ofDays (days : Int) : Date :=
  let shifted := days + 719468
  let era := shifted.fdiv 146097
  let dayOfEra := (shifted - era * 146097).toNat
  let yearOfEra := (dayOfEra - dayOfEra / 1460 + dayOfEra / 36524 - dayOfEra / 146096) / 365
  let dayOfYear := dayOfEra - (365 * yearOfEra + yearOfEra / 4 - yearOfEra / 100)
  let month := (5 * dayOfYear + 2) / 153
  let day := dayOfYear - (153 * month + 2) / 5 + 1
  let year := era * 400 + yearOfEra
  if month < 10 then ⟨year, month + 3, day⟩ else ⟨year + 1, month - 9, day⟩

/-- A number filled up with zeros to a width. -/
def padded (width n : Nat) : String :=
  let digits := Nat.toDigits 10 n
  String.ofList (List.replicate (width - digits.length) '0' ++ digits)

/-- A date as year, month and day. -/
def toText (d : Date) : String :=
  s!"{padded 4 d.year.toNat}-{padded 2 d.month}-{padded 2 d.day}"

end Date

namespace Instant

/-- Microseconds in a second. -/
def second : Int := 1000000

/-- The first second of year 1. -/
def firstSecond : Int := -62135596800

/-- The last second of year 9999. -/
def lastSecond : Int := 253402300799

/-- Whether an instant lies in the years 1 to 9999. -/
def inRange (t : Instant) : Bool :=
  let seconds := t.micros.fdiv second
  firstSecond ≤ seconds && seconds ≤ lastSecond

/-- The date of an instant. -/
def date (t : Instant) : Date :=
  Date.ofDays (t.micros.fdiv (86400 * second))

/-- An instant as date and time of day in UTC; microseconds are shown when there are any. -/
def toText (t : Instant) : String :=
  let rest := (t.micros.fmod (86400 * second)).toNat
  let micros := rest % 1000000
  let seconds := rest / 1000000
  let fraction := if micros == 0 then "" else s!".{Date.padded 6 micros}"
  s!"{t.date.toText}T{Date.padded 2 (seconds / 3600)}:{Date.padded 2 (seconds / 60 % 60)}:" ++
    s!"{Date.padded 2 (seconds % 60)}{fraction}+00:00"

end Instant

end HeadLint
