import HeadLint.Calendar
import HeadLint.Json.Display
import HeadLint.Text.Digit

/-!
Points in time written as text: a date by month or by week, a separator, a time of day with an
optional fraction, and an optional distance from UTC.  The marks between the numbers may be missing,
and so may everything behind the date.
-/

namespace HeadLint.Timestamp

open Text

/-- Why a text is not a point in time: its form, or a number that is out of range. -/
inductive Fault where
  | malformed (text : String)
  | year (n : Nat)
  | month
  | day
  | hour
  | minute
  | second
deriving DecidableEq

/-- The account of a fault. -/
def Fault.message : Fault → String
  | .malformed text => s!"Invalid isoformat string: {Json.quoted text}"
  | .year n => s!"year {n} is out of range"
  | .month => "month must be in 1..12"
  | .day => "day is out of range for month"
  | .hour => "hour must be in 0..23"
  | .minute => "minute must be in 0..59"
  | .second => "second must be in 0..59"

/-- A number of exactly `width` digits at the start of a text. -/
def readNumber? (width : Nat) (s : List Char) : Option (Nat × List Char) :=
  let digits := (s.take width).filterMap asciiDigit?
  if digits.length == width then some (ofDigits 10 digits, s.drop width) else none

/-- What follows a given character. -/
def expect? (c : Char) : List Char → Option (List Char)
  | a :: rest => if a == c then some rest else none
  | [] => none

/-- A leap year has a day more in February. -/
def isLeap (year : Int) : Bool :=
  year % 4 == 0 && (year % 100 != 0 || year % 400 == 0)

/-- The number of days of a month. -/
def daysInMonth (year : Int) (month : Nat) : Nat :=
  if month == 2 then if isLeap year then 29 else 28
  else if month == 4 || month == 6 || month == 9 || month == 11 then 30
  else 31

/-- The day of the week that a date falls on; Monday is zero. -/
def weekday (d : Date) : Nat :=
  ((d.toDays + 3) % 7).toNat

/-- The number of weeks of a year: 53 if it starts on a Thursday, or on a Wednesday and has a leap
day, and 52 otherwise. -/
def weeksOf (year : Nat) : Nat :=
  let first := weekday ⟨year, 1, 1⟩
  if first == 3 || (first == 2 && isLeap year) then 53 else 52

/-- The date of a day of a week; the first week of a year is the one with its first Thursday. -/
def dateOfWeek? (year week day : Nat) : Option Date :=
  if year == 0 || week == 0 || weeksOf year < week || day == 0 || 7 < day then none
  else
    let first : Date := ⟨year, 1, 1⟩
    let offset := weekday first
    let monday := first.toDays - offset + if 3 < offset then 7 else 0
    some (Date.ofDays (monday + 7 * (week - 1 : Nat) + (day - 1 : Nat)))

/-- Week and day behind the letter of a date by week; without a day it is the first. -/
def readWeek? (year : Nat) (marked : Bool) (s : List Char) : Option Date := do
  let (week, s) ← readNumber? 2 s
  if s.isEmpty then dateOfWeek? year week 1
  else
    let s ← if marked then expect? '-' s else some s
    let (day, _) ← readNumber? 1 s
    dateOfWeek? year week day

/-- A date that is a whole text. -/
def readDate? (s : List Char) : Option Date := do
  let (year, s) ← readNumber? 4 s
  let marked := s.head? == some '-'
  let s := if marked then s.drop 1 else s
  match s with
  | 'W' :: rest => readWeek? year marked rest
  | _ =>
    let (month, s) ← readNumber? 2 s
    let s ← if marked then expect? '-' s else some s
    let (day, s) ← readNumber? 2 s
    if s.isEmpty then some ⟨year, month, day⟩ else none

/-- The length of a date by week without marks.  A digit behind the week is its day, unless that
would leave an odd number of digits for a separator and the pairs of a time. -/
def plainWeekLength (s : List Char) : Nat :=
  let stop := 7 + ((s.drop 7).takeWhile isAsciiDigit).length
  if stop < 9 then stop else if stop % 2 == 0 then 7 else 8

/-- The length of the date at the start of a text, from which its form can be told. -/
def dateLength? (s : List Char) : Option Nat :=
  if s.length < 7 then none
  else if s.length == 7 then some 7
  else if s[4]? == some '-' then
    if s[5]? == some 'W' then
      if s[8]? == some '-' then
        if s.length == 9 then none
        else if (s[10]?.any isAsciiDigit) then some 8
        else some 10
      else some 8
    else some 10
  else if s[4]? == some 'W' then some (plainWeekLength s)
  else some 8

/-- A time of day, in hours, minutes, seconds and microseconds. -/
structure Clock where
  hour : Nat := 0
  minute : Nat := 0
  second : Nat := 0
  micros : Nat := 0

/-- What follows the numbers of a time of day: at most one character, which does not belong to it, or
a fraction of a second. -/
inductive Tail where
  | ended (whole : Bool)
  | fraction (s : List Char)

/-- The numbers of a time of day, at most `count`, and what follows them; colons stand between them
if `marked`. -/
def readParts? (marked : Bool) : Nat → List Char → Option (List Nat × Tail)
  | 0, s => some ([], .fraction s)
  | count + 1, s => do
    let (n, s) ← readNumber? 2 s
    match s with
    | [] => some ([n], .ended true)
    | [_] => some ([n], .ended false)
    | c :: rest =>
      if marked && c == ':' then
        let (more, tail) ← readParts? marked count rest
        some (n :: more, tail)
      else if c == '.' || c == ',' then some ([n], .fraction rest)
      else if marked then none
      else
        let (more, tail) ← readParts? marked count s
        some (n :: more, tail)

/-- A fraction of a second in microseconds, and what follows; digits beyond the sixth are
dropped. -/
def readMicros? (s : List Char) : Option (Nat × List Char) :=
  let width := min 6 s.length
  (readNumber? width s).map fun (n, rest) =>
    (n * Nat.pow 10 (6 - width), rest.dropWhile isAsciiDigit)

/-- A time of day, and whether it takes the whole text. -/
def readClock? (s : List Char) : Option (Clock × Bool) := do
  let (parts, tail) ← readParts? ((s.drop 2).head? == some ':') 3 s
  let clock : Clock :=
    { hour := parts.getD 0 0, minute := parts.getD 1 0, second := parts.getD 2 0 }
  match tail with
  | .ended whole => some (clock, whole)
  | .fraction s =>
    let (micros, rest) ← readMicros? s
    some ({ clock with micros }, rest.isEmpty)

namespace Clock

/-- The time since the start of the day, in microseconds. -/
def toMicros (c : Clock) : Int :=
  ((c.hour * 3600 + c.minute * 60 + c.second : Nat) : Int) * Instant.second + c.micros

/-- The first number that is out of range. -/
def fault? (c : Clock) : Option Fault :=
  if 24 ≤ c.hour then some .hour
  else if 60 ≤ c.minute then some .minute
  else if 60 ≤ c.second then some .second
  else none

end Clock

/-- A distance from UTC in microseconds, less than a day; one of less than a second is none. -/
def readOffset? (s : List Char) : Option Int := do
  let (clock, whole) ← readClock? s
  let micros := clock.toMicros
  if !whole || 86400 * Instant.second ≤ micros then none
  else some (if micros < Instant.second then 0 else micros)

/-- A time of day, and its distance from UTC, which is zero if it is not given. -/
def readTime? (s : List Char) : Option (Clock × Int) := do
  let body := s.takeWhile fun c => c != '+' && c != '-' && c != 'Z'
  let (clock, whole) ← readClock? body
  match s.drop body.length with
  | [] => if whole then some (clock, 0) else none
  | sign :: rest =>
    if sign == 'Z' then if rest.isEmpty then some (clock, 0) else none
    else
      let offset ← readOffset? rest
      some (clock, if sign == '-' then -offset else offset)

/-- The parts of a point in time: date, time of day and distance from UTC. -/
def readAll? (s : List Char) : Option (Date × Clock × Int) := do
  let length ← dateLength? s
  let date ← readDate? (s.take length)
  match s.drop length with
  | [] => some (date, {}, 0)
  | _ :: time =>
    let (clock, offset) ← readTime? time
    some (date, clock, offset)

/-- The first number of a date that is out of range. -/
def dateFault? (d : Date) : Option Fault :=
  if d.year < 1 ∨ 9999 < d.year then some (.year d.year.toNat)
  else if d.month == 0 || 12 < d.month then some .month
  else if d.day == 0 || daysInMonth d.year d.month < d.day then some .day
  else none

/-- Reads a point in time. -/
def read (text : String) : Except Fault Instant :=
  match readAll? text.toList with
  | none => .error (.malformed text)
  | some (date, clock, offset) =>
    match dateFault? date, clock.fault? with
    | some fault, _ => .error fault
    | none, some fault => .error fault
    | none, none => .ok ⟨date.toDays * 86400 * Instant.second + clock.toMicros - offset⟩

end HeadLint.Timestamp
