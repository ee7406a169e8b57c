/-!
# Dates and times of day

Dates of the proleptic Gregorian calendar with years from `-262143` to `262142`, times of day
to the nanosecond, and the two together.  A time of day may stand in a leap second: its
nanosecond count then runs past one second while the second reads 59, and it is written
with second 60.

Text forms:

* a year from 0 to 9999 is written with four digits, any other year with its sign and at
  least four digits (`+99999`, `-0044`);
* a time is `HH:MM:SS`, followed by the fraction in milliseconds, microseconds or
  nanoseconds, whichever is exact, and nothing when the fraction is zero.

## Main definitions

* `Date`, `Date.ofYmd?` — valid dates.
* `TimeOfDay`, `DateTime` — times and date-times, ordered.
* `Date.toDays`, `Date.ofDays` — days since 1970-01-01.
* `DateTime.shift` — moving a date-time by whole seconds.
-/

namespace CorpusBench

/-- The least year of a date. -/
def minYear : Int := -262143

/-- The greatest year of a date. -/
def maxYear : Int := 262142

/-- Whether a year of the proleptic Gregorian calendar has 366 days. -/
def isLeapYear (y : Int) : Bool := y % 4 == 0 && (y % 100 != 0 || y % 400 == 0)

/-- The number of days of a month (1 to 12) of a year. -/
def daysInMonth (y : Int) (m : Nat) : Nat :=
  match m with
  | 2 => if isLeapYear y then 29 else 28
  | 4 | 6 | 9 | 11 => 30
  | _ => 31

/-- A calendar date. -/
structure Date where
  year : Int
  month : Nat
  day : Nat
  deriving DecidableEq, Repr

namespace Date

/-- The date with the given year, month and day, if it exists and its year is in range. -/
def ofYmd? (y : Int) (m d : Nat) : Option Date :=
  if minYear ≤ y && y ≤ maxYear && 1 ≤ m && m ≤ 12 && 1 ≤ d && d ≤ daysInMonth y m then
    some ⟨y, m, d⟩
  else none

/-- Days since 1970-01-01 (negative before). -/
def toDays (dt : Date) : Int :=
  let y : Int := if dt.month ≤ 2 then dt.year - 1 else dt.year
  let era := y / 400
  let yoe := y - era * 400
  let mp : Int := if dt.month > 2 then dt.month - 3 else dt.month + 9
  let doy := (153 * mp + 2) / 5 + dt.day - 1
  let doe := yoe * 365 + yoe / 4 - yoe / 100 + doy
  era * 146097 + doe - 719468

/-- The date a number of days after 1970-01-01. -/
def ofDays (z : Int) : Date :=
  let z := z + 719468
  let era := z / 146097
  let doe := z - era * 146097
  let yoe := (doe - doe / 1460 + doe / 36524 - doe / 146096) / 365
  let doy := doe - (365 * yoe + yoe / 4 - yoe / 100)
  let mp := (5 * doy + 2) / 153
  let d := doy - (153 * mp + 2) / 5 + 1
  let m := if mp < 10 then mp + 3 else mp - 9
  ⟨yoe + era * 400 + (if m ≤ 2 then 1 else 0), m.toNat, d.toNat⟩

/-- Dates in calendar order. -/
def compareDate (a b : Date) : Ordering :=
  (compare a.year b.year).then ((compare a.month b.month).then (compare a.day b.day))

end Date

/-- `n` written with at least `width` digits. -/
def padNat (width n : Nat) : String :=
  let ds := Nat.toDigits 10 n
  String.ofList (List.replicate (width - ds.length) '0' ++ ds)

/-- A year as dates write it: four digits from 0 to 9999, otherwise a sign and at least four
digits. -/
def yearText (y : Int) : String :=
  if 0 ≤ y && y ≤ 9999 then padNat 4 y.toNat
  else (if y < 0 then "-" else "+") ++ padNat 4 y.natAbs

namespace Date

/-- `YYYY-MM-DD`. -/
def text (d : Date) : String := yearText d.year ++ "-" ++ padNat 2 d.month ++ "-" ++ padNat 2 d.day

end Date

/-- A time of day; `nano` reaches past one second only in a leap second, with `second = 59`. -/
structure TimeOfDay where
  hour : Nat
  minute : Nat
  second : Nat
  nano : Nat
  deriving DecidableEq, Repr

namespace TimeOfDay

/-- Midnight. -/
def midnight : TimeOfDay := ⟨0, 0, 0, 0⟩

/-- The time with the given fields, if they are in range (a leap second only at second 59). -/
def ofHmsNano? (h m s nano : Nat) : Option TimeOfDay :=
  if h < 24 && m < 60 && s < 60 && nano < 2000000000 && (nano < 1000000000 || s = 59) then
    some ⟨h, m, s, nano⟩
  else none

/-- Times in order of the day. -/
def compareTime (a b : TimeOfDay) : Ordering :=
  (compare a.hour b.hour).then ((compare a.minute b.minute).then
    ((compare a.second b.second).then (compare a.nano b.nano)))

/-- The second as written: 60 in a leap second. -/
def shownSecond (t : TimeOfDay) : Nat := if t.nano ≥ 1000000000 then t.second + 1 else t.second

/-- The fraction of the second as written: `.mmm`, `.uuuuuu`, `.nnnnnnnnn` or nothing. -/
def fractionText (t : TimeOfDay) : String :=
  let n := t.nano % 1000000000
  if n = 0 then ""
  else if n % 1000000 = 0 then "." ++ padNat 3 (n / 1000000)
  else if n % 1000 = 0 then "." ++ padNat 6 (n / 1000)
  else "." ++ padNat 9 n

/-- `HH:MM`. -/
def hmText (t : TimeOfDay) : String := padNat 2 t.hour ++ ":" ++ padNat 2 t.minute

/-- `HH:MM:SS` and the fraction. -/
def text (t : TimeOfDay) : String :=
  t.hmText ++ ":" ++ padNat 2 t.shownSecond ++ t.fractionText

end TimeOfDay

/-- A date and a time of day, without an offset. -/
structure DateTime where
  date : Date
  time : TimeOfDay
  deriving DecidableEq, Repr

namespace DateTime

/-- Date-times in order. -/
def compareDateTime (a b : DateTime) : Ordering :=
  (Date.compareDate a.date b.date).then (TimeOfDay.compareTime a.time b.time)

/-- Whether `a` comes strictly before `b`. -/
def before (a b : DateTime) : Bool := compareDateTime a b == .lt

/-- `YYYY-MM-DD HH:MM:SS[.fff]`, the form shown to people. -/
def text (t : DateTime) : String := t.date.text ++ " " ++ t.time.text

/-- `YYYY-MM-DDTHH:MM:SS[.fff]`, the form of documents. -/
def isoText (t : DateTime) : String := t.date.text ++ "T" ++ t.time.text

/-- The date-time `secs` seconds later (earlier when negative), if its year is in range; a
leap second keeps its excess nanoseconds. -/
def shift (t : DateTime) (secs : Int) : Option DateTime :=
  let total : Int :=
    t.date.toDays * 86400 + t.time.hour * 3600 + t.time.minute * 60 + t.time.second + secs
  let days := total / 86400
  let rest := (total % 86400).toNat
  let d := Date.ofDays days
  if minYear ≤ d.year && d.year ≤ maxYear then
    some ⟨d, ⟨rest / 3600, rest % 3600 / 60, rest % 60, t.time.nano⟩⟩
  else none

end DateTime

end CorpusBench
