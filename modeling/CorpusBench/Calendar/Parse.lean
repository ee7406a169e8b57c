import CorpusBench.Calendar.Date
import CorpusBench.Text.Blank

/-!
# Reading dates and times

A date-time text is read against a pattern of items: numeric fields (year, month, day, hour,
minute, second), literal characters, runs of blanks, and an optional fraction of a second.
Reading fills a record of fields, each range-checked as it is read; the record is then resolved
into a date, a time or a date-time, and a fault names the first thing that went wrong.

Numeric fields skip leading blanks and read ASCII digits: a year at most four digits unless it
carries a sign, the other fields one or two.  A fraction is a point followed by one to nine
digits (further digits are read and dropped).

## Main definitions

* `DateFault` — the faults, with their texts.
* `readDateTime` — `YYYY-MM-DDTHH:MM:SS[.fff]`, the form of date-times in documents.
* `readPattern` — a date or date-time against a pattern (`Pattern.date`,
  `Pattern.dateTimeSeconds`, …).
* `readStamp` — a date-time with an offset (`Z`, `UTC`, `+01:00`), as a UTC
  date-time; `readStampStrict` is the strict form of internet timestamps.
-/

namespace CorpusBench

/-- Why a date-time text does not read. -/
inductive DateFault where
  /-- A field outside its range, or a date that does not exist. -/
  | outOfRange
  | impossible
  /-- The pattern does not fix a date and time. -/
  | notEnough
  /-- A character where the pattern has another. -/
  | invalid
  /-- The text ends before the pattern. -/
  | tooShort
  /-- Text after the pattern. -/
  | tooLong
  deriving DecidableEq, Repr

/-- The text of a fault. -/
def DateFault.message : DateFault → String
  | .outOfRange => "input is out of range"
  | .impossible => "no possible date and time matching input"
  | .notEnough => "input is not enough for unique date and time"
  | .invalid => "input contains invalid characters"
  | .tooShort => "premature end of input"
  | .tooLong => "trailing input"

/-- The numeric fields of a date-time pattern. -/
inductive DateField where
  | year | month | day | hour | minute | second
  deriving DecidableEq, Repr

/-- One item of a date-time pattern. -/
inductive DateItem where
  | numeric (f : DateField)
  | literal (c : Char)
  | blanks
  /-- An optional fraction of a second: a point and digits. -/
  | fraction
  deriving DecidableEq, Repr

/-- The fields read so far. -/
structure DateFields where
  year : Option Int := none
  month : Option Nat := none
  day : Option Nat := none
  hour : Option Nat := none
  minute : Option Nat := none
  second : Option Nat := none
  nano : Option Nat := none
  /-- Seconds east of UTC. -/
  offset : Option Int := none
  deriving Repr

namespace DateFields

/-- The largest value of a signed 64-bit word. -/
def wordMax : Nat := Nat.pow 2 63 - 1

/-- Record a numeric field, refusing a value outside its range. -/
def set (p : DateFields) (f : DateField) (v : Int) : Except DateFault DateFields :=
  let inRange (lo hi : Int) : Bool := lo ≤ v && v ≤ hi
  match f with
  | .year =>
    if inRange (-Int.pow 2 31) (Int.pow 2 31 - 1) then .ok { p with year := some v } else .error .outOfRange
  | .month => if inRange 1 12 then .ok { p with month := some v.toNat } else .error .outOfRange
  | .day => if inRange 1 31 then .ok { p with day := some v.toNat } else .error .outOfRange
  | .hour => if inRange 0 23 then .ok { p with hour := some v.toNat } else .error .outOfRange
  | .minute => if inRange 0 59 then .ok { p with minute := some v.toNat } else .error .outOfRange
  | .second => if inRange 0 60 then .ok { p with second := some v.toNat } else .error .outOfRange

/-- The date the fields give. -/
def toDate (p : DateFields) : Except DateFault Date :=
  match p.year, p.month, p.day with
  | some y, some m, some d =>
    match Date.ofYmd? y m d with
    | some date => .ok date
    | none => .error .outOfRange
  | _, _, _ => .error .notEnough

/-- The time the fields give; seconds default to zero, and second 60 is a leap second. -/
def toTime (p : DateFields) : Except DateFault TimeOfDay := do
  let some h := p.hour | .error .notEnough
  let some m := p.minute | .error .notEnough
  let (s, leap) : Nat × Nat :=
    match p.second with
    | some 60 => (59, 1000000000)
    | some s => (s, 0)
    | none => (0, 0)
  let nano ← match p.nano, p.second with
    | some n, some _ => .ok n
    | some _, none => .error .notEnough
    | none, _ => .ok 0
  match TimeOfDay.ofHmsNano? h m s (nano + leap) with
  | some t => .ok t
  | none => .error .outOfRange

/-- The date-time the fields give; a fault of the date comes before one of the time. -/
def toDateTime (p : DateFields) : Except DateFault DateTime :=
  match p.toDate, p.toTime with
  | .ok d, .ok t => .ok ⟨d, t⟩
  | .error e, _ => .error e
  | _, .error e => .error e

/-- The UTC date-time the fields give with their offset. -/
def toUtc (p : DateFields) : Except DateFault DateTime := do
  let some off := p.offset | .error .notEnough
  let wall ← p.toDateTime
  if off.natAbs ≥ 86400 then .error .outOfRange
  else
    match wall.shift (-off) with
    | some t => .ok t
    | none => .error .outOfRange

end DateFields

/-- Split off the leading ASCII digits, at most `max` of them. -/
def takeDigits (max : Nat) (cs : List Char) : List Char × List Char :=
  let ds := (cs.takeWhile Char.isDigit).take max
  (ds, cs.drop ds.length)

/-- Read between `min` (at least one) and `max` digits; a text shorter than `min` bytes ends
early, whatever it holds. -/
def scanNumber (min max : Nat) (cs : List Char) : Except DateFault (Nat × List Char) :=
  if (cs.map Char.utf8Size).foldr (· + ·) 0 < min then .error .tooShort
  else
    let (ds, rest) := takeDigits max cs
    if ds.length < min then .error .invalid
    else
      let v := digitsValue ds
      if v > DateFields.wordMax then .error .outOfRange else .ok (v, rest)
where
  digitsValue (ds : List Char) : Nat := ds.foldl (fun acc c => acc * 10 + (c.toNat - 48)) 0

/-- Read a numeric field: blanks, then a year with an optional sign (any number of digits
after a sign, four without), or one or two digits. -/
def scanField (f : DateField) (cs : List Char) : Except DateFault (Int × List Char) :=
  let cs := Text.dropBlanks cs
  match f, cs with
  | .year, '-' :: rest => do
    let (v, r) ← scanNumber 1 rest.length rest
    return (-(v : Int), r)
  | .year, '+' :: rest => do
    let (v, r) ← scanNumber 1 rest.length rest
    return ((v : Int), r)
  | .year, _ => do
    let (v, r) ← scanNumber 1 4 cs
    return ((v : Int), r)
  | _, _ => do
    let (v, r) ← scanNumber 1 2 cs
    return ((v : Int), r)

/-- Read a fraction of a second after its point: one to nine digits scaled to nanoseconds,
further digits dropped. -/
def scanFraction (cs : List Char) : Except DateFault (Nat × List Char) := do
  let (v, rest) ← scanNumber 1 9 cs
  let used := cs.length - rest.length
  return (v * Nat.pow 10 (9 - used), rest.dropWhile Char.isDigit)

/-- Read the items of a pattern, giving the fields and the rest of the text. -/
def readItems : List DateItem → List Char → DateFields → Except DateFault (List Char × DateFields)
  | [], cs, p => .ok (cs, p)
  | .literal c :: items, cs, p =>
    match cs with
    | [] => .error .tooShort
    | d :: rest => if d = c then readItems items rest p else .error .invalid
  | .blanks :: items, cs, p => readItems items (Text.dropBlanks cs) p
  | .fraction :: items, cs, p =>
    match cs with
    | '.' :: rest => do
      let (n, r) ← scanFraction rest
      readItems items r { p with nano := some n }
    | _ => readItems items cs p
  | .numeric f :: items, cs, p => do
    let (v, r) ← scanField f cs
    readItems items r (← p.set f v)

/-- Read a whole text against a pattern. -/
def readAll (items : List DateItem) (s : String) : Except DateFault DateFields := do
  let (rest, p) ← readItems items s.toList {}
  if rest.isEmpty then .ok p else .error .tooLong

namespace Pattern

/-- `Y-M-D` with blanks allowed before each separator. -/
def looseDate : List DateItem :=
  [.numeric .year, .blanks, .literal '-', .numeric .month, .blanks, .literal '-', .numeric .day]

/-- `H:M:S[.f]` with blanks allowed before each separator and at the end. -/
def looseTime : List DateItem :=
  [.numeric .hour, .blanks, .literal ':', .numeric .minute, .blanks, .literal ':',
   .numeric .second, .fraction, .blanks]

/-- The date-time of documents: `Y-M-DTH:M:S[.f]`. -/
def documentDateTime : List DateItem := looseDate ++ [.blanks, .literal 'T'] ++ looseTime

/-- `Y-M-D`. -/
def date : List DateItem :=
  [.numeric .year, .literal '-', .numeric .month, .literal '-', .numeric .day]

/-- `Y-M-DTH:M:S`. -/
def dateTimeSeconds : List DateItem :=
  date ++ [.literal 'T', .numeric .hour, .literal ':', .numeric .minute, .literal ':',
    .numeric .second]

/-- `Y-M-DTH:M`. -/
def dateTimeMinutes : List DateItem :=
  date ++ [.literal 'T', .numeric .hour, .literal ':', .numeric .minute]

/-- `Y-M-D H:M`, any blanks between date and time. -/
def dateSpaceTime : List DateItem :=
  date ++ [.blanks, .numeric .hour, .literal ':', .numeric .minute]

end Pattern

/-- A date-time as documents write it: `YYYY-MM-DDTHH:MM:SS[.fff]`. -/
def readDateTime (s : String) : Except DateFault DateTime := do
  (← readAll Pattern.documentDateTime s).toDateTime

/-- A date-time against a pattern that gives a date and a time. -/
def readPattern (items : List DateItem) (s : String) : Except DateFault DateTime := do
  (← readAll items s).toDateTime

/-- A date against a pattern that gives a date. -/
def readDate (items : List DateItem) (s : String) : Except DateFault Date := do
  (← readAll items s).toDate

/-- Two ASCII digits; a text too short to hold two bytes ends early. -/
def twoDigits (cs : List Char) : Except DateFault (Nat × Nat × List Char) :=
  match cs with
  | [] => .error .tooShort
  | [c] => if c.toNat < 128 then .error .tooShort else .error .invalid
  | a :: b :: rest =>
    if a.isDigit && b.isDigit then .ok (a.toNat - 48, b.toNat - 48, rest) else .error .invalid

/-- An offset from UTC: `Z` (either case), or a sign (`+`, `-` or the minus sign `−`), two
digits of hours, a separator read by `separator`, and two digits of minutes below 60. -/
def scanOffset (separator : List Char → Except DateFault (List Char)) (cs : List Char) :
    Except DateFault (Int × List Char) := do
  match cs with
  | 'Z' :: rest => return (0, rest)
  | 'z' :: rest => return (0, rest)
  | _ => pure ()
  let (negative, cs) ← match cs with
    | '+' :: rest => .ok (false, rest)
    | '-' :: rest => .ok (true, rest)
    | '−' :: rest => .ok (true, rest)
    | [] => .error .tooShort
    | _ => .error .invalid
  let (h1, h2, cs) ← twoDigits cs
  let cs ← separator cs
  let (m1, m2, cs) ← match twoDigits cs with
    | .ok r => .ok r
    | .error .tooShort => .error .tooShort
    | .error e => .error e
  if m1 ≥ 6 then .error .outOfRange
  else
    let secs : Int := ((h1 * 10 + h2) * 3600 + (m1 * 10 + m2) * 60 : Nat)
    return (if negative then -secs else secs, cs)

/-- The separator of a loose offset: any run of colons and blanks. -/
def looseSeparator (cs : List Char) : Except DateFault (List Char) :=
  .ok (cs.dropWhile (fun c => c = ':' || Text.isBlank c))

/-- The separator of a strict offset: one colon. -/
def colonSeparator : List Char → Except DateFault (List Char)
  | ':' :: rest => .ok rest
  | [] => .error .tooShort
  | _ => .error .invalid

/-- The character between date and time of a timestamp: `T`, `t` or a space. -/
def scanDateTimeSeparator : List Char → Except DateFault (List Char)
  | 'T' :: rest | 't' :: rest | ' ' :: rest => .ok rest
  | [] => .error .tooShort
  | _ => .error .invalid

/-- Whether a text starts with `UTC` in any case. -/
def startsWithUtc : List Char → Bool
  | a :: b :: c :: _ => a.toUpper = 'U' && b.toUpper = 'T' && c.toUpper = 'C'
  | _ => false

/-- A timestamp with an offset, loosely: `Y-M-D`, a separator, `H:M:S[.f]`, blanks, and `UTC`
or an offset; trailing blanks are allowed.  The result is the UTC date-time. -/
def readStamp (s : String) : Except DateFault DateTime := do
  let (rest, p) ← readItems Pattern.looseDate s.toList {}
  let rest ← scanDateTimeSeparator rest
  let (rest, p) ← readItems Pattern.looseTime rest p
  let rest := Text.dropBlanks rest
  let (off, rest) ← if startsWithUtc rest then .ok (0, rest.drop 3)
    else scanOffset looseSeparator rest
  let stamped : DateFields := { p with offset := some off }
  if !(Text.dropBlanks rest).isEmpty then .error .tooLong
  else stamped.toUtc

/-- Exactly `n` digits. -/
def exactDigits (n : Nat) (cs : List Char) : Except DateFault (Nat × List Char) :=
  scanNumber n n cs

/-- A strict internet timestamp `YYYY-MM-DDTHH:MM:SS[.f]` with `Z` or `±HH:MM` (below one day),
as the local date-time it names. -/
def readStampStrict (s : String) : Except DateFault DateTime := do
  let cs := s.toList
  let (y, cs) ← exactDigits 4 cs
  let cs ← colonLike '-' cs
  let (mo, cs) ← exactDigits 2 cs
  let cs ← colonLike '-' cs
  let (d, cs) ← exactDigits 2 cs
  let cs ← scanDateTimeSeparator cs
  let (h, cs) ← exactDigits 2 cs
  let cs ← colonLike ':' cs
  let (mi, cs) ← exactDigits 2 cs
  let cs ← colonLike ':' cs
  let (se, cs) ← exactDigits 2 cs
  let p : DateFields := {}
  let p ← p.set .year y
  let p ← p.set .month mo
  let p ← p.set .day d
  let p ← p.set .hour h
  let p ← p.set .minute mi
  let p ← p.set .second se
  let (p, cs) ← match cs with
    | '.' :: rest => do
      let (n, r) ← scanFraction rest
      pure ({ p with nano := some n }, r)
    | _ => pure (p, cs)
  let (off, cs) ← scanOffset colonSeparator cs
  if off.natAbs > (23 * 60 + 59) * 60 then .error .outOfRange
  else if !cs.isEmpty then .error .tooLong
  else
    let stamped : DateFields := { p with offset := some off }
    let _ ← stamped.toUtc
    p.toDateTime
where
  /-- One given separator character. -/
  colonLike (c : Char) : List Char → Except DateFault (List Char)
    | d :: rest => if d = c then .ok rest else .error .invalid
    | [] => .error .tooShort

end CorpusBench
