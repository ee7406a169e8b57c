import CorpusBench.Calendar.Instant
import CorpusBench.Text.Blank
import CorpusBench.Text.Case

/-!
# Timespans

A timespan field holds a start, an optional end that does not precede it, whether the dates
are uncertain, and the granularity the dates were entered at (a day, a month, a year, or a
time of day).  Editors exchange a timespan as four text parts: start, end, granularity and the
uncertainty flag, the dates written at the span's granularity.

## Main definitions

* `Granularity` — with `parse` (a date entered at the granularity) and `display`.
* `Timespan` — with `make`, `toParts`, `ofParts` and `text`.
-/

namespace CorpusBench

/-- The precision dates were entered at. -/
inductive Granularity where
  | day | month | year | time
  deriving DecidableEq, Repr, Inhabited

/-- A text read as a signed 32-bit integer: an optional sign and at least one ASCII digit. -/
def readInt32? (s : String) : Option Int :=
  let (negative, digits) := match s.toList with
    | '-' :: rest => (true, rest)
    | '+' :: rest => (false, rest)
    | cs => (false, cs)
  if digits.isEmpty || !digits.all Char.isDigit then none
  else
    let v : Nat := digits.foldl (fun acc c => acc * 10 + (c.toNat - 48)) 0
    let n : Int := if negative then -(v : Int) else v
    if -Int.pow 2 31 ≤ n && n < Int.pow 2 31 then some n else none

namespace Granularity

def name : Granularity → String
  | .day => "Day"
  | .month => "Month"
  | .year => "Year"
  | .time => "Time"

def toJson (g : Granularity) : Json := .str g.name

def decoder : Decoder Granularity :=
  Decoder.unitEnum [("Day", .day), ("Month", .month), ("Year", .year), ("Time", .time)]

/-- A granularity by name, ignoring blanks around it and the case of ASCII letters. -/
def ofText (s : String) : Except ClientError Granularity :=
  let key := Text.asciiLowerString (Text.trim s)
  match key with
  | "day" => .ok .day
  | "month" => .ok .month
  | "year" => .ok .year
  | "time" => .ok .time
  | other => .error (.invalidInput ("unknown granularity: " ++ other))

/-- A date-time as shown at this granularity: `YYYY`, `YYYY-MM`, `YYYY-MM-DD` or
`YYYY-MM-DD HH:MM`. -/
def display (g : Granularity) (t : DateTime) : String :=
  match g with
  | .year => yearText t.date.year
  | .month => yearText t.date.year ++ "-" ++ padNat 2 t.date.month
  | .day => t.date.text
  | .time => t.date.text ++ " " ++ t.time.hmText

/-- A date-time as an editor part at this granularity: as shown, but `T` before a time. -/
def part (g : Granularity) (t : DateTime) : String :=
  match g with
  | .time => t.date.text ++ "T" ++ t.time.hmText
  | _ => g.display t

/-- A date entered at this granularity, blanks around it ignored: a year number, `YYYY-MM`,
`YYYY-MM-DD`, or a date with a time of day (`YYYY-MM-DDTHH:MM:SS`, `YYYY-MM-DDTHH:MM` or
`YYYY-MM-DD HH:MM`); dates at midnight except for times. -/
def parse (g : Granularity) (raw : String) : Except ClientError DateTime :=
  let raw := Text.trim raw
  let atMidnight (d : Date) : DateTime := ⟨d, TimeOfDay.midnight⟩
  let parsed : Option DateTime :=
    match g with
    | .year => (readInt32? raw).bind (fun y => (Date.ofYmd? y 1 1).map atMidnight)
    | .month => (readDate Pattern.date (raw ++ "-01")).toOption.map atMidnight
    | .day => (readDate Pattern.date raw).toOption.map atMidnight
    | .time =>
      [Pattern.dateTimeSeconds, Pattern.dateTimeMinutes, Pattern.dateSpaceTime].findSome?
        (fun p => (readPattern p raw).toOption)
  match parsed with
  | some t => .ok t
  | none => .error (.validation (raw ++ " is not a valid " ++ g.name ++ " date"))

end Granularity

/-- A span of dates. -/
structure Timespan where
  start : DateTime
  finish : Option DateTime := none
  uncertain : Bool := false
  granularity : Granularity := .day

namespace Timespan

/-- A timespan, refusing an end before the start. -/
def make (start : DateTime) (finish : Option DateTime) (uncertain : Bool) (g : Granularity) :
    Except ClientError Timespan :=
  match finish with
  | some e =>
    if e.before start then
      .error (.validation ("timespan ends (" ++ e.text ++ ") before it starts (" ++ start.text ++ ")"))
    else .ok ⟨start, finish, uncertain, g⟩
  | none => .ok ⟨start, finish, uncertain, g⟩

/-- The editor parts: start, end (empty when open), granularity and `true`/`false`. -/
def toParts (s : Timespan) : List String :=
  [s.granularity.part s.start, (s.finish.map s.granularity.part).getD "", s.granularity.name,
    toString s.uncertain]

/-- A timespan from editor parts; missing or blank trailing parts mean no end, day granularity
and certain.  The granularity is read first, then the start (which must be given), then the
end. -/
def ofParts (parts : List String) : Except ClientError Timespan := do
  let part (i : Nat) : Option String :=
    (parts[i]?.map Text.trim).filter (fun s => !s.isEmpty)
  let g ← match part 2 with
    | some t => Granularity.ofText t
    | none => .ok .day
  let some startText := part 0 | .error (.validation "timespan needs a start date")
  let start ← g.parse startText
  let finish ← match part 1 with
    | some e => some <$> g.parse e
    | none => .ok none
  let uncertain := match part 3 with
    | some "true" | some "on" => true
    | _ => false
  make start finish uncertain g

/-- The span as shown: `c. ` when uncertain, the start, and ` – ` and the end when it differs
from the start. -/
def text (s : Timespan) : String :=
  (if s.uncertain then "c. " else "") ++ s.granularity.display s.start ++
  (match s.finish with
   | some e => if e = s.start then "" else " – " ++ s.granularity.display e
   | none => "")

def toJson (s : Timespan) : Json :=
  Json.mkObj [("start", s.start.toJson), ("end", Json.ofOption DateTime.toJson s.finish),
    ("uncertain", .bool s.uncertain), ("granularity", s.granularity.toJson)]

def decoder : Decoder Timespan := Decoder.record "Timespan" <|
  Timespan.mk <$> RecordReader.field "start" DateTime.decoder
    <*> RecordReader.optFieldOr "end" DateTime.decoder
    <*> RecordReader.fieldOr "uncertain" Decoder.bool false
    <*> RecordReader.fieldOr "granularity" Granularity.decoder .day

end Timespan

end CorpusBench
