import Multitenancy.Text.Blank
import Multitenancy.Text.Reader
/-!
# Points in Time

When a tenant was created and last changed, to the nanosecond and in UTC.

A timestamp is written as `2024-05-01T12:00:00.5Z`, with as few fractional
digits as lose nothing, taken from 0, 3, 6 and 9. A leap second keeps its
place between second 59 and the next minute: its nanoseconds start at one
billion, and it is written as second 60.

Two readings exist, because timestamps come from two places. `lenient?` reads
what documents may hold: missing leading zeros, blanks before numbers, `UTC`
for the zone. `column?` reads what a database column may hold: the form of
RFC 3339, and otherwise also no zone at all, which means UTC, and no seconds.

## Main definitions

* `Timestamp`: Seconds since 1970 and nanoseconds.
* `Timestamp.render`: The written form.
* `Timestamp.lenient?`, `Timestamp.column?`: The two readings.
-/

namespace Multitenancy

/-- A point in time. `nanos` is below one billion, or below two billion in a
    leap second. -/
structure Timestamp where
  seconds : Int
  nanos : Nat
  deriving DecidableEq, Repr

namespace Timestamp

/-- Whether a year has a 29 February. -/
def isLeapYear (year : Int) : Bool :=
  year % 4 == 0 && (year % 100 != 0 || year % 400 == 0)

/-- The length of a month. -/
def daysInMonth (year : Int) (month : Nat) : Nat :=
  if month == 2 then (if isLeapYear year then 29 else 28)
  else if month == 4 || month == 6 || month == 9 || month == 11 then 30
  else 31

/-- Days from 1 January 1970 to a date, counting years from March so that the
    leap day comes last. -/
def daysOfDate (year : Int) (month day : Nat) : Int :=
  let y := if month ≤ 2 then year - 1 else year
  let era := y / 400
  let yearOfEra := y % 400
  let monthFromMarch : Int := (month + 9) % 12
  let dayOfYear := (153 * monthFromMarch + 2) / 5 + day - 1
  let dayOfEra := yearOfEra * 365 + yearOfEra / 4 - yearOfEra / 100 + dayOfYear
  era * 146097 + dayOfEra - 719468

/-- The date a number of days after 1 January 1970: year, month, day. -/
def dateOfDays (days : Int) : Int × Int × Int :=
  let z := days + 719468
  let era := z / 146097
  let dayOfEra := z % 146097
  let yearOfEra := (dayOfEra - dayOfEra / 1460 + dayOfEra / 36524 - dayOfEra / 146096) / 365
  let dayOfYear := dayOfEra - (365 * yearOfEra + yearOfEra / 4 - yearOfEra / 100)
  let monthFromMarch := (5 * dayOfYear + 2) / 153
  let day := dayOfYear - (153 * monthFromMarch + 2) / 5 + 1
  let month := if monthFromMarch < 10 then monthFromMarch + 3 else monthFromMarch - 9
  let year := yearOfEra + era * 400
  (if month ≤ 2 then year + 1 else year, month, day)

/-- A number with zeros in front up to a width. -/
def padded (width : Nat) (n : Nat) : String :=
  let digits := toString n
  String.ofList (List.replicate (width - digits.length) '0') ++ digits

/-- The fraction of a second with the fewest of 0, 3, 6 and 9 digits that lose
    nothing. -/
def fraction (nanos : Nat) : String :=
  if nanos == 0 then ""
  else if nanos % 1000000 == 0 then "." ++ padded 3 (nanos / 1000000)
  else if nanos % 1000 == 0 then "." ++ padded 6 (nanos / 1000)
  else "." ++ padded 9 nanos

/-- The year of a date; outside 0 to 9999 it carries its sign. -/
def yearText (year : Int) : String :=
  if 0 ≤ year && year ≤ 9999 then padded 4 year.toNat
  else if year < 0 then "-" ++ padded 4 year.natAbs
  else "+" ++ padded 4 year.toNat

/-- The written form, in UTC. -/
def render (t : Timestamp) : String :=
  let days := t.seconds / 86400
  let second := (t.seconds % 86400).toNat
  let (year, month, day) := dateOfDays days
  let leap := 1000000000 ≤ t.nanos
  let shown := if leap then second % 60 + 1 else second % 60
  let nanos := if leap then t.nanos - 1000000000 else t.nanos
  yearText year ++ "-" ++ padded 2 month.toNat ++ "-" ++ padded 2 day.toNat ++ "T" ++
    padded 2 (second / 3600) ++ ":" ++ padded 2 (second / 60 % 60) ++ ":" ++ padded 2 shown ++
    fraction nanos ++ "Z"

open Reader

/-- A number of at least `least` and at most `most` digits. -/
def digits (least most : Nat) : Reader Nat := fun cs =>
  let found := (cs.takeWhile Char.isDigit).take most
  if found.length < least then none
  else some (found.foldl (fun n c => n * 10 + (c.toNat - '0'.toNat)) 0, cs.drop found.length)

/-- Use the blanks in front. -/
def blanks : Reader Unit := do
  let _ ← takeWhile Text.isBlank

/-- The fraction of a second in nanoseconds; digits beyond the ninth are
    dropped. No point means none. -/
def fractionOf : Reader Nat := do
  if ← char? '.' then
    let ds ← takeWhile1 Char.isDigit
    let nine := (ds ++ List.replicate 9 '0').take 9
    pure (nine.foldl (fun n c => n * 10 + (c.toNat - '0'.toNat)) 0)
  else pure 0

/-- The seconds by which a zone is ahead of UTC, from its sign, hours and
    minutes. A zone is less than a day ahead or behind. -/
def zoneSeconds (negative : Bool) (hours minutes : Nat) : Reader Int :=
  let total := hours * 3600 + minutes * 60
  if minutes < 60 && total < 86400 then pure (if negative then -(total : Int) else total)
  else fail

/-- Put a timestamp together from the fields of a date, a time of day and a
    zone; fields that name no time are a failure. -/
def ofFields (year : Int) (month day hour minute second nanos : Nat) (zone : Int) :
    Option Timestamp :=
  if 1 ≤ month && month ≤ 12 && 1 ≤ day && day ≤ daysInMonth year month && hour < 24 &&
      minute < 60 && second ≤ 60 && -262143 ≤ year && year ≤ 262142 then
    let leap := second == 60
    let time := hour * 3600 + minute * 60 + (if leap then 59 else second)
    some {
      seconds := daysOfDate year month day * 86400 + time - zone
      nanos := if leap then nanos + 1000000000 else nanos }
  else none

/-- `ofFields` as a reading. -/
def finish (year : Int) (month day hour minute second nanos : Nat) (zone : Int) :
    Reader Timestamp :=
  match ofFields year month day hour minute second nanos zone with
  | some t => pure t
  | none => fail

/-- The form of RFC 3339: full width numbers, `T` or a space between date and
    time, and a zone, which is `Z` or hours and minutes. -/
def strict : Reader Timestamp := do
  let year ← digits 4 4
  char '-'
  let month ← digits 2 2
  char '-'
  let day ← digits 2 2
  let _ ← satisfy fun c => c == 'T' || c == 't' || c == ' '
  let hour ← digits 2 2
  char ':'
  let minute ← digits 2 2
  char ':'
  let second ← digits 2 2
  let nanos ← fractionOf
  let mark ← satisfy fun c => c == 'Z' || c == 'z' || c == '+' || c == '-'
  let zone ← if mark == 'Z' || mark == 'z' then pure (0 : Int) else do
    let hours ← digits 2 2
    char ':'
    let minutes ← digits 2 2
    zoneSeconds (mark == '-') hours minutes
  finish year month day hour minute second nanos zone

/-- A year of up to four digits, or of any number of digits after a sign. -/
def looseYear : Reader Int := do
  blanks
  match ← peek? with
  | some '-' => do
    char '-'
    let n ← digits 1 1000
    pure (-(n : Int))
  | some '+' => do
    char '+'
    let n ← digits 1 1000
    pure (n : Int)
  | _ => do
    let n ← digits 1 4
    pure (n : Int)

/-- A number of one or two digits with blanks in front. -/
def loosePair : Reader Nat := do
  blanks
  digits 1 2

/-- A date whose numbers may lack leading zeros. -/
def looseDate : Reader (Int × Nat × Nat) := do
  let year ← looseYear
  blanks
  char '-'
  let month ← loosePair
  blanks
  char '-'
  let day ← loosePair
  pure (year, month, day)

/-- A zone written as a sign, hours and minutes, with a colon or blanks
    between. -/
def looseOffset : Reader Int := do
  let sign ← satisfy fun c => c == '+' || c == '-' || c == '−'
  let hours ← digits 2 2
  let _ ← takeWhile fun c => c == ':' || Text.isBlank c
  let minutes ← digits 2 2
  zoneSeconds (sign != '+') hours minutes

/-- The form documents may hold. -/
def lenient : Reader Timestamp := do
  let (year, month, day) ← looseDate
  let _ ← satisfy fun c => c == 'T' || c == 't' || c == ' '
  let hour ← loosePair
  blanks
  char ':'
  let minute ← loosePair
  blanks
  char ':'
  let second ← loosePair
  let nanos ← fractionOf
  blanks
  let zone ← orElse (do
      let letters ← exactly 3 Char.isAlpha
      if letters.map Char.toUpper == ['U', 'T', 'C'] then pure (0 : Int) else fail)
    (orElse (do
        let _ ← satisfy fun c => c == 'Z' || c == 'z'
        pure (0 : Int))
      looseOffset)
  blanks
  finish year month day hour minute second nanos zone

/-- The form a column may hold: blanks or `T` between date and time, seconds
    and zone optional. -/
def column : Reader Timestamp := do
  let (year, month, day) ← looseDate
  if ← char? 'T' then pure () else blanks
  let hour ← loosePair
  char ':'
  let minute ← loosePair
  let (second, nanos) ← orElse (do
      char ':'
      let second ← loosePair
      let nanos ← fractionOf
      pure (second, nanos))
    (pure (0, 0))
  let zone ← orElse (do
      char 'Z'
      pure (0 : Int))
    (orElse (do
        blanks
        looseOffset)
      (pure 0))
  finish year month day hour minute second nanos zone

/-- Read a timestamp of a document. -/
def lenient? (s : String) : Option Timestamp :=
  lenient.run s.toList

/-- Read a timestamp of a database column. -/
def column? (s : String) : Option Timestamp :=
  (orElse (fun cs => match strict cs with
    | some (t, []) => some (t, [])
    | _ => none) column).run s.toList

end Timestamp

end Multitenancy
