import Multitenancy.Text.Reader
import Multitenancy.Text.Blank
/-!
# Lengths of Time

Lifetimes of cache entries and connections, in nanoseconds.

In settings a length of time is written as numbers with units: `1h 30m`,
`1.5s`, `5minutes`. A month is 30.44 days and a year 365.25 days, so that the
larger units divide evenly into seconds. A lone `0` needs no unit. Written
back, a length of time lists its non-zero parts from years to nanoseconds.

`brief` is the other written form, for logs: one number in the largest unit
of seconds, milli-, micro- and nanoseconds that it fills.

## Main definitions

* `Duration`: A number of nanoseconds.
* `Duration.parse?`: The length of time of a text.
* `Duration.render`: The parts of a length of time.
* `Duration.brief`: The short form for logs.
-/

namespace Multitenancy

/-- A length of time in nanoseconds. -/
abbrev Duration := Nat

namespace Duration

/-- Nanoseconds in a second. -/
def second : Duration := 1000000000

/-- A number of seconds. -/
def ofSeconds (n : Nat) : Duration := n * second

/-- A number of milliseconds. -/
def ofMillis (n : Nat) : Duration := n * 1000000

/-- One part in years, months or days, with a plural. -/
def longPart (n : Nat) (unit : String) : List String :=
  if n == 0 then [] else [toString n ++ unit ++ (if n == 1 then "" else "s")]

/-- One part in a unit that has no plural. -/
def shortPart (n : Nat) (unit : String) : List String :=
  if n == 0 then [] else [toString n ++ unit]

/-- Seconds in a year of 365.25 days. -/
def secondsPerYear : Nat := 31557600

/-- Seconds in a month of 30.44 days. -/
def secondsPerMonth : Nat := 2630016

/-- The non-zero parts from years to nanoseconds. -/
def render (d : Duration) : String :=
  let seconds := d / second
  let nanos := d % second
  let inYear := seconds % secondsPerYear
  let inMonth := inYear % secondsPerMonth
  let inDay := inMonth % 86400
  let parts :=
    longPart (seconds / secondsPerYear) "year" ++
    longPart (inYear / secondsPerMonth) "month" ++
    longPart (inMonth / 86400) "day" ++
    shortPart (inDay / 3600) "h" ++
    shortPart (inDay % 3600 / 60) "m" ++
    shortPart (inDay % 60) "s" ++
    shortPart (nanos / 1000000) "ms" ++
    shortPart (nanos / 1000 % 1000) "us" ++
    shortPart (nanos % 1000) "ns"
  if parts.isEmpty then "0s" else " ".intercalate parts

/-- A number with `places` decimal places, trailing zeros left out. -/
def decimalText (whole part places : Nat) : String :=
  let digits := toString part
  let full := List.replicate (places - digits.length) '0' ++ digits.toList
  let kept := (full.reverse.dropWhile (· == '0')).reverse
  if kept.isEmpty then toString whole
  else toString whole ++ "." ++ String.ofList kept

/-- One number in the largest unit that the length of time fills. -/
def brief (d : Duration) : String :=
  if second ≤ d then decimalText (d / second) (d % second) 9 ++ "s"
  else if 1000000 ≤ d then decimalText (d / 1000000) (d % 1000000) 6 ++ "ms"
  else if 1000 ≤ d then decimalText (d / 1000) (d % 1000) 3 ++ "µs"
  else toString d ++ "ns"

/-- The nanoseconds of a unit. -/
def unit? : String → Option Nat
  | "nanos" | "nsec" | "ns" => some 1
  | "usec" | "us" | "µs" => some 1000
  | "millis" | "msec" | "ms" => some 1000000
  | "seconds" | "second" | "secs" | "sec" | "s" => some second
  | "minutes" | "minute" | "mins" | "min" | "m" => some (60 * second)
  | "hours" | "hour" | "hrs" | "hr" | "h" => some (3600 * second)
  | "days" | "day" | "d" => some (86400 * second)
  | "weeks" | "week" | "wks" | "wk" | "w" => some (604800 * second)
  | "months" | "month" | "M" => some (secondsPerMonth * second)
  | "years" | "year" | "yrs" | "yr" | "y" => some (secondsPerYear * second)
  | _ => none

/-- Counts of seconds and of nanoseconds stay below this. -/
def limit : Nat := Nat.pow 2 64

open Reader

/-- A count that stays below the limit. -/
def bounded (n : Nat) : Reader Nat :=
  if n < limit then pure n else fail

/-- The value of a row of digits. -/
def digitsValue (ds : List Char) : Nat :=
  ds.foldl (fun n c => n * 10 + (c.toNat - '0'.toNat)) 0

/-- Digits, among which blanks are passed over; at least one. -/
def spacedDigits : Reader (List Char) := do
  let run ← takeWhile fun c => c.isDigit || Text.isBlank c
  let ds := run.filter Char.isDigit
  if ds.isEmpty then fail else pure ds

/-- Add a whole number of units. Units from a second on are counted in
    seconds, smaller ones in nanoseconds. -/
def addWhole (total n size : Nat) : Reader Nat := do
  if second ≤ size then
    let seconds ← bounded (n * (size / second))
    let _ ← bounded (total / second + seconds)
    pure (total + seconds * second)
  else
    let nanos ← bounded (n * size)
    let _ ← bounded (total % second + nanos)
    let _ ← bounded ((total + nanos) / second)
    pure (total + nanos)

/-- Add a decimal fraction of a unit. From an hour on the fraction is cut to
    whole seconds, below that to whole nanoseconds. A nanosecond has no
    fractions. -/
def addFraction (total size : Nat) (digits : List Char) : Reader Nat := do
  if size == 1 then fail
  let numerator ← bounded (digitsValue digits)
  let denominator ← bounded (Nat.pow 10 digits.length)
  if 3600 * second ≤ size then
    let scaled ← bounded (numerator * (size / second))
    addWhole total (scaled / denominator) second
  else
    let scaled ← bounded (numerator * size)
    addWhole total (scaled / denominator) 1

/-- Add one number with its unit to what was read before. -/
def addPart (total : Nat) : Reader Nat := do
  let n ← bounded (digitsValue (← spacedDigits))
  let fraction ← if ← char? '.' then some <$> spacedDigits else pure none
  let name ← takeWhile fun c => c.isAlpha || c == 'µ'
  match unit? (String.ofList name) with
  | none => fail
  | some size =>
    let total ← addWhole total n size
    match fraction with
    | some digits => addFraction total size digits
    | none => pure total

/-- Parts up to the end of the text; there is at least one. -/
def parts : Reader Duration :=
  iterate (fun (total, any) => do
    let _ ← takeWhile Text.isBlank
    if ← atEnd then
      if any then pure (.inr total) else fail
    else
      let total ← addPart total
      pure (.inl (total, true))) (0, false)

/-- The length of time of a text. -/
def parse? (s : String) : Option Duration :=
  if s == "0" then some 0 else parts.run s.toList

end Duration

end Multitenancy
