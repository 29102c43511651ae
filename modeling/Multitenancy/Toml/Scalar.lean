import Multitenancy.Json.Value
import Multitenancy.Text.Hex
import Multitenancy.Text.Reader
import Multitenancy.Time.Timestamp
/-!
# Scalars of Settings Documents

The texts, numbers, truth values and points in time of a TOML document.

A number may be grouped by low lines between its digits, and a whole number
may be given in base 16, 8 or 2. Points in time have no meaning for any
setting; they are read as a table with one field that no setting has, so that
a setting given as a point in time is treated like an empty table.

## Main definitions

* `Toml.basicText`, `Toml.literalText`: Texts between quotes, on one line or
  several.
* `Toml.scalar`: Everything else that is no list or table.
-/

namespace Multitenancy

namespace Toml

open Reader

/-- Whether a character may stand inside a text as it is. -/
def isPlain (c : Char) : Bool :=
  c == '\t' || (0x20 ≤ c.toNat && c.toNat != 0x7F)

/-- A line feed, with or without a carriage return before it. -/
def newline : Reader Unit := do
  let _ ← char? '\r'
  char '\n'

/-- Blanks within a line. -/
def blanks : Reader Unit := do
  let _ ← takeWhile fun c => c == ' ' || c == '\t'

/-- A character given by its number in hexadecimal digits. -/
def numbered (width : Nat) : Reader Char := do
  let ds ← exactly width fun c => (Hex.digit? c).isSome
  match Hex.value? ds with
  | some n =>
    if n < 0xD800 || (0xE000 ≤ n && n ≤ 0x10FFFF) then pure (Char.ofNat n) else fail
  | none => fail

/-- What follows a backslash. -/
def escaped : Reader Char := do
  match ← satisfy fun _ => true with
  | 'b' => pure '\x08'
  | 't' => pure '\t'
  | 'n' => pure '\n'
  | 'f' => pure '\x0c'
  | 'r' => pure '\r'
  | 'e' => pure '\x1b'
  | '\x22' => pure '\x22'
  | '\\' => pure '\\'
  | 'x' => numbered 2
  | 'u' => numbered 4
  | 'U' => numbered 8
  | _ => fail

/-- One character of a one-line text with escapes. -/
def basicChar : Reader Char := do
  let c ← satisfy fun c => isPlain c && c != '\x22'
  if c == '\\' then escaped else pure c

/-- The end of a text over several lines: three quotes, which up to two quotes
    of the text may precede. -/
def closing (quote : Char) : Reader (List Char) := fun cs =>
  let run := (cs.takeWhile (· == quote)).take 5
  if 3 ≤ run.length then some (run.drop 3, cs.drop run.length) else none

/-- A line end inside a text over several lines. -/
def innerNewline : Reader (List Char) := do
  newline
  pure ['\n']

/-- A backslash at the end of a line, which joins the lines and drops the
    blanks between them. -/
def lineJoin : Reader (List Char) := do
  char '\\'
  blanks
  newline
  let _ ← takeWhile fun c => c == ' ' || c == '\t' || c == '\n' || c == '\r'
  pure []

/-- A text over several lines from the pieces that `piece` reads. -/
def longText (quote : Char) (piece : Reader (List Char)) : Reader String := do
  let _ ← Reader.optional newline
  let cs ← iterate (fun acc => orElse (do
      let last ← closing quote
      pure (.inr (acc ++ last)))
    (do
      let more ← piece
      pure (.inl (acc ++ more)))) []
  pure (String.ofList cs)

/-- A text between double quotes. -/
def basicText : Reader String :=
  orElse (do
      literal "\"\"\""
      longText '\x22' (orElse innerNewline (orElse lineJoin (do
        let c ← satisfy isPlain
        if c == '\\' then pure [← escaped] else pure [c]))))
    (do
      char '\x22'
      let cs ← many basicChar
      char '\x22'
      pure (String.ofList cs))

/-- A text between single quotes, in which nothing is escaped. -/
def literalText : Reader String :=
  orElse (do
      literal "'''"
      longText '\x27' (orElse innerNewline (do pure [← satisfy isPlain])))
    (do
      char '\x27'
      let cs ← takeWhile fun c => isPlain c && c != '\x27'
      char '\x27'
      pure (String.ofList cs))

/-- Digits of a base with single low lines between them, the low lines left
    out. -/
def grouped? (isDigit : Char → Bool) (cs : List Char) : Option (List Char) :=
  let rec go (afterDigit : Bool) : List Char → Option (List Char)
    | [] => if afterDigit then some [] else none
    | c :: rest =>
      if c == '_' then (if afterDigit then go false rest else none)
      else if isDigit c then (go true rest).map (c :: ·) else none
  go false cs

/-- The value of digits in a base. -/
def digitsValue (base : Nat) (ds : List Char) : Nat :=
  ds.foldl (fun n c => n * base + ((Hex.digit? c).getD 0)) 0

/-- Split off a sign. -/
def signOf : List Char → Bool × List Char
  | '-' :: rest => (true, rest)
  | '+' :: rest => (false, rest)
  | cs => (false, cs)

/-- Decimal digits without a superfluous leading zero. -/
def plainDigits? (cs : List Char) : Option (List Char) := do
  let ds ← grouped? Char.isDigit cs
  if ds.length > 1 && ds.head? == some '0' then none else some ds

/-- A whole number below 2^128 in size. -/
def whole? (cs : List Char) : Option Int := do
  let n : Int ← match cs with
    | '0' :: 'x' :: ds => do
      pure (digitsValue 16 (← grouped? (fun c => (Hex.digit? c).isSome) ds) : Int)
    | '0' :: 'o' :: ds => do
      pure (digitsValue 8 (← grouped? (fun c => '0' ≤ c && c ≤ '7') ds) : Int)
    | '0' :: 'b' :: ds => do
      pure (digitsValue 2 (← grouped? (fun c => c == '0' || c == '1') ds) : Int)
    | _ => do
      let (negative, ds) := signOf cs
      let n := digitsValue 10 (← plainDigits? ds)
      pure (if negative then -(n : Int) else n)
  if n.natAbs < Nat.pow 2 128 then some n else none

/-- Whether a text is a number with a fraction or an exponent, or one of the
    values without digits. -/
def isReal (cs : List Char) : Bool :=
  let (_, rest) := signOf cs
  if rest == "inf".toList || rest == "nan".toList then true
  else
    let mantissa := rest.takeWhile fun c => c != 'e' && c != 'E'
    let exponent := rest.drop (mantissa.length + 1)
    let whole := mantissa.takeWhile (· != '.')
    let fraction := mantissa.drop (whole.length + 1)
    let marked := mantissa.length < rest.length
    let pointed := whole.length < mantissa.length
    (marked || pointed) && (plainDigits? whole).isSome &&
      (!pointed || (grouped? Char.isDigit fraction).isSome) &&
      (!marked || (grouped? Char.isDigit (signOf exponent).2).isSome)

/-- A date, checked against the calendar. -/
def date : Reader Unit := do
  let year ← Timestamp.digits 4 4
  char '-'
  let month ← Timestamp.digits 2 2
  char '-'
  let day ← Timestamp.digits 2 2
  if 1 ≤ month && month ≤ 12 && 1 ≤ day && day ≤ Timestamp.daysInMonth year month then pure ()
  else fail

/-- A time of day, seconds optional. -/
def timeOfDay : Reader Unit := do
  let hour ← Timestamp.digits 2 2
  char ':'
  let minute ← Timestamp.digits 2 2
  let second ← if ← char? ':' then do
      let second ← Timestamp.digits 2 2
      let _ ← Timestamp.fractionOf
      pure second
    else pure 0
  if hour < 24 && minute < 60 && second ≤ 60 then pure () else fail

/-- A zone, if there is one. -/
def zone : Reader Unit := do
  match ← peek? with
  | some 'Z' | some 'z' => do
    let _ ← satisfy fun _ => true
    pure ()
  | some '+' | some '-' => do
    let _ ← satisfy fun _ => true
    let hours ← Timestamp.digits 2 2
    char ':'
    let minutes ← Timestamp.digits 2 2
    if hours < 24 && minutes < 60 then pure () else fail
  | _ => pure ()

/-- A point in time, a date or a time of day. -/
def moment : Reader Unit :=
  orElse timeOfDay (do
    date
    let _ ← Reader.optional (do
      let _ ← satisfy fun c => c == 'T' || c == 't' || c == ' '
      timeOfDay
      zone)
    pure ())

/-- The field that stands for a point in time. -/
def momentField : String := "$__toml_private_datetime"

/-- A truth value, a number or a point in time. -/
def scalar : Reader Json := fun cs =>
  let isWordChar (c : Char) : Bool :=
    c.isAlphanum || c == '_' || c == '+' || c == '-' || c == '.' || c == ':'
  let word := cs.takeWhile isWordChar
  let rest := cs.dropWhile isWordChar
  if word == "true".toList then some (.bool true, rest)
  else if word == "false".toList then some (.bool false, rest)
  else match whole? word with
    | some n => some (.int n, rest)
    | none =>
      if isReal word then some (.real (String.ofList word), rest)
      else match moment cs with
        | some ((), left) =>
          let used := cs.take (cs.length - left.length)
          some (.object [(momentField, .text (String.ofList used))], left)
        | none => none

end Toml

end Multitenancy
