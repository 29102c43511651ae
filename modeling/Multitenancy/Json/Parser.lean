import Multitenancy.Json.Value
import Multitenancy.Text.Reader
import Multitenancy.Text.Utf8
import Multitenancy.Text.Hex
/-!
# Reading Structured Values

The reading of a JSON text.

It is strict: blanks are the space, the tab and the two line characters;
control characters inside a text must be escaped, and so must a surrogate
come with its partner. A number without fraction and exponent is whole if it
fits a 64-bit word, signed or not, and is otherwise kept as written, like
`-0`; one too large for a double is refused. Nesting is limited, so a hostile
body cannot exhaust the stack.

A repeated field is kept twice; who reads a field decides which one counts.

## Main definitions

* `Json.maxDepth`: How deeply lists and objects may nest.
* `Json.parse?`: The value of a text.
* `Json.parseBytes?`: The value of bytes, which must be UTF-8.
-/

namespace Multitenancy

namespace Json

open Reader

/-- The deepest nesting of lists and objects that is read. -/
def maxDepth : Nat := 127

/-- Use the blanks in front. -/
def blanks : Reader Unit := do
  let _ ← takeWhile fun c => c == ' ' || c == '\n' || c == '\t' || c == '\r'

/-- The number of four hexadecimal digits. -/
def codeUnit : Reader Nat := do
  let digits ← exactly 4 fun c => (Hex.digit? c).isSome
  match Hex.value? digits with
  | some n => pure n
  | none => fail

/-- What follows a backslash. A high surrogate must be followed by the escape
    of a low one. -/
def escaped : Reader Char := do
  match ← satisfy fun _ => true with
  | '\x22' => pure '\x22'
  | '\\' => pure '\\'
  | '/' => pure '/'
  | 'b' => pure '\x08'
  | 'f' => pure '\x0c'
  | 'n' => pure '\n'
  | 'r' => pure '\r'
  | 't' => pure '\t'
  | 'u' => do
    let high ← codeUnit
    if 0xD800 ≤ high && high < 0xDC00 then
      literal "\\u"
      let low ← codeUnit
      if 0xDC00 ≤ low && low < 0xE000 then
        pure (Char.ofNat (0x10000 + (high - 0xD800) * 0x400 + (low - 0xDC00)))
      else fail
    else if 0xDC00 ≤ high && high < 0xE000 then fail
    else pure (Char.ofNat high)
  | _ => fail

/-- One character of a quoted text. -/
def textChar : Reader Char := do
  let c ← satisfy fun c => c != '\x22' && 0x20 ≤ c.toNat
  if c == '\\' then escaped else pure c

/-- A quoted text. -/
def quoted : Reader String := do
  char '\x22'
  let body ← many textChar
  char '\x22'
  pure (String.ofList body)

/-- Whether `digits` times ten to the power `exponent` rounds to a finite
    double, that is, lies below 2^1024 - 2^970. -/
def fitsDouble (digits : Nat) (exponent : Int) : Bool :=
  let limit : Nat := Nat.pow 2 1024 - Nat.pow 2 970
  if digits == 0 || exponent + (toString digits).length < 300 then true
  else if 310 < exponent + (toString digits).length then false
  else if 0 ≤ exponent then digits * Nat.pow 10 exponent.toNat < limit
  else digits < limit * Nat.pow 10 (-exponent).toNat

/-- The value of a row of decimal digits. -/
def decimal (digits : List Char) : Nat :=
  digits.foldl (fun n c => n * 10 + (c.toNat - '0'.toNat)) 0

/-- A number. -/
def number : Reader Json := do
  let negative ← char? '-'
  let whole ← takeWhile1 Char.isDigit
  if whole.length > 1 && whole.head? == some '0' then fail
  let fraction ← if ← char? '.' then some <$> takeWhile1 Char.isDigit else pure none
  let exponent ← do
    match ← peek? with
    | some 'e' | some 'E' =>
      let letter ← satisfy fun _ => true
      let sign ← takeWhile fun c => c == '+' || c == '-'
      if sign.length > 1 then fail
      let digits ← takeWhile1 Char.isDigit
      pure (some (letter, sign, digits))
    | _ => pure none
  let sign := if negative then ['-'] else []
  let n := decimal whole
  let literal := sign ++ whole ++ (match fraction with
    | some f => '.' :: f
    | none => []) ++ (match exponent with
    | some (e, s, ds) => e :: s ++ ds
    | none => [])
  let power : Int := match exponent with
    | some (_, s, ds) => if s == ['-'] then -(decimal ds : Int) else decimal ds
    | none => 0
  let places := (fraction.getD []).length
  let digits := decimal (whole ++ fraction.getD [])
  if fraction.isNone && exponent.isNone && !negative && n < Nat.pow 2 64 then pure (.int n)
  else if fraction.isNone && exponent.isNone && negative && 0 < n && n ≤ Nat.pow 2 63 then
    pure (.int (-(n : Int)))
  else if fitsDouble digits (power - places) then pure (.real (String.ofList literal))
  else fail

/-- A value whose nesting is at most `depth`, with the blanks around it. -/
def value (depth : Nat) : Reader Json := do
  blanks
  let v ← do
    match ← peek? with
    | some 'n' => do literal "null"; pure .null
    | some 't' => do literal "true"; pure (.bool true)
    | some 'f' => do literal "false"; pure (.bool false)
    | some '\x22' => Json.text <$> quoted
    | some '[' =>
      match depth with
      | 0 => fail
      | d + 1 => do
        char '['
        blanks
        let items ← sepBy (value d) (char ',')
        char ']'
        pure (.list items)
    | some '\x7b' =>
      match depth with
      | 0 => fail
      | d + 1 => do
        char '\x7b'
        blanks
        let fields ← sepBy (do
            blanks
            let name ← quoted
            blanks
            char ':'
            let v ← value d
            pure (name, v)) (char ',')
        char '\x7d'
        pure (.object fields)
    | _ => number
  blanks
  pure v

/-- The value of a text, blanks at its ends allowed. -/
def parse? (s : String) : Option Json :=
  (value maxDepth).run s.toList

/-- The value of bytes. -/
def parseBytes? (bytes : List UInt8) : Option Json := do
  let cs ← Utf8.decodeChars? bytes
  (value maxDepth).run cs

end Json

end Multitenancy
