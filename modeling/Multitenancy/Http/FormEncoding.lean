import Multitenancy.Text.Split
import Multitenancy.Text.Utf8
import Multitenancy.Text.Hex
/-!
# Form Encoding

The part of a path after the question mark: pairs between `&`, a name and a
value around the first `=`, a space written `+` and any byte written as a
percent sign with two digits.

Nothing is refused. A percent sign without two digits stands for itself, and
bytes that are not UTF-8 read as U+FFFD.

## Main definitions

* `percentDecode`: Bytes with percent escapes resolved.
* `formDecode`: A name or value of a pair.
* `parsePairs`: The pairs of a query, in order.
-/

namespace Multitenancy

namespace Http

/-- Resolve percent escapes. -/
def percentDecode : List UInt8 → List UInt8
  | [] => []
  | [b] => [b]
  | [a, b] => [a, b]
  | p :: a :: b :: rest =>
    if p == 0x25 then
      match Hex.toBytes? [Char.ofNat a.toNat, Char.ofNat b.toNat] with
      | some [byte] => byte :: percentDecode rest
      | _ => p :: percentDecode (a :: b :: rest)
    else p :: percentDecode (a :: b :: rest)

/-- Resolve `+` and percent escapes and read the bytes leniently. -/
def formDecode (cs : List Char) : String :=
  let spaced := (Utf8.encodeChars cs).map fun b => if b == 0x2B then 0x20 else b
  Utf8.decodeLossy (percentDecode spaced)

/-- One pair; without `=` the value is empty. -/
def parsePair (cs : List Char) : String × String :=
  match Text.splitFirst '=' cs with
  | some (name, value) => (formDecode name, formDecode value)
  | none => (formDecode cs, "")

/-- The pairs of a query. Empty pieces between `&` are passed over. -/
def parsePairs (cs : List Char) : List (String × String) :=
  ((Text.splitAll '&' cs).filter fun piece => !piece.isEmpty).map parsePair

end Http

end Multitenancy
