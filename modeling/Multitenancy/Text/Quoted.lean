import Multitenancy.Text.Hex
import Multitenancy.Text.Unicode.Letters
import Multitenancy.Text.Unicode.Numbers
import Multitenancy.Text.Unicode.Signs
/-!
# Quoted Texts

How a text from outside is shown inside a message: between double quotes, with
quotes and backslashes escaped, and with everything that cannot be seen
written as its number.

## Main definitions

* `isVisible`: Whether a character is shown as it is.
* `quoted`: A text between quotes.
-/

namespace Multitenancy

namespace Text

/-- Whether a code point lies in one of several ranges. -/
def inRanges (ranges : List (Nat × Nat)) (n : Nat) : Bool :=
  ranges.any fun r => r.1 ≤ n && n ≤ r.2

/-- Whether a character is shown as it is: the space, letters, numbers,
    punctuation and symbols. -/
def isVisible (c : Char) : Bool :=
  let n := c.toNat
  if n < 0x7F then 0x20 ≤ n
  else inRanges Unicode.letters n || inRanges Unicode.digits n ||
    inRanges Unicode.letterNumbers n || inRanges Unicode.otherNumbers n ||
    inRanges Unicode.punctuation n || inRanges Unicode.symbols n

/-- A character between quotes. -/
def quotedChar (c : Char) : String :=
  if c == '\x22' then "\\\""
  else if c == '\\' then "\\\\"
  else if c == '\n' then "\\n"
  else if c == '\r' then "\\r"
  else if c == '\t' then "\\t"
  else if c.toNat == 0 then "\\0"
  else if isVisible c then c.toString
  else "\\u\x7b" ++ Hex.ofNat c.toNat ++ "\x7d"

/-- A text between double quotes. -/
def quoted (s : String) : String :=
  "\"" ++ s.toList.foldl (fun out c => out ++ quotedChar c) "" ++ "\""

end Text

end Multitenancy
