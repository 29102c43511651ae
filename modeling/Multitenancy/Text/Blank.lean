/-!
# Blank Characters

Which characters count as blank at the ends of a routing key, a cookie or a
setting.

The set is the Unicode property White_Space, so a key pasted with a
no-break space or an ideographic space at its end is still clean after
`trim`, while a zero-width space is an ordinary character. The table is small
enough to be written out.

## Main definitions

* `isBlank`: Membership in White_Space.
* `trim`: A text without blanks at either end.
* `allBlank`: Nothing is left after trimming.
-/

namespace Multitenancy

namespace Text

/-- The characters with the Unicode property White_Space. -/
def isBlank (c : Char) : Bool :=
  let n := c.toNat
  (9 ≤ n && n ≤ 13) || n == 0x20 || n == 0x85 || n == 0xA0 || n == 0x1680 ||
    (0x2000 ≤ n && n ≤ 0x200A) || n == 0x2028 || n == 0x2029 || n == 0x202F ||
    n == 0x205F || n == 0x3000

/-- Drop the blanks at the end. -/
def trimEnd (cs : List Char) : List Char :=
  (cs.reverse.dropWhile isBlank).reverse

/-- Drop the blanks at both ends and keep those between. -/
def trim (cs : List Char) : List Char :=
  trimEnd (cs.dropWhile isBlank)

/-- Whether a text holds nothing but blanks. -/
def allBlank (cs : List Char) : Bool :=
  cs.all isBlank

/-- Drop the blanks at both ends of a string. -/
def trimText (s : String) : String :=
  String.ofList (trim s.toList)

/-- Whether a string holds nothing but blanks. -/
def blankText (s : String) : Bool :=
  allBlank s.toList

end Text

end Multitenancy
