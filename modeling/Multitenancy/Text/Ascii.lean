/-!
# Letter Case

Domains, subdomains and header names are compared without regard to the case
of the letters A to Z. No other letter is folded: two domains that differ in
an accented capital are two domains.

## Main definitions

* `lower`: A text with A to Z lowered.
* `sameLetters`: Equality up to that lowering.
-/

namespace Multitenancy

namespace Text

/-- Lower the letters A to Z; `Char.toLower` leaves every other character. -/
def lower (cs : List Char) : List Char :=
  cs.map Char.toLower

/-- Lower the letters A to Z of a string. -/
def lowerText (s : String) : String :=
  String.ofList (lower s.toList)

/-- Equality up to the case of A to Z. -/
def sameLetters (a b : List Char) : Bool :=
  lower a == lower b

end Text

end Multitenancy
