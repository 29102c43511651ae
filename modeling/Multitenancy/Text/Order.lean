/-!
# Order of Texts

Tenants in reports, versions of migrations and keys of written objects are
listed in the order of their UTF-8 bytes. UTF-8 keeps the order of code
points, so comparing characters one by one gives the same order.

## Main definitions

* `notAfter`: The order on strings.
* `sorted`: A list of strings in that order.
-/

namespace Multitenancy

namespace Text

/-- Whether `a` comes before `b` or is equal to it. -/
def notAfter (a b : String) : Bool :=
  decide (a ≤ b)

/-- Strings in ascending order, repetitions kept. -/
def sorted (texts : List String) : List String :=
  texts.mergeSort notAfter

/-- Pairs in ascending order of their first component. -/
def sortedByKey {α : Type} (pairs : List (String × α)) : List (String × α) :=
  pairs.mergeSort fun a b => notAfter a.1 b.1

end Text

end Multitenancy
