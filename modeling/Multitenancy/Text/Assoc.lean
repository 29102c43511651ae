/-!
# Association Lists

Finite maps whose order never shows: request headers, query parameters,
tenant metadata, static handlers, open pools.

A map is a list of pairs in which a key occurs once. Writing a key that is
present replaces its value where it stands; a new key goes to the end.

## Main definitions

* `Assoc`: A list of key and value pairs.
* `Assoc.get?`: The value of a key.
* `Assoc.insert`: Write a key.
* `Assoc.erase`: Remove a key.
* `Assoc.extend`: Write every pair of another map.
-/

namespace Multitenancy

/-- A map as a list of pairs. -/
abbrev Assoc (κ α : Type) := List (κ × α)

namespace Assoc

variable {κ α : Type} [BEq κ]

/-- The value of a key. -/
def get? : Assoc κ α → κ → Option α
  | [], _ => none
  | (k, a) :: rest, key => if k == key then some a else get? rest key

/-- Whether a key has a value. -/
def contains (m : Assoc κ α) (key : κ) : Bool :=
  (m.get? key).isSome

/-- Write a key, in place when it is present and at the end when it is not. -/
def insert : Assoc κ α → κ → α → Assoc κ α
  | [], key, value => [(key, value)]
  | (k, a) :: rest, key, value =>
    if k == key then (k, value) :: rest else (k, a) :: insert rest key value

/-- Remove a key. -/
def erase (m : Assoc κ α) (key : κ) : Assoc κ α :=
  m.filter fun p => !(p.1 == key)

/-- Write the pairs of `more` one after the other, so the last of two pairs
    with one key stands. -/
def extend (m more : Assoc κ α) : Assoc κ α :=
  more.foldl (fun acc p => insert acc p.1 p.2) m

/-- The map of a list of pairs, the last pair of a key standing. -/
def ofPairs (pairs : List (κ × α)) : Assoc κ α :=
  extend [] pairs

/-- The keys, in the order in which they were first written. -/
def keys (m : Assoc κ α) : List κ :=
  m.map Prod.fst

end Assoc

end Multitenancy
