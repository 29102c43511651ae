/-!
# Cutting and Replacing

Cuts at a separator character and replacement of a fixed piece of text. Each
works on lists of characters, and nothing is lost: joining the pieces of a
cut with the separator gives the text back.

## Main definitions

* `splitAll`: The pieces between all separators.
* `splitFirst`: The two sides of the first separator.
* `splitLast`: The two sides of the last separator.
* `replaceAll`: Every occurrence of a piece replaced, from the left and
  without overlap.
* `joined`: Pieces joined by a separator.
-/

namespace Multitenancy

namespace Text

/-- The pieces between separators; a text without one is a single piece. -/
def splitAll (sep : Char) : List Char → List (List Char)
  | [] => [[]]
  | c :: cs =>
    if c == sep then [] :: splitAll sep cs
    else match splitAll sep cs with
      | [] => [[c]]
      | piece :: rest => (c :: piece) :: rest

/-- What stands before and after the first separator. -/
def splitFirst (sep : Char) : List Char → Option (List Char × List Char)
  | [] => none
  | c :: cs =>
    if c == sep then some ([], cs)
    else (splitFirst sep cs).map fun p => (c :: p.1, p.2)

/-- What stands before and after the last separator. -/
def splitLast (sep : Char) (cs : List Char) : Option (List Char × List Char) :=
  (splitFirst sep cs.reverse).map fun p => (p.2.reverse, p.1.reverse)

/-- What follows `start` when the text begins with it. -/
def afterStart : List Char → List Char → Option (List Char)
  | [], cs => some cs
  | _ :: _, [] => none
  | p :: ps, c :: cs => if p == c then afterStart ps cs else none

/-- What precedes `ending` when the text ends with it. -/
def beforeEnd (ending cs : List Char) : Option (List Char) :=
  (afterStart ending.reverse cs.reverse).map List.reverse

/-- Whether `piece` stands somewhere in the text. -/
def occursIn (piece : List Char) : List Char → Bool
  | [] => piece.isEmpty
  | c :: cs => (afterStart piece (c :: cs)).isSome || occursIn piece cs

/-- Replacement from the left. `skip` counts the characters of an occurrence
    that have been replaced already and are passed over. -/
def replaceFrom (piece new : List Char) : Nat → List Char → List Char
  | _, [] => []
  | skip + 1, _ :: cs => replaceFrom piece new skip cs
  | 0, c :: cs =>
    if (afterStart piece (c :: cs)).isSome then
      new ++ replaceFrom piece new (piece.length - 1) cs
    else c :: replaceFrom piece new 0 cs

/-- Replace every occurrence of a non-empty piece. What is put in is not
    searched again. -/
def replaceAll (piece new cs : List Char) : List Char :=
  replaceFrom piece new 0 cs

/-- Pieces joined by a separator. -/
def joined (sep : String) (pieces : List String) : String :=
  sep.intercalate pieces

end Text

end Multitenancy
