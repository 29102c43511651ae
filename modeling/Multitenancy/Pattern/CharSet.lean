import Multitenancy.Text.Unicode.Letters
import Multitenancy.Text.Unicode.Marks
import Multitenancy.Text.Unicode.Numbers
import Multitenancy.Text.Unicode.Signs
import Multitenancy.Text.Unicode.Cases
/-!
# Sets of Characters

The sets that a pattern's classes stand for.

A set is a list of inclusive ranges of code points. `normal` brings it into
ascending order with gaps between the ranges, and complement is read off the
gaps; the union of two sets is `++`, and the other operations follow from the
two.

## Main definitions

* `CharSet`: A list of ranges.
* `CharSet.mem`: Membership.
* `CharSet.complement`, `CharSet.inter`, `CharSet.diff`, `CharSet.symmDiff`: The
  set operations.
* `CharSet.caseless`: Closure under case folding.
* `CharSet.word`, `CharSet.digit`, `CharSet.space`: The classes with a letter
  of their own.
* `CharSet.named?`: Classes by the name of a category.
-/

namespace Multitenancy

namespace Pattern

/-- A set of characters as inclusive ranges of code points. -/
abbrev CharSet := List (Nat × Nat)

namespace CharSet

/-- Membership. -/
def mem (s : CharSet) (c : Char) : Bool :=
  s.any fun r => r.1 ≤ c.toNat && c.toNat ≤ r.2

/-- The set of one character. -/
def single (c : Char) : CharSet := [(c.toNat, c.toNat)]

/-- The set of the characters of a text. -/
def ofText (s : String) : CharSet := s.toList.flatMap single

/-- Join ranges that touch; the ranges must be in ascending order. -/
def joinRanges : CharSet → CharSet
  | [] => []
  | (a, b) :: rest =>
    match joinRanges rest with
    | [] => [(a, b)]
    | (c, d) :: more => if c ≤ b + 1 then (a, max b d) :: more else (a, b) :: (c, d) :: more

/-- Ascending ranges with gaps between them. -/
def normal (s : CharSet) : CharSet :=
  joinRanges (s.mergeSort fun a b => a.1 ≤ b.1)

/-- The gaps of ascending ranges, from `start` on. -/
def gaps (start : Nat) : CharSet → CharSet
  | [] => if start ≤ 0x10FFFF then [(start, 0x10FFFF)] else []
  | (a, b) :: rest =>
    if start < a then (start, a - 1) :: gaps (b + 1) rest else gaps (max start (b + 1)) rest

/-- All characters that are not in the set. -/
def complement (s : CharSet) : CharSet := gaps 0 (normal s)

/-- The characters of both sets. -/
def inter (s t : CharSet) : CharSet := complement (complement s ++ complement t)

/-- The characters of the first set only. -/
def diff (s t : CharSet) : CharSet := inter s (complement t)

/-- The characters of exactly one of two sets. -/
def symmDiff (s t : CharSet) : CharSet := diff s t ++ diff t s

/-- The part of a range with a step that lies in `(a, b)`, moved by a
    distance. -/
def moved (low high step : Nat) (distance : Int) (r : Nat × Nat) : CharSet :=
  let first := if r.1 ≤ low then low else low + (r.1 - low + step - 1) / step * step
  let last := min high r.2
  if last < first then []
  else if step == 1 then [((first + distance).toNat, (last + distance).toNat)]
  else (List.range ((last - first) / step + 1)).map fun i =>
    let n := (((first + i * step : Nat) : Int) + distance).toNat
    (n, n)

/-- What the characters of a set fold to. -/
def foldTargets (s : CharSet) : CharSet :=
  Unicode.folds.flatMap fun (low, high, step, distance) =>
    s.flatMap fun r => moved low high step distance r

/-- What folds to a character of a set. -/
def foldSources (s : CharSet) : CharSet :=
  Unicode.folds.flatMap fun (low, high, step, distance) =>
    s.flatMap fun r =>
      moved (low + distance).toNat (high + distance).toNat step (-distance) r

/-- The set with every character that differs from one of its own in case
    alone. -/
def caseless (s : CharSet) : CharSet :=
  let base := s ++ foldTargets s
  normal (base ++ foldSources base)

/-- The set with the other case of each of its letters from A to Z. -/
def asciiCaseless (s : CharSet) : CharSet :=
  normal (s ++ s.flatMap fun r => moved 0x41 0x5A 1 32 r ++ moved 0x61 0x7A 1 (-32) r)

/-- Ranges with a step as ranges. -/
def ofSteps (rs : List (Nat × Nat × Nat)) : CharSet :=
  rs.flatMap fun (low, high, step) => moved low high step 0 (low, high)

/-- Every character. -/
def all : CharSet := [(0, 0x10FFFF)]

/-- Letters, marks, numbers that are letters or digits, connecting
    punctuation, the two joiners and the letters in circles or boxes. -/
def word : CharSet :=
  Unicode.letters ++ Unicode.marks ++ Unicode.digits ++ Unicode.letterNumbers ++
    Unicode.connectors ++
    [(0x200C, 0x200D), (0x24B6, 0x24E9), (0x1F130, 0x1F149), (0x1F150, 0x1F169),
      (0x1F170, 0x1F189)]

/-- Decimal digits. -/
def digit : CharSet := Unicode.digits

/-- Blank characters. -/
def space : CharSet :=
  [(9, 13), (0x20, 0x20), (0x85, 0x85), (0xA0, 0xA0), (0x1680, 0x1680), (0x2000, 0x200A),
    (0x2028, 0x2029), (0x202F, 0x202F), (0x205F, 0x205F), (0x3000, 0x3000)]

/-- The classes of `word`, `digit` and `space` within ASCII. -/
def asciiWord : CharSet := [(0x30, 0x39), (0x41, 0x5A), (0x5F, 0x5F), (0x61, 0x7A)]

/-- The digits of ASCII. -/
def asciiDigit : CharSet := [(0x30, 0x39)]

/-- The blank characters of ASCII. -/
def asciiSpace : CharSet := [(9, 13), (0x20, 0x20)]

/-- The ASCII classes that have a name between brackets and colons. -/
def ascii? : String → Option CharSet
  | "alnum" => some [(0x30, 0x39), (0x41, 0x5A), (0x61, 0x7A)]
  | "alpha" => some [(0x41, 0x5A), (0x61, 0x7A)]
  | "ascii" => some [(0, 0x7F)]
  | "blank" => some [(9, 9), (0x20, 0x20)]
  | "cntrl" => some [(0, 0x1F), (0x7F, 0x7F)]
  | "digit" => some asciiDigit
  | "graph" => some [(0x21, 0x7E)]
  | "lower" => some [(0x61, 0x7A)]
  | "print" => some [(0x20, 0x7E)]
  | "punct" => some [(0x21, 0x2F), (0x3A, 0x40), (0x5B, 0x60), (0x7B, 0x7E)]
  | "space" => some asciiSpace
  | "upper" => some [(0x41, 0x5A)]
  | "word" => some asciiWord
  | "xdigit" => some [(0x30, 0x39), (0x41, 0x46), (0x61, 0x66)]
  | _ => none

/-- A category by its name, with case, blanks, dashes and low lines taken
    out. -/
def named? (name : String) : Option CharSet :=
  let plain := String.ofList ((name.toList.filter fun c =>
    !(c == ' ' || c == '-' || c == '_')).map Char.toLower)
  match plain with
  | "l" | "letter" => some Unicode.letters
  | "lu" | "uppercaseletter" => some (ofSteps Unicode.capitals)
  | "ll" | "lowercaseletter" => some (ofSteps Unicode.smalls)
  | "m" | "mark" | "combiningmark" => some Unicode.marks
  | "n" | "number" => some (Unicode.digits ++ Unicode.letterNumbers ++ Unicode.otherNumbers)
  | "nd" | "decimalnumber" | "digit" => some Unicode.digits
  | "nl" | "letternumber" => some Unicode.letterNumbers
  | "no" | "othernumber" => some Unicode.otherNumbers
  | "p" | "punctuation" | "punct" => some Unicode.punctuation
  | "pc" | "connectorpunctuation" => some Unicode.connectors
  | "s" | "symbol" => some Unicode.symbols
  | "z" | "separator" =>
    some [(0x20, 0x20), (0xA0, 0xA0), (0x1680, 0x1680), (0x2000, 0x200A), (0x2028, 0x2029),
      (0x202F, 0x202F), (0x205F, 0x205F), (0x3000, 0x3000)]
  | "whitespace" | "wspace" | "space" => some space
  | "alphabetic" | "alpha" =>
    some (Unicode.letters ++ Unicode.letterNumbers ++
      [(0x24B6, 0x24E9), (0x1F130, 0x1F149), (0x1F150, 0x1F169), (0x1F170, 0x1F189)])
  | "uppercase" | "upper" => some (ofSteps Unicode.capitals)
  | "lowercase" | "lower" => some (ofSteps Unicode.smalls)
  | "any" => some all
  | "ascii" => some [(0, 0x7F)]
  | "cc" | "control" | "cntrl" => some [(0, 0x1F), (0x7F, 0x9F)]
  | "greek" | "grek" =>
    some [(0x370, 0x373), (0x375, 0x377), (0x37A, 0x37D), (0x37F, 0x37F), (0x384, 0x384),
      (0x386, 0x386), (0x388, 0x38A), (0x38C, 0x38C), (0x38E, 0x3A1), (0x3A3, 0x3E1),
      (0x3F0, 0x3FF), (0x1F00, 0x1FFE)]
  | "cyrillic" | "cyrl" => some [(0x400, 0x484), (0x487, 0x52F), (0x1C80, 0x1C88)]
  | "latin" | "latn" =>
    some [(0x41, 0x5A), (0x61, 0x7A), (0xAA, 0xAA), (0xBA, 0xBA), (0xC0, 0xD6), (0xD8, 0xF6),
      (0xF8, 0x2B8), (0x1E00, 0x1EFF), (0x2C60, 0x2C7F), (0xFF21, 0xFF3A), (0xFF41, 0xFF5A)]
  | "han" | "hani" =>
    some [(0x2E80, 0x2FD5), (0x3005, 0x3005), (0x3007, 0x3007), (0x3021, 0x3029),
      (0x3038, 0x303B), (0x3400, 0x4DBF), (0x4E00, 0x9FFF), (0xF900, 0xFAD9),
      (0x20000, 0x323AF)]
  | _ => none

end CharSet

end Pattern

end Multitenancy
