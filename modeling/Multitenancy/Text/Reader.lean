/-!
# Reading Text

Readers for the small formats of the library: settings documents, structured
values, durations, timestamps, path patterns and log filters.

A reader takes the characters that are left and either fails or answers with
a value and what it did not use. Repetition is bounded by the number of
characters left, which no repetition of a consuming reader can exceed, so
every reader is total without a bound of its own.

## Main definitions

* `Reader`: A function on the characters left, which may fail.
* `Reader.run`: A reading that must use the whole text.
* `Reader.many`: As many repetitions as possible.
* `Reader.orElse`: A second reading from the same place when the first fails.
-/

namespace Multitenancy

/-- A reading of a value off the front of a text. -/
abbrev Reader (α : Type) := StateT (List Char) Option α

namespace Reader

variable {α β : Type}

/-- Give up. -/
def fail : Reader α := fun _ => none

/-- Read a whole text; text left over is a failure. -/
def run (r : Reader α) (cs : List Char) : Option α :=
  match r cs with
  | some (a, []) => some a
  | _ => none

/-- The next character, if any, without using it. -/
def peek? : Reader (Option Char) := fun cs => some (cs.head?, cs)

/-- Whether nothing is left. -/
def atEnd : Reader Bool := fun cs => some (cs.isEmpty, cs)

/-- Use one character that passes a test. -/
def satisfy (p : Char → Bool) : Reader Char
  | [] => none
  | c :: cs => if p c then some (c, cs) else none

/-- Use exactly this character. -/
def char (c : Char) : Reader Unit := do
  let _ ← satisfy (· == c)

/-- Use this character if it is next, and say whether it was. -/
def char? (c : Char) : Reader Bool
  | [] => some (false, [])
  | d :: cs => if d == c then some (true, cs) else some (false, d :: cs)

/-- Use exactly this text. -/
def literal (s : String) : Reader Unit :=
  s.toList.forM char

/-- Use the longest run of characters that pass a test. -/
def takeWhile (p : Char → Bool) : Reader (List Char) := fun cs =>
  some (cs.takeWhile p, cs.dropWhile p)

/-- A run as in `takeWhile` that is not empty. -/
def takeWhile1 (p : Char → Bool) : Reader (List Char) := do
  let run ← takeWhile p
  if run.isEmpty then fail else pure run

/-- Exactly `n` characters that pass a test. -/
def exactly (n : Nat) (p : Char → Bool) : Reader (List Char) := fun cs =>
  let found := cs.take n
  if found.length == n && found.all p then some (found, cs.drop n) else none

/-- Try `r`; when it fails, read with `s` from where `r` began. -/
def orElse (r s : Reader α) : Reader α := fun cs =>
  match r cs with
  | some a => some a
  | none => s cs

/-- The value of `r` if it succeeds, and nothing used if it does not. -/
def optional (r : Reader α) : Reader (Option α) :=
  orElse (some <$> r) (pure none)

/-- Repetition with a bound. It stops at the first failure, and also when a
    repetition uses nothing. -/
def manyUpTo (r : Reader α) : Nat → Reader (List α)
  | 0, cs => some ([], cs)
  | n + 1, cs =>
    match r cs with
    | none => some ([], cs)
    | some (a, rest) =>
      if rest.length < cs.length then
        match manyUpTo r n rest with
        | some (as, left) => some (a :: as, left)
        | none => some ([a], rest)
      else some ([], cs)

/-- As many repetitions of a consuming reader as there are. -/
def many (r : Reader α) : Reader (List α) := fun cs => manyUpTo r cs.length cs

/-- A loop that goes on while the body answers with a new state and ends with
    its result, bounded by the characters left. -/
def iterateUpTo (body : β → Reader (β ⊕ α)) : Nat → β → Reader α
  | 0, _ => fail
  | n + 1, b => do
    match ← body b with
    | .inl next => iterateUpTo body n next
    | .inr result => pure result

/-- A loop whose body uses at least one character each time it goes on. -/
def iterate (body : β → Reader (β ⊕ α)) (start : β) : Reader α := fun cs =>
  iterateUpTo body (cs.length + 1) start cs

/-- Items between separators, none at all included. -/
def sepBy (item : Reader α) (sep : Reader Unit) : Reader (List α) :=
  orElse (do
      let first ← item
      let rest ← many (do sep; item)
      pure (first :: rest))
    (pure [])

end Reader

end Multitenancy
