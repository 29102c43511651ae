import Multitenancy.Pattern.Expr
import Multitenancy.Text.Blank
import Multitenancy.Text.Hex
import Multitenancy.Text.Reader
/-!
# Reading Path Patterns

The written form of patterns.

Operators bind as usual: repetition before sequence before choice. What is
not understood is refused instead of taken literally: an operator without an
operand, an unknown escape, a range from high to low, look-around and back
references, which could not be matched in linear time.

Flags between `(?` and `)` hold up to the end of the group they stand in.

## Main definitions

* `Flags`: What the flags of a pattern change.
* `Expr.parse?`: The pattern of a text.
-/

namespace Multitenancy

namespace Pattern

open Reader

/-- What flags change. -/
structure Flags where
  /-- Letters match whatever their case. -/
  caseless : Bool := false
  /-- The two anchors match at every line. -/
  lines : Bool := false
  /-- The dot matches line ends too. -/
  dotAll : Bool := false
  /-- Repetition is lazy unless marked, and greedy when marked. -/
  swapped : Bool := false
  /-- Classes with a letter of their own hold characters of every script. -/
  wide : Bool := true
  /-- Blanks and comments are passed over. -/
  spaced : Bool := false
  /-- A carriage return before a line feed belongs to the line end. -/
  crlf : Bool := false

/-- Set or clear the flag of a letter. -/
def Flags.set? (f : Flags) (on : Bool) : Char → Option Flags
  | 'i' => some { f with caseless := on }
  | 'm' => some { f with lines := on }
  | 's' => some { f with dotAll := on }
  | 'U' => some { f with swapped := on }
  | 'u' => some { f with wide := on }
  | 'x' => some { f with spaced := on }
  | 'R' => some { f with crlf := on }
  | _ => none

/-- How deeply groups and classes may nest. -/
def maxDepth : Nat := 250

/-- In a spaced pattern, pass over blanks and over comments from `#` to the
    end of the line. -/
def skip (f : Flags) : Reader Unit := do
  if f.spaced then
    let _ ← many (do
      let blank ← takeWhile Text.isBlank
      if ← char? '#' then
        let _ ← takeWhile (· != '\n')
        pure ()
      else if blank.isEmpty then fail)
    pure ()

/-- A set under the flags. -/
def charsOf (f : Flags) (s : CharSet) : CharSet :=
  if f.caseless then (if f.wide then s.caseless else s.asciiCaseless) else s

/-- A number of hexadecimal digits, `width` of them or any number in braces. -/
def codePoint (width : Nat) : Reader Char := do
  let digits ← if ← char? '\x7b' then do
      let ds ← takeWhile1 fun c => (Hex.digit? c).isSome
      char '\x7d'
      pure ds
    else exactly width fun c => (Hex.digit? c).isSome
  match Hex.value? digits with
  | some n =>
    if n < 0xD800 || (0xE000 ≤ n && n ≤ 0x10FFFF) then pure (Char.ofNat n) else fail
  | none => fail

/-- The set of a class letter, if it is one. -/
def letterClass? (f : Flags) : Char → Option CharSet
  | 'd' => some (if f.wide then CharSet.digit else CharSet.asciiDigit)
  | 's' => some (if f.wide then CharSet.space else CharSet.asciiSpace)
  | 'w' => some (if f.wide then CharSet.word else CharSet.asciiWord)
  | 'D' => if f.wide then some CharSet.digit.complement else none
  | 'S' => if f.wide then some CharSet.space.complement else none
  | 'W' => if f.wide then some CharSet.word.complement else none
  | _ => none

/-- A category after `\p` or `\P`: one letter, or a name in braces that a
    caret or a key with an equals sign may precede. -/
def category (negated : Bool) : Reader CharSet := do
  let (turned, name) ← if ← char? '\x7b' then do
      let turned ← char? '^'
      let name ← takeWhile1 (· != '\x7d')
      char '\x7d'
      pure (turned, name)
    else do
      let c ← satisfy fun _ => true
      pure (false, [c])
  let key := (name.reverse.takeWhile fun c => c != '=' && c != ':').reverse
  match CharSet.named? (String.ofList key) with
  | some s => pure (if negated != turned then s.complement else s)
  | none => fail

/-- What an escape stands for. -/
inductive Escape where
  | one (c : Char)
  | set (s : CharSet)
  | at (p : Place)

/-- The condition that a word in braces after `\b` names. Braces without a word
    are a repetition. -/
def edge (f : Flags) : Reader Place := do
  let isLetter (c : Char) : Bool := c.isAlpha || c == '-'
  let named := match ← get with
    | '\x7b' :: c :: _ => isLetter c
    | _ => false
  if named then
    char '\x7b'
    let word ← takeWhile1 isLetter
    char '\x7d'
    match String.ofList word with
    | "start" => pure (.wordStart f.wide)
    | "end" => pure (.wordEnd f.wide)
    | "start-half" => pure (.beforeWord f.wide)
    | "end-half" => pure (.afterWord f.wide)
    | _ => fail
  else pure (.wordEdge f.wide)

/-- What follows a backslash. Punctuation stands for itself; a letter or digit
    without a meaning is refused. -/
def escape (f : Flags) : Reader Escape := do
  let c ← satisfy fun _ => true
  match letterClass? f c with
  | some s => pure (.set s)
  | none =>
    match c with
    | 'a' => pure (.one '\x07')
    | 'f' => pure (.one '\x0c')
    | 't' => pure (.one '\t')
    | 'n' => pure (.one '\n')
    | 'r' => pure (.one '\r')
    | 'v' => pure (.one '\x0b')
    | 'A' => pure (.at .textStart)
    | 'z' => pure (.at .textEnd)
    | 'b' => Escape.at <$> edge f
    | 'B' => pure (.at (.notWordEdge f.wide))
    | '<' => pure (.at (.wordStart f.wide))
    | '>' => pure (.at (.wordEnd f.wide))
    | 'x' => Escape.one <$> codePoint 2
    | 'u' => Escape.one <$> codePoint 4
    | 'U' => Escape.one <$> codePoint 8
    | 'p' => if f.wide then Escape.set <$> category false else fail
    | 'P' => if f.wide then Escape.set <$> category true else fail
    | _ => if c.toNat < 0x80 && !c.isAlphanum then pure (.one c) else fail

/-- A named ASCII class between brackets, the opening bracket used already. -/
def asciiClass : Reader CharSet := do
  char ':'
  let negated ← char? '^'
  let name ← takeWhile Char.isAlpha
  literal ":]"
  match CharSet.ascii? (String.ofList name) with
  | some s => pure (if negated then s.complement else s)
  | none => fail

/-- One member of a class or one end of a range. -/
def classAtom (f : Flags) : Reader Escape := do
  let c ← satisfy fun _ => true
  if c == '\\' then
    match ← escape f with
    | .at _ => fail
    | e => pure e
  else pure (.one c)

/-- A member of a class that is no bracket: a character, a range, or the set
    of an escape. -/
def classRange (f : Flags) : Reader CharSet := do
  let first ← classAtom f
  skip f
  let cs ← get
  match cs with
  | '-' :: next :: _ =>
    if next == ']' || next == '-' then
      match first with
      | .one c => pure (charsOf f (CharSet.single c))
      | .set s => pure (charsOf f s)
      | .at _ => fail
    else do
      char '-'
      skip f
      let last ← classAtom f
      match first, last with
      | .one a, .one b =>
        if a.toNat ≤ b.toNat then pure (charsOf f [(a.toNat, b.toNat)]) else fail
      | _, _ => fail
  | _ =>
    match first with
    | .one c => pure (charsOf f (CharSet.single c))
    | .set s => pure (charsOf f s)
    | .at _ => fail

/-- An operation between two parts of a class. -/
inductive SetOp where
  | inter
  | diff
  | symmDiff

/-- Apply a pending operation. -/
def SetOp.apply : Option (SetOp × CharSet) → CharSet → CharSet
  | none, s => s
  | some (.inter, l), s => l.inter s
  | some (.diff, l), s => l.diff s
  | some (.symmDiff, l), s => l.symmDiff s

/-- The members of a class up to its closing bracket. The state is the pending
    operation and the members since. -/
def classMembers (f : Flags) (nested : Reader CharSet)
    (state : Option (SetOp × CharSet) × CharSet) :
    Reader ((Option (SetOp × CharSet) × CharSet) ⊕ CharSet) := do
  let (pending, members) := state
  skip f
  let cs ← get
  match cs with
  | [] => fail
  | ']' :: _ => do
    char ']'
    pure (.inr (SetOp.apply pending members))
  | '[' :: _ => do
    char '['
    let s ← orElse asciiClass nested
    pure (.inl (pending, members ++ charsOf f s))
  | '&' :: '&' :: _ => do
    literal "&&"
    pure (.inl (some (.inter, SetOp.apply pending members), []))
  | '-' :: '-' :: _ => do
    literal "--"
    pure (.inl (some (.diff, SetOp.apply pending members), []))
  | '~' :: '~' :: _ => do
    literal "~~"
    pure (.inl (some (.symmDiff, SetOp.apply pending members), []))
  | _ => do
    let s ← classRange f
    pure (.inl (pending, members ++ s))

/-- A class after its opening bracket. A caret turns it around; dashes, and a
    closing bracket after them, stand for themselves when they come first. -/
def charClass (f : Flags) : Nat → Reader CharSet
  | 0 => fail
  | depth + 1 => do
    skip f
    let negated ← char? '^'
    skip f
    let dashes ← takeWhile (· == '-')
    let close ← if dashes.isEmpty then char? ']' else pure false
    let start : CharSet := (if dashes.isEmpty then [] else CharSet.single '-') ++
      (if close then CharSet.single ']' else [])
    let s ← iterate (classMembers f (charClass f depth)) (none, start)
    if negated && !f.wide then fail
    pure (if negated then s.complement else s)

/-- A number with blanks around it. -/
def count : Reader Nat := do
  let _ ← takeWhile Text.isBlank
  let ds ← takeWhile1 Char.isDigit
  let _ ← takeWhile Text.isBlank
  let n := ds.foldl (fun n c => n * 10 + (c.toNat - '0'.toNat)) 0
  if n < Nat.pow 2 32 then pure n else fail

/-- The bounds of a counted repetition after the opening brace. -/
def bounds : Reader (Nat × Option Nat) := do
  let least ← count
  let most ← if ← char? ',' then do
      let _ ← takeWhile Text.isBlank
      match ← peek? with
      | some '\x7d' => pure none
      | _ => some <$> count
    else pure (some least)
  char '\x7d'
  match most with
  | some m => if least ≤ m then pure (least, most) else fail
  | none => pure (least, most)

/-- The name of a group after the opening angle. -/
def groupName : Reader String := do
  let first ← satisfy fun c =>
    c == '_' || c.isAlpha || (0x7F < c.toNat && CharSet.mem Unicode.letters c)
  let rest ← takeWhile fun c => c == '_' || c == '.' || c == '[' || c == ']' ||
    c.isAlphanum || (0x7F < c.toNat && CharSet.mem CharSet.word c)
  char '>'
  pure (String.ofList (first :: rest))

/-- Flags before `:` or `)`. A dash clears those after it; a flag may be named
    once, and a dash must be followed by one. -/
def readFlags (state : Flags × Option Char × List Char × Bool) :
    Reader ((Flags × Option Char × List Char × Bool) ⊕ Flags) := do
  let (f, last, seen, clearing) := state
  match ← peek? with
  | some ':' | some ')' => if last == some '-' then fail else pure (.inr f)
  | some '-' => do
    if clearing then fail
    char '-'
    pure (.inl (f, some '-', seen, true))
  | some c => do
    if seen.contains c then fail
    char c
    match f.set? (!clearing) c with
    | some g => pure (.inl (g, some c, c :: seen, clearing))
    | none => fail
  | none => fail

/-- What stands so far: the flags, the finished alternatives, and the parts of
    the current one, last first. A part is `none` where flags were set, so
    that nothing can be repeated there. -/
structure Partial where
  flags : Flags
  finished : List Expr := []
  parts : List (Option Expr) := []

namespace Partial

/-- The current alternative. -/
def current (p : Partial) : Expr :=
  p.parts.foldl (fun after part => match part with
    | none => after
    | some e => match after with
      | .empty => e
      | _ => .seq e after) .empty

/-- All alternatives. -/
def result (p : Partial) : Expr :=
  p.finished.foldl (fun right left => .choice left right) p.current

/-- Add a part. -/
def push (p : Partial) (e : Expr) : Partial :=
  { p with parts := some e :: p.parts }

/-- End the current alternative. -/
def split (p : Partial) : Partial :=
  { p with finished := p.current :: p.finished, parts := [] }

/-- Repeat the last part. -/
def repeatLast (p : Partial) (least : Nat) (most : Option Nat) : Reader Partial := do
  let marked ← char? '?'
  match p.parts with
  | some e :: rest =>
    pure { p with parts := some (.repeated least most (marked == p.flags.swapped) e) :: rest }
  | _ => fail

end Partial

/-- What follows an opening parenthesis: flags for the rest of the group, or a
    group, whose inside `inner` reads. -/
def groupOf (inner : Flags → Reader Expr) (p : Partial) : Reader Partial := do
  skip p.flags
  let cs ← get
  match cs with
  | '?' :: 'P' :: '<' :: _ => do
    literal "?P<"
    let name ← groupName
    let body ← inner p.flags
    char ')'
    pure (p.push (.group (some name) body))
  | '?' :: '<' :: _ => do
    literal "?<"
    let name ← groupName
    let body ← inner p.flags
    char ')'
    pure (p.push (.group (some name) body))
  | '?' :: _ => do
    char '?'
    let before ← get
    let f ← iterate readFlags (p.flags, none, [], false)
    let used := before.length - (← get).length
    if ← char? ':' then
      let body ← inner f
      char ')'
      pure (p.push body)
    else do
      char ')'
      if used == 0 then fail
      pure { p with flags := f, parts := none :: p.parts }
  | _ => do
    let body ← inner p.flags
    char ')'
    pure (p.push (.group none body))

/-- The dot under the flags. -/
def dot (f : Flags) : CharSet :=
  if f.dotAll then CharSet.all
  else if f.crlf then (CharSet.ofText "\r\n").complement
  else (CharSet.single '\n').complement

/-- Read one part and go on, or stop before a closing parenthesis or the
    end. -/
def part (inner : Flags → Reader Expr) (p : Partial) : Reader (Partial ⊕ Expr) := do
  skip p.flags
  match ← peek? with
  | none | some ')' => pure (.inr p.result)
  | some c => do
    char c
    match c with
    | '|' => pure (.inl p.split)
    | '*' => Sum.inl <$> p.repeatLast 0 none
    | '+' => Sum.inl <$> p.repeatLast 1 none
    | '?' => Sum.inl <$> p.repeatLast 0 (some 1)
    | '\x7b' => do
      let (least, most) ← bounds
      Sum.inl <$> p.repeatLast least most
    | '(' => Sum.inl <$> groupOf inner p
    | '[' => do
      let s ← charClass p.flags maxDepth
      pure (.inl (p.push (.chars s)))
    | '.' => if p.flags.wide then pure (.inl (p.push (.chars (dot p.flags)))) else fail
    | '^' =>
      pure (.inl (p.push (.place (if p.flags.lines then .lineStart p.flags.crlf else .textStart))))
    | '$' =>
      pure (.inl (p.push (.place (if p.flags.lines then .lineEnd p.flags.crlf else .textEnd))))
    | '\\' => do
      match ← escape p.flags with
      | .one c => pure (.inl (p.push (.chars (charsOf p.flags (CharSet.single c)))))
      | .set s => pure (.inl (p.push (.chars (charsOf p.flags s))))
      | .at place => pure (.inl (p.push (.place place)))
    | _ => pure (.inl (p.push (.chars (charsOf p.flags (CharSet.single c)))))

/-- Alternatives up to a closing parenthesis or the end. -/
def alternatives : Nat → Flags → Reader Expr
  | 0, _ => fail
  | depth + 1, f => iterate (part (alternatives depth)) { flags := f }

/-- The pattern of a text. Two groups may not have one name, and the pattern
    may not grow too large when it is compiled. -/
def Expr.parse? (s : String) : Option Expr := do
  let e ← (alternatives (maxDepth + 1) {}).run s.toList
  let names := e.groups.filterMap id
  if names.eraseDups.length == names.length && e.weight ≤ maxWeight then some e else none

end Pattern

end Multitenancy
