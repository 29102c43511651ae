import Multitenancy.Settings.Variables
import Multitenancy.Text.Blank
import Multitenancy.Text.Unicode.Letters
import Multitenancy.Text.Unicode.Numbers
/-!
# Variable Files

A file of variables beside a service, one assignment a line, which fills in
what the environment leaves open.

A value may be quoted, and a quoted value may run over several lines. Outside
single quotes a dollar sign puts in another variable: one of the environment,
or one assigned before. Reading stops at the first line that is not
understood; what was assigned up to there stands.

## Main definitions

* `Dotenv.logicalLines`: The lines of a file, with quoted line ends inside.
* `Dotenv.assignment`: The assignment of a line.
* `Dotenv.load`: The environment after a file has been read.
-/

namespace Multitenancy

namespace Dotenv

/-- Where the end of a line finds its text. -/
inductive LineState where
  | complete
  | escape
  | strong
  | strongEscape
  | weak
  | weakEscape
  | blank
  deriving DecidableEq

/-- The state after a character; `none` at the beginning of a comment. -/
def LineState.next (s : LineState) (c : Char) : Option LineState :=
  match s with
  | .blank =>
    if c == '#' then none
    else if c == '\\' then some .escape
    else if c == '\x22' then some .weak
    else if c == '\x27' then some .strong
    else some .complete
  | .escape => some .complete
  | .complete =>
    if Text.isBlank c && c != '\n' && c != '\r' then some .blank
    else if c == '\\' then some .escape
    else if c == '\x22' then some .weak
    else if c == '\x27' then some .strong
    else some .complete
  | .weak =>
    if c == '\\' then some .weakEscape else if c == '\x22' then some .complete else some .weak
  | .weakEscape => some .weak
  | .strong =>
    if c == '\\' then some .strongEscape
    else if c == '\x27' then some .complete else some .strong
  | .strongEscape => some .strong

/-- The state at the end of a physical line, with what precedes a comment. The
    second component says whether a comment began. -/
def endState (s : LineState) : List Char → LineState × Bool × List Char
  | [] => (s, false, [])
  | c :: cs =>
    match s.next c with
    | none => (s, true, [])
    | some s =>
      let (final, comment, kept) := endState s cs
      (final, comment, c :: kept)

/-- Cut after each line feed. -/
def physicalLines : List Char → List (List Char)
  | [] => []
  | c :: cs =>
    if c == '\n' then [c] :: physicalLines cs
    else match physicalLines cs with
      | [] => [[c]]
      | line :: rest => (c :: line) :: rest

/-- Drop a line end. -/
def chomp (cs : List Char) : List Char :=
  match cs.reverse with
  | '\n' :: '\r' :: rest => rest.reverse
  | '\n' :: rest => rest.reverse
  | _ => cs

/-- Join physical lines until the text is complete. `none` in the result
    stands for a text that never is, and ends the list. -/
def joinLines (s : LineState) (held : List Char) : List (List Char) → List (Option (List Char))
  | [] => if s == .complete then [] else [none]
  | line :: rest =>
    let whole := held ++ line
    if (whole.dropWhile Text.isBlank).head? == some '#' then
      some [] :: joinLines .complete [] rest
    else
      let (final, comment, kept) := endState s line
      if comment then some (held ++ kept) :: joinLines .complete [] rest
      else if final == .complete then some (chomp whole) :: joinLines .complete [] rest
      else joinLines final whole rest

/-- The lines of a file. -/
def logicalLines (text : List Char) : List (Option (List Char)) :=
  joinLines .complete [] (physicalLines text)

/-- A variable being put in: by a plain name, or by a name in braces. -/
inductive Insertion where
  | plain
  | braced

/-- The state of reading a value. -/
structure ValueState where
  strong : Bool := false
  weak : Bool := false
  escaped : Bool := false
  /-- A blank has ended the value; only blanks and a comment may follow. -/
  ended : Bool := false
  insertion : Option Insertion := none
  name : List Char := []
  out : List Char := []

/-- Put in the variable whose name has been read. -/
def ValueState.insert (v : ValueState) (lookup : Variables) : ValueState :=
  { v with
    out := v.out ++ ((lookup (String.ofList v.name)).getD "").toList
    name := []
    insertion := none }

/-- Whether a character belongs to a plain name: a letter or number of any
    script. A low line ends the name. -/
def isNameChar (c : Char) : Bool :=
  c.isAlphanum || (0x7F < c.toNat &&
    (Unicode.letters ++ Unicode.digits ++ Unicode.letterNumbers ++ Unicode.otherNumbers).any
      fun r => r.1 ≤ c.toNat && c.toNat ≤ r.2)

/-- The value when there is nothing more of it: there is none if a brace or a
    quote is still open. -/
def ValueState.finish (v : ValueState) (lookup : Variables) : Option (List Char) :=
  match v.insertion with
  | some .braced => none
  | _ => if v.strong || v.weak then none else some (v.insert lookup).out

/-- Read the value of an assignment to the end of its line. -/
def readValue (lookup : Variables) (v : ValueState) : List Char → Option (List Char)
  | [] => v.finish lookup
  | c :: cs =>
    if v.ended then
      if c == ' ' || c == '\t' then readValue lookup v cs
      else if c == '#' then v.finish lookup
      else none
    else if v.escaped then
      let v := { v with escaped := false }
      if c == '\\' || c == '\x27' || c == '\x22' || c == '$' || c == ' ' then
        readValue lookup { v with out := v.out ++ [c] } cs
      else if c == 'n' then readValue lookup { v with out := v.out ++ ['\n'] } cs
      else none
    else if v.strong then
      if c == '\x27' then readValue lookup { v with strong := false } cs
      else readValue lookup { v with out := v.out ++ [c] } cs
    else match v.insertion with
      | some mode =>
        if isNameChar c then readValue lookup { v with name := v.name ++ [c] } cs
        else match mode with
          | .braced =>
            if c == '\x7d' then readValue lookup (v.insert lookup) cs
            else readValue lookup { v with name := v.name ++ [c] } cs
          | .plain =>
            if c == '\x7b' && v.name.isEmpty then
              readValue lookup { v with insertion := some .braced } cs
            else
              let v := v.insert lookup
              if c == '$' then readValue lookup { v with insertion := some .plain } cs
              else readValue lookup { v with out := v.out ++ [c] } cs
      | none =>
        if c == '$' then readValue lookup { v with insertion := some .plain } cs
        else if v.weak then
          if c == '\x22' then readValue lookup { v with weak := false } cs
          else if c == '\\' then readValue lookup { v with escaped := true } cs
          else readValue lookup { v with out := v.out ++ [c] } cs
        else if c == '\x27' then readValue lookup { v with strong := true } cs
        else if c == '\x22' then readValue lookup { v with weak := true } cs
        else if c == '\\' then readValue lookup { v with escaped := true } cs
        else if c == ' ' || c == '\t' then readValue lookup { v with ended := true } cs
        else readValue lookup { v with out := v.out ++ [c] } cs

/-- A name at the front of a text: a letter or low line, then letters, digits,
    low lines and dots. -/
def name? (cs : List Char) : Option (List Char × List Char) :=
  match cs with
  | c :: _ =>
    if c.isAlpha || c == '_' then
      let ok (c : Char) : Bool := c.isAlphanum || c == '_' || c == '.'
      some (cs.takeWhile ok, cs.dropWhile ok)
    else none
  | [] => none

/-- Drop the blanks in front. -/
def skip (cs : List Char) : List Char :=
  cs.dropWhile Text.isBlank

/-- What follows an equals sign. -/
def afterEquals? : List Char → Option (List Char)
  | '=' :: rest => some rest
  | _ => none

/-- The name of a line and what follows its equals sign. The word `export` may
    precede the name. -/
def target? (line : List Char) : Option (List Char × List Char) := do
  let (name, rest) ← name? line
  match afterEquals? (skip rest) with
  | some value => some (name, value)
  | none =>
    if name == "export".toList then do
      let (name, rest) ← name? (skip rest)
      let value ← afterEquals? (skip rest)
      return (name, value)
    else none

/-- The assignment of a line: `none` when the line is not understood, and
    `some none` when it has no assignment. -/
def assignment (lookup : Variables) (line : List Char) : Option (Option (String × String)) :=
  let line := skip line
  if line.isEmpty || line.head? == some '#' then some none
  else do
    let (name, value) ← target? line
    let value := skip value
    let text ← if value.isEmpty || value.head? == some '#' then some []
      else readValue lookup {} value
    return some (String.ofList name, String.ofList text)

/-- Read lines into an environment. A variable that is set keeps its value, but
    what the file assigned to it can still be put into later values where the
    environment has nothing. -/
def loadLines (env assigned : Assoc String String) : List (Option (List Char)) →
    Assoc String String
  | [] => env
  | none :: _ => env
  | some line :: rest =>
    let lookup : Variables := fun name => (env.get? name).or (assigned.get? name)
    match assignment lookup line with
    | none => env
    | some none => loadLines env assigned rest
    | some (some (name, value)) =>
      loadLines (if env.contains name then env else env.insert name value)
        (assigned.insert name value) rest

/-- The environment after a file has been read. -/
def load (env : Assoc String String) (file : String) : Assoc String String :=
  let cs := match file.toList with
    | c :: rest => if c.toNat == 0xFEFF then rest else c :: rest
    | [] => []
  loadLines env [] (logicalLines cs)

end Dotenv

end Multitenancy
