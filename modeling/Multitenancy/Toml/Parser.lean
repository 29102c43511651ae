import Multitenancy.Toml.Scalar
import Multitenancy.Toml.Tree
/-!
# Reading Settings Documents

The reading of a TOML document as a tree.

A line is a header, a key with a value, or nothing, and a comment may follow.
Lists and tables written in place may be spread over lines.

## Main definitions

* `Toml.maxDepth`: How deeply lists and tables written in place may nest.
* `Toml.parse?`: The tree of a document.
-/

namespace Multitenancy

namespace Toml

open Reader

/-- The deepest nesting that is read. -/
def maxDepth : Nat := 80

/-- A comment up to the end of its line. -/
def comment : Reader Unit := do
  char '#'
  let _ ← takeWhile isPlain

/-- Blanks, line ends and comments. -/
def space : Reader Unit := do
  let _ ← many (orElse newline (orElse comment (do
    let _ ← takeWhile1 fun c => c == ' ' || c == '\t')))

/-- One part of a key. -/
def keyPart : Reader String := do
  match ← peek? with
  | some '\x22' => do
    char '\x22'
    let cs ← many basicChar
    char '\x22'
    pure (String.ofList cs)
  | some '\x27' => do
    char '\x27'
    let cs ← takeWhile fun c => isPlain c && c != '\x27'
    char '\x27'
    pure (String.ofList cs)
  | _ => do
    let cs ← takeWhile1 fun c => c.isAlphanum || c == '_' || c == '-'
    pure (String.ofList cs)

/-- A key whose parts stand between dots. -/
def key : Reader (List String) := do
  blanks
  let first ← keyPart
  blanks
  let rest ← many (do
    char '.'
    blanks
    let part ← keyPart
    blanks
    pure part)
  pure (first :: rest)

/-- The items between brackets or braces, with a comma allowed after the
    last. -/
def listed {α : Type} (item : Reader α) (close : Char) : Reader (List α) :=
  iterate (fun items => do
    space
    if ← char? close then pure (.inr items.reverse)
    else do
      let a ← item
      space
      if ← char? ',' then pure (.inl (a :: items))
      else do
        char close
        pure (.inr (a :: items).reverse)) []

/-- A value whose lists and tables nest at most `depth` deep. -/
def value : Nat → Reader Json
  | 0 => fail
  | depth + 1 => do
    match ← peek? with
    | some '\x22' => Json.text <$> basicText
    | some '\x27' => Json.text <$> literalText
    | some '[' => do
      char '['
      let items ← listed (value depth) ']'
      pure (.list items)
    | some '\x7b' => do
      char '\x7b'
      let pairs ← listed (do
        let path ← key
        char '='
        blanks
        let v ← value depth
        pure (path, v)) '\x7d'
      match pairs.foldlM (fun fields (path, v) => assign v path fields) [] with
      | some fields => pure (.object (fieldsToJson fields))
      | none => fail
    | _ => scalar

/-- A document so far: its table, and the path of the header in force. -/
structure Document where
  root : Fields := []
  header : List String := []

namespace Document

/-- Take over the result of a change that may be refused. -/
def accept (header : List String) : Option Fields → Reader Document
  | some root => pure { root, header }
  | none => fail

/-- A header of a table or of an item of a list of tables. -/
def readHeader (d : Document) : Reader Document := do
  char '['
  if ← char? '[' then do
    let path ← key
    literal "]]"
    accept path (openItem path d.root)
  else do
    let path ← key
    char ']'
    accept path (openTable path d.root)

/-- A key with its value, below the header in force. -/
def readAssignment (d : Document) : Reader Document := do
  let path ← key
  char '='
  blanks
  let v ← value maxDepth
  accept d.header (alongHeader (assign v path) d.header d.root)

/-- One line. -/
def readLine (d : Document) : Reader (Document ⊕ Document) := do
  blanks
  let d ← match ← peek? with
    | some '[' => d.readHeader
    | some '#' | some '\n' | some '\r' | none => pure d
    | _ => d.readAssignment
  blanks
  let _ ← Reader.optional comment
  if ← atEnd then pure (.inr d)
  else do
    newline
    pure (.inl d)

end Document

/-- The tree of a document. A byte order mark in front is passed over. -/
def parse? (s : String) : Option Json := do
  let cs := match s.toList with
    | c :: rest => if c.toNat == 0xFEFF then rest else c :: rest
    | [] => []
  let d ← (iterate Document.readLine {}).run cs
  return .object (fieldsToJson d.root)

end Toml

end Multitenancy
