import Multitenancy.Text.Assoc
/-!
# Structured Values

The value type of JSON texts: request bodies, stored metadata, configuration
trees.

Whole numbers are exact. A number with a fraction or an exponent is kept as
it was written, since nothing in the library computes with one.

## Main definitions

* `Json`: A value.
* `Json.field?`: A field of an object.
-/

namespace Multitenancy

/-- A JSON value. Objects keep the order of their fields. -/
inductive Json where
  | null
  | bool (b : Bool)
  | int (n : Int)
  | real (literal : String)
  | text (s : String)
  | list (items : List Json)
  | object (fields : List (String × Json))
  deriving Inhabited

namespace Json

/-- A natural number as a value. -/
def nat (n : Nat) : Json := .int n

/-- A text or nothing. -/
def textOrNull : Option String → Json
  | some s => .text s
  | none => .null

/-- A list of texts. -/
def texts (ss : List String) : Json := .list (ss.map .text)

/-- A map of texts as an object. -/
def ofTexts (m : Assoc String String) : Json :=
  .object (m.map fun p => (p.1, .text p.2))

/-- The field of an object; `none` for other values. -/
def field? : Json → String → Option Json
  | .object fields, name => Assoc.get? fields name
  | _, _ => none

/-- The characters of a text value. -/
def text? : Json → Option String
  | .text s => some s
  | _ => none

/-- The number of a whole value. -/
def int? : Json → Option Int
  | .int n => some n
  | _ => none

/-- The items of a list. -/
def list? : Json → Option (List Json)
  | .list items => some items
  | _ => none

/-- An object whose fields are all texts. A repeated key keeps its last
    text. -/
def textMap? : Json → Option (Assoc String String)
  | .object fields => do
    let pairs ← fields.mapM fun p => (text? p.2).map (p.1, ·)
    return Assoc.ofPairs pairs
  | _ => none

/-- A list whose items are all whole numbers in the range of 64-bit signed
    words. -/
def wordList? : Json → Option (List Int)
  | .list items => items.mapM fun
    | .int n => if -(Nat.pow 2 63) ≤ n && n < Nat.pow 2 63 then some n else none
    | _ => none
  | _ => none

end Json

end Multitenancy
