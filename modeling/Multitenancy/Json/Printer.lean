import Multitenancy.Json.Value
import Multitenancy.Text.Hex
import Multitenancy.Text.Order
import Multitenancy.Text.Split
/-!
# Writing Structured Values

The compact text of a JSON value: no blanks, and only the characters that
must be escaped are escaped, which are the quote, the backslash and the
control characters below U+0020.

Written objects list their fields in the order they have; `sortFields` puts
them in ascending order first, for bodies whose field order is promised.

## Main definitions

* `Json.render`: The compact text.
* `Json.sortFields`: Fields in ascending order at every depth.
-/

namespace Multitenancy

namespace Json

/-- A character inside a quoted text. -/
def escapeChar (c : Char) : String :=
  if c == '\x22' then "\\\""
  else if c == '\\' then "\\\\"
  else if c == '\n' then "\\n"
  else if c == '\r' then "\\r"
  else if c == '\t' then "\\t"
  else if c.toNat == 8 then "\\b"
  else if c.toNat == 12 then "\\f"
  else if c.toNat < 0x20 then
    "\\u00" ++ Hex.ofBytes [c.toNat.toUInt8]
  else c.toString

/-- A quoted text. -/
def quote (s : String) : String :=
  "\"" ++ s.toList.foldl (fun out c => out ++ escapeChar c) "" ++ "\""

mutual

/-- The compact text of a value. -/
def render : Json → String
  | .null => "null"
  | .bool true => "true"
  | .bool false => "false"
  | .int n => toString n
  | .real literal => literal
  | .text s => quote s
  | .list items => "[" ++ Text.joined "," (renderItems items) ++ "]"
  | .object fields => "\x7b" ++ Text.joined "," (renderFields fields) ++ "\x7d"

/-- The compact texts of items. -/
def renderItems : List Json → List String
  | [] => []
  | item :: rest => render item :: renderItems rest

/-- The compact texts of fields. -/
def renderFields : List (String × Json) → List String
  | [] => []
  | (name, value) :: rest => (quote name ++ ":" ++ render value) :: renderFields rest

end

mutual

/-- Put the fields of every object in ascending order; of fields with one
    name the last stands. -/
def sortFields : Json → Json
  | .list items => .list (sortItems items)
  | .object fields => .object (Text.sortedByKey (Assoc.ofPairs (sortEach fields)))
  | .null => .null
  | .bool b => .bool b
  | .int n => .int n
  | .real literal => .real literal
  | .text s => .text s

/-- `sortFields` on each item. -/
def sortItems : List Json → List Json
  | [] => []
  | item :: rest => sortFields item :: sortItems rest

/-- `sortFields` on the value of each field. -/
def sortEach : List (String × Json) → List (String × Json)
  | [] => []
  | (name, value) :: rest => (name, sortFields value) :: sortEach rest

end

end Json

end Multitenancy
