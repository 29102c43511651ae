import Multitenancy.Json.Value
/-!
# Tables of Settings Documents

How the lines of a TOML document add up to one table.

A table can come about in three ways: by a header of its own, as a step on
the way of another header, or as a step of a dotted key. The way decides what
may be added later: a header may name a table that was only a step before,
dotted keys may only extend what dotted keys began, and nothing is ever given
twice.

## Main definitions

* `Node`: A value, a table with its origin, or a list of tables.
* `openTable`: What a header does.
* `openItem`: What a doubled header does.
* `assign`: What a key with a value does.
* `toJson`: The finished tree.
-/

namespace Multitenancy

namespace Toml

/-- How a table came about. -/
inductive Origin where
  /-- A header named it. -/
  | header
  /-- A header went through it. -/
  | passage
  /-- A dotted key went through it. -/
  | dotted
  deriving DecidableEq

/-- A part of a document under construction. -/
inductive Node where
  | value (v : Json)
  | table (origin : Origin) (fields : List (String × Node))
  /-- A list of tables, the last one first. -/
  | tables (items : List (List (String × Node)))

/-- The fields of a table under construction. -/
abbrev Fields := List (String × Node)

/-- The node of a field. -/
def find? : Fields → String → Option Node
  | [], _ => none
  | (k, n) :: rest, key => if k == key then some n else find? rest key

/-- Put a node in the place of a field, or at the end. -/
def put : Fields → String → Node → Fields
  | [], key, node => [(key, node)]
  | (k, n) :: rest, key, node =>
    if k == key then (k, node) :: rest else (k, n) :: put rest key node

/-- Change the table that a header's path leads to, making tables on the way.
    A list of tables on the way stands for its last one. -/
def alongHeader (change : Fields → Option Fields) : List String → Fields → Option Fields
  | [], fields => change fields
  | key :: path, fields =>
    match find? fields key with
    | none => do
      let inner ← alongHeader change path []
      return put fields key (.table .passage inner)
    | some (.table origin inner) => do
      let inner ← alongHeader change path inner
      return put fields key (.table origin inner)
    | some (.tables (last :: before)) => do
      let last ← alongHeader change path last
      return put fields key (.tables (last :: before))
    | some _ => none

/-- Make the table that a header names, or take over one that was a step of
    another header. -/
def nameTable (key : String) (fields : Fields) : Option Fields :=
  match find? fields key with
  | none => some (put fields key (.table .header []))
  | some (.table .passage inner) => some (put fields key (.table .header inner))
  | some _ => none

/-- Add an empty table to the list of tables that a doubled header names. -/
def nameItem (key : String) (fields : Fields) : Option Fields :=
  match find? fields key with
  | none => some (put fields key (.tables [[]]))
  | some (.tables items) => some (put fields key (.tables ([] :: items)))
  | some _ => none

/-- Open the table of a header. -/
def openTable (path : List String) (root : Fields) : Option Fields := do
  let key ← path.getLast?
  alongHeader (nameTable key) path.dropLast root

/-- Open a new table of a doubled header. -/
def openItem (path : List String) (root : Fields) : Option Fields := do
  let key ← path.getLast?
  alongHeader (nameItem key) path.dropLast root

/-- Give a value to a dotted key. -/
def assign (v : Json) : List String → Fields → Option Fields
  | [], _ => none
  | [key], fields =>
    match find? fields key with
    | none => some (put fields key (.value v))
    | some _ => none
  | key :: path, fields =>
    match find? fields key with
    | none => do
      let inner ← assign v path []
      return put fields key (.table .dotted inner)
    | some (.table .dotted inner) => do
      let inner ← assign v path inner
      return put fields key (.table .dotted inner)
    | some _ => none

mutual

/-- A finished node. -/
def Node.toJson : Node → Json
  | .value v => v
  | .table _ fields => .object (fieldsToJson fields)
  | .tables items => .list (itemsToJson items).reverse

/-- The finished fields of a table. -/
def fieldsToJson : List (String × Node) → List (String × Json)
  | [] => []
  | (key, node) :: rest => (key, node.toJson) :: fieldsToJson rest

/-- The finished tables of a list. -/
def itemsToJson : List (List (String × Node)) → List Json
  | [] => []
  | fields :: rest => .object (fieldsToJson fields) :: itemsToJson rest

end

end Toml

end Multitenancy
