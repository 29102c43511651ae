import Multitenancy.Tenant.Patch
import Multitenancy.Json.Parser
import Multitenancy.Json.Printer
/-!
# Tenants as Structured Values

The written form of tenants and of partial updates.

Reading is forgiving about what it does not know and strict about what it
does: unknown fields are passed over, a known field that occurs twice is
refused. A list of the fields in their order is accepted in place of an
object.

## Main definitions

* `fields?`: The values of known fields.
* `Tenant.toJson`, `Tenant.ofJson?`: Tenants.
* `Patch.toJson`, `Patch.ofJson?`: Partial updates.
* `decodeMetadata?`: Metadata from a column.
-/

namespace Multitenancy

/-- The values of the known fields `names`, in that order, `none` for a field
    that is missing. A repeated field is refused, and so is a list that is too
    long. -/
def fields? (names : List String) : Json → Option (List (Option Json))
  | .object fields =>
    let known := fields.filter fun f => names.contains f.1
    if (known.map Prod.fst).eraseDups.length == known.length then
      some (names.map fun name => Assoc.get? known name)
    else none
  | .list items =>
    if items.length ≤ names.length then
      some (items.map some ++ List.replicate (names.length - items.length) none)
    else none
  | _ => none

/-- A field of an object by its place among the known fields. -/
def required (values : List (Option Json)) (i : Nat) (read : Json → Option α) : Option α := do
  let value ← (values[i]?).join
  read value

/-- A field that has a default. -/
def withDefault (values : List (Option Json)) (i : Nat) (default : α)
    (read : Json → Option α) : Option α :=
  match (values[i]?).join with
  | some value => read value
  | none => some default

/-- A field that may be missing or null. -/
def nullable (values : List (Option Json)) (i : Nat) (read : Json → Option α) :
    Option (Option α) :=
  match (values[i]?).join with
  | none | some .null => some none
  | some value => (read value).map some

namespace Status

/-- A status as a text, or as an object with the text for its one field. -/
def ofJson? : Json → Option Status
  | .text s => ofName? s
  | .object [(name, .null)] => ofName? name
  | _ => none

end Status

namespace Timestamp

/-- A point in time as a text. -/
def ofJson? (v : Json) : Option Timestamp := do
  lenient? (← v.text?)

end Timestamp

/-- The fields of a tenant in their order. -/
def Tenant.fieldNames : List String :=
  ["id", "name", "domain", "subdomain", "store_locator", "status", "metadata", "created_at",
    "updated_at"]

/-- A tenant as an object. -/
def Tenant.toJson (t : Tenant) : Json :=
  .object [
    ("id", .text t.id),
    ("name", .text t.name),
    ("domain", .text t.domain),
    ("subdomain", .text t.subdomain),
    ("store_locator", .text t.storeLocator),
    ("status", .text t.status.name),
    ("metadata", .ofTexts t.metadata),
    ("created_at", .text t.createdAt.render),
    ("updated_at", .text t.updatedAt.render)]

/-- The tenant of an object. Id, name, status and the two times must be
    there. -/
def Tenant.ofJson? (v : Json) : Option Tenant := do
  let values ← fields? fieldNames v
  let id ← required values 0 Json.text?
  let name ← required values 1 Json.text?
  let domain ← withDefault values 2 "" Json.text?
  let subdomain ← withDefault values 3 "" Json.text?
  let storeLocator ← withDefault values 4 "" Json.text?
  let status ← required values 5 Status.ofJson?
  let metadata ← withDefault values 6 [] Json.textMap?
  let createdAt ← required values 7 Timestamp.ofJson?
  let updatedAt ← required values 8 Timestamp.ofJson?
  return { id, name, domain, subdomain, storeLocator, status, metadata, createdAt, updatedAt }

/-- The fields of a partial update in their order. -/
def Patch.fieldNames : List String :=
  ["name", "domain", "subdomain", "metadata"]

/-- A partial update as an object, `null` for a field that stays. -/
def Patch.toJson (p : Patch) : Json :=
  .object [
    ("name", .textOrNull p.name),
    ("domain", .textOrNull p.domain),
    ("subdomain", .textOrNull p.subdomain),
    ("metadata", match p.metadata with
      | some entries => .ofTexts entries
      | none => .null)]

/-- Whether a list in place of an object has every field. -/
def isComplete (names : List String) : Json → Bool
  | .list items => items.length == names.length
  | _ => true

/-- The partial update of an object. A list in its place has no defaults. -/
def Patch.ofJson? (v : Json) : Option Patch := do
  if !isComplete fieldNames v then none
  let values ← fields? fieldNames v
  let name ← nullable values 0 Json.text?
  let domain ← nullable values 1 Json.text?
  let subdomain ← nullable values 2 Json.text?
  let metadata ← nullable values 3 Json.textMap?
  return { name, domain, subdomain, metadata }

/-- The metadata that a column holds: an object of texts, or nothing but
    blanks for no metadata. -/
def decodeMetadata? (column : String) : Option (Assoc String String) :=
  if Text.blankText column then some []
  else do
    let v ← Json.parse? column
    v.textMap?

end Multitenancy
