import Multitenancy.Tenant.Fault
import Multitenancy.Text.Ascii
import Multitenancy.Text.Assoc
import Multitenancy.Text.Blank
import Multitenancy.Time.Timestamp
/-!
# Tenants

A tenant, its routing keys, and which ids it may have.

A tenant is named by three routing keys: its id, which never changes and is
compared exactly, and a domain and a subdomain, which may be empty and are
stored trimmed and lower-cased. The id is put into store locators as it is,
so `check` refuses ids that could change what a locator means.

A deleted tenant keeps its record: its id stays reserved for ever, while its
domain and subdomain become free.

## Main definitions

* `Status`: Active or deleted.
* `Tenant`: The record of a tenant.
* `Tenant.check`: Whether a record may be stored.
* `Tenant.routingKeys`: The keys that lead to a tenant.
* `Tenant.cacheKey`: A key of a shared cache set apart for one tenant.
* `foldKey`: The stored form of a domain or subdomain.
-/

namespace Multitenancy

/-- Whether requests can reach a tenant. -/
inductive Status where
  | active
  | deleted
  deriving DecidableEq, Repr

namespace Status

/-- The written form. -/
def name : Status → String
  | .active => "active"
  | .deleted => "deleted"

/-- The status of a written form. -/
def ofName? : String → Option Status
  | "active" => some .active
  | "deleted" => some .deleted
  | _ => none

/-- The status of a written form, or the fault of a row that has no such
    form. -/
def parse (s : String) : Except Fault Status :=
  match ofName? s with
  | some status => .ok status
  | none => .error (.unknownStatus s)

end Status

/-- The stored form of a domain or subdomain: trimmed, and lowered from A
    to Z. -/
def foldKey (key : String) : String :=
  String.ofList (Text.lower (Text.trim key.toList))

/-- The record of a tenant. -/
structure Tenant where
  id : String
  name : String
  domain : String := ""
  subdomain : String := ""
  storeLocator : String := ""
  status : Status := .active
  metadata : Assoc String String := []
  createdAt : Timestamp
  updatedAt : Timestamp
  deriving DecidableEq, Repr

namespace Tenant

/-- An active tenant without routing keys other than its id. -/
def new (id name : String) (now : Timestamp) : Tenant :=
  { id, name, createdAt := now, updatedAt := now }

/-- Set the domain in its stored form. -/
def withDomain (t : Tenant) (domain : String) : Tenant :=
  { t with domain := foldKey domain }

/-- Set the subdomain in its stored form. -/
def withSubdomain (t : Tenant) (subdomain : String) : Tenant :=
  { t with subdomain := foldKey subdomain }

/-- Set one metadata entry. -/
def withMetadata (t : Tenant) (key value : String) : Tenant :=
  { t with metadata := t.metadata.insert key value }

/-- Bring domain and subdomain into their stored form. -/
def normalised (t : Tenant) : Tenant :=
  { t with domain := foldKey t.domain, subdomain := foldKey t.subdomain }

/-- Whether requests can reach the tenant. -/
def isActive (t : Tenant) : Bool :=
  t.status == .active

/-- The keys that lead to the tenant, in the order in which they are tried. -/
def routingKeys (t : Tenant) : List String :=
  [t.id, t.domain, t.subdomain].filter fun key => !key.isEmpty

/-- The stored forms of the keys other than the id, without empty ones. -/
def secondaryKeys (t : Tenant) : List String :=
  [foldKey t.domain, foldKey t.subdomain].filter fun key => !key.isEmpty

/-- The key of a shared cache under which this tenant keeps `key`. An id
    cannot be told from a longer one by its own characters, so the keys of two
    tenants may meet only if an id holds a colon. -/
def cacheKey (t : Tenant) (key : String) : String :=
  "tenant:" ++ t.id ++ ":" ++ key

/-- The characters an id may not hold: they separate the parts of a
    locator. -/
def forbidden : List Char :=
  ['/', '\\', '?', '#', '%']

/-- Whether a record may be stored. The id must not be blank, padded, hold a
    forbidden character or be a name that directories use for themselves. -/
def check (t : Tenant) : Except Fault Unit :=
  let id := t.id.toList
  if (Text.trim id).isEmpty then .error .emptyId
  else if Text.trim id != id then .error (.paddedId t.id)
  else match id.find? (forbidden.contains ·) with
    | some c => .error (.forbiddenChar t.id c)
    | none =>
      if t.id == "." || t.id == ".." then .error (.reservedId t.id) else .ok ()

end Tenant

end Multitenancy
