import Multitenancy.Tenant.Basic
/-!
# The Registry in Memory

The registry of tenants as maps: one by id, which keeps every tenant that was
ever created, and one each by domain and by subdomain, which keep the active
ones. A list holds the ids in the order of their creation.

A routing key belongs to one active tenant at most, whichever of the three
kinds of keys it is. `claimant` finds who else answers to a key, and nothing
is written before it has been asked about every key of the record.

## Main definitions

* `Indexed`: The maps.
* `Indexed.find`: The active tenant that answers to a key.
* `Indexed.create`, `Indexed.update`, `Indexed.softDelete`: The writes, which
  leave the maps alone when they fail.
-/

namespace Multitenancy

/-- The registry as maps. -/
structure Indexed where
  /-- Every tenant that was ever created. -/
  byId : Assoc String Tenant := []
  /-- Active tenants with a domain. -/
  byDomain : Assoc String Tenant := []
  /-- Active tenants with a subdomain. -/
  bySubdomain : Assoc String Tenant := []
  /-- The ids in the order of creation. -/
  order : List String := []
  deriving DecidableEq, Repr

namespace Indexed

/-- A registry without tenants. -/
def empty : Indexed := {}

/-- The active tenant with an id. -/
def activeById? (r : Indexed) (id : String) : Option Tenant :=
  (r.byId.get? id).filter Tenant.isActive

/-- The id of an active tenant other than `own` that answers to a key. -/
def claimant? (r : Indexed) (key own : String) : Option String :=
  let lowered := Text.lowerText key
  let found := [r.activeById? key, r.byDomain.get? lowered, r.bySubdomain.get? lowered]
  ((found.filterMap id).find? fun t => t.id != own).map Tenant.id

/-- Whether every key of a record is free or its own. The id comes first. -/
def checkKeys (r : Indexed) (t : Tenant) : Except Fault Unit :=
  (t.id :: t.secondaryKeys).forM fun key =>
    match r.claimant? key t.id with
    | some owner => .error (.keyTaken key owner)
    | none => .ok ()

/-- Take a key out of a map if it leads to the tenant. -/
def release (m : Assoc String Tenant) (key id : String) : Assoc String Tenant :=
  match m.get? key with
  | some t => if !key.isEmpty && t.id == id then m.erase key else m
  | none => m

/-- Take a tenant's optional keys out of their maps. -/
def unindex (r : Indexed) (t : Tenant) : Indexed :=
  { r with
    byDomain := release r.byDomain t.domain t.id
    bySubdomain := release r.bySubdomain t.subdomain t.id }

/-- Write an optional key into its map. -/
def claim (m : Assoc String Tenant) (key : String) (t : Tenant) : Assoc String Tenant :=
  if key.isEmpty then m else m.insert key t

/-- Write a tenant into the maps; a deleted one only by its id. -/
def index (r : Indexed) (t : Tenant) : Indexed :=
  if t.isActive then
    { r with
      byDomain := claim r.byDomain t.domain t
      bySubdomain := claim r.bySubdomain t.subdomain t
      byId := r.byId.insert t.id t }
  else { r with byId := r.byId.insert t.id t }

/-- The active tenant that answers to a key: by its id as it is, or by its
    domain or subdomain when both are trimmed and lowered. -/
def find (r : Indexed) (key : String) : Except Fault Tenant :=
  let folded := foldKey key
  match (r.activeById? key).or ((r.byDomain.get? folded).or (r.bySubdomain.get? folded)) with
  | some t => .ok t
  | none => .error (.unknownTenant key)

/-- The tenant with an id, deleted or not. -/
def findById (r : Indexed) (id : String) : Except Fault Tenant :=
  match r.byId.get? id with
  | some t => .ok t
  | none => .error (.unknownTenant id)

/-- All tenants in the order of their creation. -/
def listAll (r : Indexed) : List Tenant :=
  r.order.filterMap r.byId.get?

/-- The active tenants in the order of their creation. -/
def list (r : Indexed) : List Tenant :=
  r.listAll.filter Tenant.isActive

/-- Add a tenant. -/
def create (r : Indexed) (t : Tenant) : Except Fault Indexed := do
  t.check
  let t := t.normalised
  if r.byId.contains t.id then .error (.idTaken t.id)
  r.checkKeys t
  return { r with order := r.order ++ [t.id] }.index t

/-- Replace an active tenant. Its status and the time of its creation stay. -/
def update (r : Indexed) (t : Tenant) : Except Fault Indexed := do
  let t := t.normalised
  match r.activeById? t.id with
  | none => .error (.unknownTenant t.id)
  | some existing =>
    r.checkKeys t
    return (r.unindex existing).index
      { t with status := existing.status, createdAt := existing.createdAt }

/-- Delete a tenant. Its record stays; deleting it again does nothing. -/
def softDelete (r : Indexed) (id : String) (now : Timestamp) : Except Fault Indexed :=
  match r.byId.get? id with
  | none => .error (.unknownTenant id)
  | some existing =>
    if existing.isActive then
      .ok ((r.unindex existing).index { existing with status := .deleted, updatedAt := now })
    else .ok r

end Indexed

end Multitenancy
