import Multitenancy.Provisioning.Plan
import Multitenancy.Registry.Connection
import Multitenancy.Storage.Pools
/-!
# The Backend

What stands behind the router: the registry, the resolver, provisioning, the
files, and the open stores of tenants.

## Main definitions

* `Backend`: The state.
* `Backend.create`, `Backend.update`, `Backend.delete`: Operations on tenants,
  each run alone.
* `Backend.getPool`, `Backend.appliedMigrations`: The store of a tenant.
-/

namespace Multitenancy

/-- What stands behind the router. -/
structure Backend where
  service : Service
  office : Office
  pools : Pools

namespace Backend

/-- Change what requests and administration share. -/
def withEnv (b : Backend) (env : Env) : Backend :=
  { b with office := { b.office with env } }

/-- Change files and handles. -/
def withStores (b : Backend) (stores : Stores) : Backend :=
  { b with office := { b.office with stores } }

/-- The steady clock. -/
def clock (b : Backend) : Nat :=
  b.office.env.clock

/-- Let the steady clock go on to a time, or stay if it is past it. -/
def passUntil (b : Backend) (time : Nat) : Backend :=
  b.withEnv { b.office.env with clock := max b.clock time }

/-- Run an operation on tenants alone. -/
def call (b : Backend) (c : Call) : Option Reply × Backend :=
  let (office, reply) := b.office.run b.service c
  (reply, { b with office })

/-- The fault of an operation that cannot end. -/
def stalled : Fault := .reported .provisioning "the tenant is locked"

/-- Create a tenant and its store. -/
def create (b : Backend) (t : Tenant) : Except Fault Tenant × Backend :=
  match b.call (.create t) with
  | (some (.record r), b) => (r, b)
  | (_, b) => (.error stalled, b)

/-- Change a tenant. -/
def update (b : Backend) (id : String) (patch : Patch) : Except Fault Tenant × Backend :=
  match b.call (.update id patch) with
  | (some (.record r), b) => (r, b)
  | (_, b) => (.error stalled, b)

/-- Delete a tenant. -/
def delete (b : Backend) (id : String) : Except Fault Unit × Backend :=
  match b.call (.delete id) with
  | (some (.deleted r), b) => (r, b)
  | (_, b) => (.error stalled, b)

/-- The open store of a tenant, opened if need be. -/
def getPool (b : Backend) (t : Tenant) : Except Fault Nat × Backend :=
  let (r, stores, pools) := Pools.get b.office.stores b.pools t
  (r, { b.withStores stores with pools })

/-- Forget and close the store of a tenant, and say whether it was open. -/
def evictPool (b : Backend) (id : String) : Bool × Backend :=
  let (found, stores, pools) := Pools.evict b.office.stores b.pools id
  (found, { b.withStores stores with pools })

/-- Forget and close the stores of all tenants. -/
def closePools (b : Backend) : Backend :=
  let (stores, pools) := Pools.closeAll b.office.stores b.pools
  { b.withStores stores with pools }

/-- The migrations of a tenant's store, which is opened if need be. -/
def appliedMigrations (b : Backend) (t : Tenant) : Except Fault (List String) × Backend :=
  match b.getPool t with
  | (.error f, b) => (.error f, b)
  | (.ok handle, b) =>
    match b.office.stores.migrations handle with
    | .ok versions => (.ok versions, b)
    | .error f => (.error (.store f), b)

end Backend

end Multitenancy
