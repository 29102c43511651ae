import Multitenancy.Registry.Indexed
import Multitenancy.Registry.Table
/-!
# The Registry

The registry of tenants, whichever way it is kept.

`Store` is the choice between the two ways. `Registry` is what the resolver
and provisioning see of a store: the same answers, unless reads are switched
off, and with a count of the look-ups by routing key. The administrative
operations of a store itself pass neither the switch nor the count.

## Main definitions

* `Store`: A registry in memory or in a database.
* `Registry`: A store behind a switch and a counter.
* `Registry.find`: A counted look-up.
-/

namespace Multitenancy

/-- A registry in memory or in a database. -/
inductive Store where
  | indexed (r : Indexed)
  | table (r : Table)
  deriving DecidableEq, Repr

namespace Store

/-- The active tenant that answers to a key. -/
def find : Store → String → Except Fault Tenant
  | .indexed r, key => r.find key
  | .table r, key => r.find key

/-- The tenant with an id, deleted or not. -/
def findById : Store → String → Except Fault Tenant
  | .indexed r, id => r.findById id
  | .table r, id => r.findById id

/-- The active tenants in the order of their creation. -/
def list : Store → Except Fault (List Tenant)
  | .indexed r => .ok r.list
  | .table r => r.list

/-- All tenants in the order of their creation. -/
def listAll : Store → Except Fault (List Tenant)
  | .indexed r => .ok r.listAll
  | .table r => r.listAll

/-- Add a tenant. -/
def create : Store → Tenant → Except Fault Store
  | .indexed r, t => (r.create t).map .indexed
  | .table r, t => (r.create t).map .table

/-- Replace an active tenant. -/
def update : Store → Tenant → Except Fault Store
  | .indexed r, t => (r.update t).map .indexed
  | .table r, t => (r.update t).map .table

/-- Delete a tenant, whose record stays. -/
def softDelete : Store → String → Timestamp → Except Fault Store
  | .indexed r, id, now => (r.softDelete id now).map .indexed
  | .table r, id, now => (r.softDelete id now).map .table

/-- The name of the way the registry is kept. -/
def kind : Store → String
  | .indexed _ => "memory"
  | .table _ => "sql"

end Store

/-- A store behind a switch and a counter. -/
structure Registry where
  store : Store
  /-- Whether reads are switched off. -/
  offline : Bool := false
  /-- How many look-ups by routing key there were. -/
  lookups : Nat := 0
  deriving DecidableEq, Repr

namespace Registry

/-- The fault of a read that is switched off. -/
def offlineFault : Fault := .reported .storage "registry offline"

/-- Pass a read unless reads are switched off. -/
def guarded {α : Type} (r : Registry) (read : Except Fault α) : Except Fault α :=
  if r.offline then .error offlineFault else read

/-- A counted look-up by routing key. -/
def find (r : Registry) (key : String) : Except Fault Tenant × Registry :=
  (r.guarded (r.store.find key), { r with lookups := r.lookups + 1 })

/-- The tenant with an id, deleted or not. -/
def findById (r : Registry) (id : String) : Except Fault Tenant :=
  r.guarded (r.store.findById id)

/-- The active tenants. -/
def list (r : Registry) : Except Fault (List Tenant) :=
  r.guarded r.store.list

/-- Take over the result of a write, which leaves the registry alone when it
    fails. -/
def wrote (r : Registry) (result : Except Fault Store) : Except Fault Unit × Registry :=
  match result with
  | .ok store => (.ok (), { r with store })
  | .error f => (.error f, r)

/-- Add a tenant. -/
def create (r : Registry) (t : Tenant) : Except Fault Unit × Registry :=
  r.wrote (r.store.create t)

/-- Replace an active tenant. -/
def update (r : Registry) (t : Tenant) : Except Fault Unit × Registry :=
  r.wrote (r.store.update t)

/-- Delete a tenant. -/
def softDelete (r : Registry) (id : String) (now : Timestamp) : Except Fault Unit × Registry :=
  r.wrote (r.store.softDelete id now)

end Registry

end Multitenancy
