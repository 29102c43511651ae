import Multitenancy.App.Env
import Multitenancy.Locks
import Multitenancy.Storage.Stores
/-!
# Provisioning Tenants

What creating, updating and deleting tenants works on.

Creating a tenant opens its store, prepares it and runs a migration before the
tenant becomes visible. What was done to stores along the way is recorded as
effects, because an operation that fails afterwards does not undo it: stores
are never removed.

## Main definitions

* `Migration`: What runs once on every new store.
* `Service`: How tenants are provisioned.
* `Effect`: What was done outside the registry.
* `Office`: The state that the operations work on.
-/

namespace Multitenancy

/-- What runs once on a new store, given by the number of its handle. -/
abbrev Migration := Stores → Nat → Tenant → Except Fault Unit × Stores

/-- How tenants are provisioned. -/
structure Service where
  /-- The locator of a tenant that names none. -/
  generate : Tenant → String
  /-- How stores are opened. -/
  pool : PoolSettings
  migration : Option Migration := none
  /-- Whether the resolver is told about changes. -/
  attached : Bool := true

/-- What was done outside the registry. -/
inductive Effect where
  /-- The store of a tenant was opened or made. -/
  | opening (id locator : String)
  /-- The migration ran on a new store. -/
  | migrating (id : String)
  deriving DecidableEq, Repr

/-- The state that the operations work on. -/
structure Office where
  env : Env
  stores : Stores
  /-- Who creates which id. -/
  creating : Locks Nat := {}
  /-- What was done outside the registry, in order. -/
  effects : List Effect := []

namespace Office

/-- How often the migration ran. -/
def migrationRuns (o : Office) : Nat :=
  (o.effects.filter fun e => match e with
    | .migrating _ => true
    | .opening _ _ => false).length

/-- Record an effect. -/
def did (o : Office) (e : Effect) : Office :=
  { o with effects := o.effects ++ [e] }

/-- Forget what the resolver knows about the keys of a tenant. -/
def forget (svc : Service) (o : Office) (t : Tenant) : Office :=
  if svc.attached then
    { o with env := { o.env with resolver := o.env.resolver.invalidateTenant t } }
  else o

end Office

end Multitenancy
