import Multitenancy.Registry.Basic
import Multitenancy.Storage.Stores
/-!
# Connecting to a Registry

Where a registry that is kept in a database meets the files: the table of
tenants is made when the registry is first connected to, read when it is
connected to again, and written back when the connection is closed.

While the registry is connected, its rows are those of the `Table`; what the
file holds is what the last connection left.

## Main definitions

* `Stores.connectRegistry`: The table at a locator.
* `Stores.disconnectRegistry`: Write the table back and close.
* `Stores.ensureTenants`: Make the table of tenants if it is missing.
-/

namespace Multitenancy

namespace Stores

/-- Make the table of tenants if it is missing. -/
def ensureTenants (s : Stores) (id : Nat) : Except StoreFault Stores := do
  let h ← s.live id
  let d ← s.tables h
  match d.tenants with
  | some _ => return s
  | none =>
    if h.readOnly then .error .readOnly
    return s.writeTables id h { d with tenants := some [] }

/-- The table of tenants of an open store. -/
def tenantTable (s : Stores) (id : Nat) : Except StoreFault (Table × Stores) := do
  let s ← s.ensureTenants id
  let h ← s.live id
  let d ← s.tables h
  return ({ rows := d.tenants.getD [], access := if h.readOnly then .readOnly else .full }, s)

/-- Connect to the registry at a locator, which is made if it may be. The
    answer is its handle and its table. -/
def connectRegistry (s : Stores) (pool : PoolSettings) (locator : String) :
    Except Fault (Nat × Table) × Stores :=
  match s.openStore pool locator true with
  | (.error f, s) => (.error f, s)
  | (.ok id, s) =>
    match s.tenantTable id with
    | .ok (table, s) => (.ok (id, table), s)
    | .error f => (.error (.store f), s.close id)

/-- Write the rows of a registry back and close it. -/
def disconnectRegistry (s : Stores) (id : Nat) (table : Table) : Stores :=
  match s.live id with
  | .error _ => s
  | .ok h =>
    let s := match s.tables h with
      | .ok d => s.writeTables id h { d with tenants := some table.rows }
      | .error _ => s
    s.close id

end Stores

end Multitenancy
