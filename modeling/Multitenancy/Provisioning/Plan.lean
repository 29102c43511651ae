import Multitenancy.App.Hook
import Multitenancy.Provisioning.Call
import Multitenancy.Resolution.Locator
/-!
# Provisioning Plans

Provisioning as data: where stores go, which migrations they get, and which
tenants are refused.

## Main definitions

* `LocatorPlan`: Where the stores of new tenants go.
* `MigrationPlan`: What runs on a new store.
-/

namespace Multitenancy

/-- The place in a text that the id of a tenant takes. -/
def idMark : List Char := "<id>".toList

/-- A text with the id of a tenant put in. -/
def fillId (text : String) (t : Tenant) : String :=
  String.ofList (Text.replaceAll idMark t.id.toList text.toList)

/-- Where the stores of new tenants go. -/
inductive LocatorPlan where
  | template (slots : Template)
  /-- A text that need not name the tenant. -/
  | fixed (text : String)

/-- The locator of a new tenant. -/
def LocatorPlan.generate : LocatorPlan → Tenant → String
  | .template slots, t => slots.locator t
  | .fixed text, t => fillId text t

/-- What runs on a new store. -/
structure MigrationPlan where
  /-- The versions that are recorded. -/
  versions : List String := []
  /-- The ids of the tenants that are refused once the versions are recorded;
      `*` refuses all. -/
  failFor : List String := []
  /-- What a refused tenant fails with. -/
  fault : Fault
  deriving DecidableEq, Repr

namespace MigrationPlan

/-- Record versions on a store, up to the first that cannot be recorded. -/
def recordAll (s : Stores) (handle : Nat) : List String → Except Fault Unit × Stores
  | [] => (.ok (), s)
  | version :: rest =>
    match s.recordMigration handle version with
    | .ok (_, s) => recordAll s handle rest
    | .error f => (.error (.store f), s)

/-- What the plan does. -/
def run (p : MigrationPlan) : Migration := fun s handle t =>
  match recordAll s handle (p.versions.map fun v => fillId v t) with
  | (.ok (), s) => (if listed p.failFor t.id then .error p.fault else .ok (), s)
  | (.error f, s) => (.error f, s)

end MigrationPlan

end Multitenancy
