import Multitenancy.Deployment.Frontend
/-!
# Deployments

A service as it runs: settings, a backend, and a router if the plan has one.

Setting one up may fail. The registry is connected first, then the chain of
strategies is made, then provisioning. A router that is refused does not keep
the rest from running.

## Main definitions

* `DeploymentPlan`: What is to be set up.
* `Deployment`: What runs.
* `Deployment.start`: Set up.
* `Deployment.closeRegistry`, `Deployment.reconnect`, `Deployment.overwrite`:
  Registries in a database.
* `Deployment.openStore`: Stores under a name.
-/

namespace Multitenancy

/-- What router is to be set up. -/
structure RouterPlan where
  settings : RouterSettings App
  factory : Option Factory := none

/-- What is to be set up. -/
structure DeploymentPlan where
  config : Config
  /-- Whether the registry is kept in a database. -/
  inDatabase : Bool := false
  /-- The strategies, unless they cannot be made. -/
  chain : Except Fault Chain
  /-- The locator of all new tenants, in place of the template. -/
  fixedLocator : Option String := none
  migration : Option MigrationPlan := none
  /-- Whether provisioning tells the resolver about changes. -/
  attached : Bool := true
  router : Option RouterPlan := none
  /-- The reading of the wall clock. -/
  wall : Timestamp

/-- What runs. -/
structure Deployment where
  config : Config
  backend : Backend
  /-- The handle of a registry in a database. -/
  registry : Option Nat := none
  /-- Open stores by the names they were given. -/
  named : Assoc String Nat := []
  frontend : Option Frontend := none

namespace DeploymentPlan

/-- Connect to the registry. -/
def connect (p : DeploymentPlan) : Except Fault (Option Nat × Store × Stores) :=
  if p.inDatabase then
    match ({} : Stores).connectRegistry p.config.registryPool p.config.registryUrl with
    | (.ok (handle, table), stores) => .ok (some handle, .table table, stores)
    | (.error f, _) => .error f
  else .ok (none, .indexed .empty, {})

/-- Where the stores of new tenants go. -/
def locators (p : DeploymentPlan) : Except Fault LocatorPlan :=
  match p.fixedLocator with
  | some text => .ok (.fixed text)
  | none => (Template.ofText p.config.locatorTemplate).map .template

/-- How tenants are provisioned. -/
def service (p : DeploymentPlan) : Except Fault Service := do
  let locators ← p.locators
  return { generate := locators.generate
           pool := p.config.tenantPool
           migration := p.migration.map MigrationPlan.run
           attached := p.attached }

/-- The router with its factory. -/
def routing (p : RouterPlan) : Except Fault Frontend := do
  let router ← Router.new { p.settings with builds := p.factory.isSome }
  return { board := { router }, factory := p.factory }

end DeploymentPlan

namespace Deployment

/-- Set up a backend. -/
def ofPlan (p : DeploymentPlan) : Except Fault Deployment := do
  let (registry, store, stores) ← p.connect
  let chain ← p.chain
  let service ← p.service
  let resolver := Resolver.new chain p.config.cache.capacity p.config.cache.lifetime
  let env : Env := { registry := { store }, resolver, wall := p.wall }
  return { config := p.config
           backend := { service
                        office := { env, stores }
                        pools := { settings := p.config.tenantPool } }
           registry }

/-- Set up, and say why there is no router if the one in the plan was
    refused. -/
def start (p : DeploymentPlan) : Except Fault (Deployment × Option Fault) := do
  let d ← ofPlan p
  match p.router.map DeploymentPlan.routing with
  | none => return (d, none)
  | some (.ok f) => return ({ d with frontend := some f }, none)
  | some (.error fault) => return (d, some fault)

/-- What requests and administration share. -/
def env (d : Deployment) : Env :=
  d.backend.office.env

/-- Change what requests and administration share. -/
def withEnv (d : Deployment) (env : Env) : Deployment :=
  { d with backend := d.backend.withEnv env }

/-- Files and handles. -/
def stores (d : Deployment) : Stores :=
  d.backend.office.stores

/-- Change files and handles. -/
def withStores (d : Deployment) (stores : Stores) : Deployment :=
  { d with backend := d.backend.withStores stores }

/-- Change the resolver. -/
def withResolver (d : Deployment) (resolver : Resolver) : Deployment :=
  d.withEnv { d.env with resolver }

/-- The names of the strategies. -/
def strategies (d : Deployment) : List String :=
  d.env.resolver.chain.names

/-! ### The registry -/

/-- The registry itself, past its switch and its counter. -/
def store (d : Deployment) : Store :=
  d.env.registry.store

/-- Change the registry itself. -/
def withStore (d : Deployment) (store : Store) : Deployment :=
  d.withEnv { d.env with registry := { d.env.registry with store } }

/-- Take over the result of a write on the registry itself. -/
def wrote (d : Deployment) : Except Fault Store → Except Fault Unit × Deployment
  | .ok store => (.ok (), d.withStore store)
  | .error f => (.error f, d)

/-- Switch the reads of resolver and provisioning off or on. -/
def switchReads (d : Deployment) (offline : Bool) : Deployment :=
  d.withEnv { d.env with registry := { d.env.registry with offline } }

/-- The number of tenants that a registry in memory has, and whether it has
    none. A registry in a database does not say. -/
def registrySize (d : Deployment) : Nat × Bool :=
  match d.store with
  | .indexed r => (r.order.length, r.order.isEmpty)
  | .table _ => (0, true)

/-- Close a registry in a database. -/
def closeRegistry (d : Deployment) : Deployment :=
  match d.registry, d.store with
  | some handle, .table table =>
    (d.withStores (d.stores.disconnectRegistry handle table)).withStore
      (.table { table with access := .closed })
  | _, _ => d

/-- Close a registry in a database and connect to it again. `none` for a
    registry in memory. -/
def reconnect (d : Deployment) : Option (Except Fault Unit × Deployment) :=
  match d.registry with
  | none => none
  | some _ =>
    let d := d.closeRegistry
    match d.stores.connectRegistry d.config.registryPool d.config.registryUrl with
    | (.ok (handle, table), stores) =>
      some (.ok (), { (d.withStores stores).withStore (.table table) with registry := some handle })
    | (.error f, stores) => some (.error f, d.withStores stores)

/-- Make the table of tenants if it is missing. `none` for a registry in
    memory. -/
def migrateRegistry (d : Deployment) : Option (Except Fault Unit × Deployment) :=
  d.registry.map fun handle =>
    match d.stores.ensureTenants handle with
    | .ok stores => (.ok (), d.withStores stores)
    | .error f => (.error (.store f), d)

/-- Replace a column of a row from outside, and say how many rows there were.
    `none` for a registry in memory and for a column that stays as it is. -/
def overwrite (d : Deployment) (id column text : String) :
    Option (Except Fault Nat × Deployment) :=
  match d.store with
  | .indexed _ => none
  | .table table =>
    match table.overwrite id column text with
    | .ok none => none
    | .ok (some (rows, table)) => some (.ok rows, d.withStore (.table table))
    | .error f => some (.error f, d)

/-! ### Stores -/

/-- The locator of a handle. -/
def locatorOf (d : Deployment) (handle : Nat) : String :=
  ((d.stores.handles[handle]?).map Handle.locator).getD ""

/-- Keep a handle under a name, and answer with its locator. -/
def keep (d : Deployment) (name : String) :
    Except Fault Nat × Stores → Except Fault String × Deployment
  | (.ok handle, stores) =>
    let d := d.withStores stores
    (.ok (d.locatorOf handle), { d with named := d.named.insert name handle })
  | (.error f, stores) => (.error f, d.withStores stores)

/-- Open a store under a name. -/
def openStore (d : Deployment) (name : String) (pool : PoolSettings) (locator : String)
    (create : Bool) : Except Fault String × Deployment :=
  d.keep name (d.stores.openStore pool locator create)

/-- Open a store that may be new under a name, and prepare it. -/
def provision (d : Deployment) (name locator : String) : Except Fault String × Deployment :=
  d.keep name (d.stores.provision d.config.tenantPool locator)

/-- The open store of a tenant, kept under a name if there is one. -/
def getPool (d : Deployment) (name : Option String) (t : Tenant) :
    Except Fault String × Deployment :=
  match d.backend.getPool t with
  | (.error f, backend) => (.error f, { d with backend })
  | (.ok handle, backend) =>
    let d := { d with backend }
    (.ok (d.locatorOf handle),
      match name with
      | some name => { d with named := d.named.insert name handle }
      | none => d)

/-! ### Time -/

/-- The clock goes forward at once. -/
def advance (d : Deployment) (elapsed : Duration) : Deployment :=
  match d.frontend with
  | some f =>
    let (backend, f) := f.advance d.backend elapsed
    { d with backend, frontend := some f }
  | none => { d with backend := d.backend.passUntil (d.backend.clock + elapsed) }

/-- Everybody goes on for a while. -/
def sleep (d : Deployment) (elapsed : Duration) : Deployment :=
  match d.frontend with
  | some f =>
    let (backend, f) := f.sleep d.backend elapsed
    { d with backend, frontend := some f }
  | none => { d with backend := d.backend.passUntil (d.backend.clock + elapsed) }

end Deployment

end Multitenancy
