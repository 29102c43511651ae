import Multitenancy.Resolution.Chain
import Multitenancy.Resolution.Locator
import Multitenancy.Time.Duration
/-!
# Settings

What an operator can set: where the registry and the tenants' stores live, how
requests are classified, how long things are cached and how many connections
are opened.

Every setting has a default, given once, in the fields below. Two settings
share the type `PoolSettings` but not its default: the registry may open more
connections than a tenant's store.

## Main definitions

* `CacheSettings`, `PoolSettings`, `ResolutionSettings`: Parts of the settings.
* `Config`: All settings.
* `Config.check`: Whether a service can run under the settings.
* `ResolutionSettings.chain`: The strategies that the settings name.
-/

namespace Multitenancy

/-- Bounds of a cache. -/
structure CacheSettings where
  /-- How many entries are kept. -/
  capacity : Nat := 128
  /-- How long an entry lives; zero disables the cache. -/
  lifetime : Duration := .ofSeconds 300
  deriving DecidableEq, Repr

namespace CacheSettings

/-- Bounds under which nothing is kept. -/
def disabled : CacheSettings := { lifetime := 0 }

/-- Whether anything is kept. -/
def isEnabled (s : CacheSettings) : Bool :=
  s.lifetime != 0

end CacheSettings

/-- How connections to a store are kept. -/
structure PoolSettings where
  /-- How many connections may be open. -/
  maxConnections : Nat := 10
  /-- How many idle connections are kept open. -/
  minConnections : Nat := 0
  /-- How long a connection is used. -/
  maxLifetime : Duration := .ofSeconds 300
  /-- How long a connection may be idle. -/
  idleTimeout : Duration := .ofSeconds 120
  /-- How long to wait for a connection. -/
  acquireTimeout : Duration := .ofSeconds 30
  deriving DecidableEq, Repr

namespace PoolSettings

/-- The default for a tenant's store. -/
def tenant : PoolSettings := {}

/-- The default for the registry. -/
def registry : PoolSettings := { maxConnections := 25 }

/-- Whether connections can be opened. -/
def check (s : PoolSettings) : Except Fault Unit :=
  if s.maxConnections == 0 then .error .emptyPool
  else if s.maxConnections < s.minConnections then
    .error (.overfullPool s.minConnections s.maxConnections)
  else .ok ()

end PoolSettings

/-- How requests are classified. -/
structure ResolutionSettings where
  /-- The domain under which tenants get subdomains. -/
  baseDomain : String := ""
  headerName : String := "X-Tenant-ID"
  queryParam : String := "tenant"
  cookieName : String := "tenant_id"
  /-- The strategies in order of precedence. -/
  order : List StrategyKind := [.header, .domain]
  deriving DecidableEq, Repr

namespace ResolutionSettings

/-- The strategy of a kind under the settings. -/
def strategy (s : ResolutionSettings) : StrategyKind → Strategy
  | .header => .header s.headerName
  | .domain => .ofBase s.baseDomain
  | .query => .query s.queryParam
  | .cookie => .cookie s.cookieName
  | .path => .path

/-- The strategies that the settings name, in their order. -/
def chain (s : ResolutionSettings) : Chain :=
  s.order.map s.strategy

end ResolutionSettings

/-- All settings. -/
structure Config where
  /-- Where the registry of tenants lives. -/
  registryUrl : String := "sqlite://data/registry.db?mode=rwc"
  /-- The template of the locators of tenants' stores. -/
  locatorTemplate : String := "sqlite://data/tenants/\x7bid\x7d.db?mode=rwc"
  /-- The session cookie of handlers that name none. -/
  sessionCookie : String := "session_id"
  /-- The cache of resolved tenants. -/
  cache : CacheSettings := {}
  /-- The cache of handlers that a factory built. -/
  handlerCache : CacheSettings := {}
  registryPool : PoolSettings := .registry
  tenantPool : PoolSettings := .tenant
  resolution : ResolutionSettings := {}
  deriving DecidableEq, Repr

namespace Config

/-- Whether a service can run under the settings. The first fault in the order
    of the fields checked is reported. -/
def check (c : Config) : Except Fault Unit := do
  if c.cache.capacity == 0 then .error .emptyTenantCache
  if c.handlerCache.capacity == 0 then .error .emptyHandlerCache
  if !Template.accepts c.locatorTemplate then .error (.templateWithoutId c.locatorTemplate)
  if Text.blankText c.sessionCookie then .error .blankSessionCookie
  c.registryPool.check
  c.tenantPool.check

/-- Settings that pass the check. -/
def checked (c : Config) : Except Fault Config := do
  c.check
  return c

end Config

end Multitenancy
