import Multitenancy.Settings.Config
import Multitenancy.Tenant.Codec
/-!
# Settings as Structured Values

The reading of settings from the tree of a document, and their written form.

Every field may be missing and then has the default of its place. Unknown
fields are passed over. A part may also be given as a list of its fields in
order; whether such a list may be longer than the fields depends on the kind
of document.

A table for a pool has the defaults of `PoolSettings`, also where the default
of the whole part is another one.

## Main definitions

* `Config.ofTree?`: The settings of a tree.
* `Config.toTree`: The written form.
-/

namespace Multitenancy

/-- What the kinds of documents treat differently. -/
structure TreeRules where
  /-- Whether a list may be longer than the fields it stands for. -/
  longLists : Bool

/-- The values of known fields, under the rules of a kind of document. -/
def TreeRules.fields? (rules : TreeRules) (names : List String) : Json →
    Option (List (Option Json))
  | .list items =>
    Multitenancy.fields? names (.list (if rules.longLists then items.take names.length else items))
  | v => Multitenancy.fields? names v

/-- A number below two to the power `bits`. -/
def wordOf? (bits : Nat) : Json → Option Nat
  | .int n => if 0 ≤ n && n < Nat.pow 2 bits then some n.toNat else none
  | _ => none

/-- A length of time in its written form. -/
def durationOf? : Json → Option Duration
  | .text s => Duration.parse? s
  | _ => none

namespace CacheSettings

/-- The bounds of a table. -/
def ofTree? (rules : TreeRules) (v : Json) : Option CacheSettings := do
  let default : CacheSettings := {}
  let values ← rules.fields? ["capacity", "ttl"] v
  let capacity ← withDefault values 0 default.capacity (wordOf? 64)
  let lifetime ← withDefault values 1 default.lifetime durationOf?
  return { capacity, lifetime }

/-- The bounds as a table. -/
def toTree (s : CacheSettings) : Json :=
  .object [("capacity", .nat s.capacity), ("ttl", .text s.lifetime.render)]

end CacheSettings

namespace PoolSettings

/-- The policy of a table. -/
def ofTree? (rules : TreeRules) (v : Json) : Option PoolSettings := do
  let default : PoolSettings := {}
  let values ← rules.fields?
    ["max_connections", "min_connections", "max_lifetime", "idle_timeout", "acquire_timeout"] v
  let maxConnections ← withDefault values 0 default.maxConnections (wordOf? 32)
  let minConnections ← withDefault values 1 default.minConnections (wordOf? 32)
  let maxLifetime ← withDefault values 2 default.maxLifetime durationOf?
  let idleTimeout ← withDefault values 3 default.idleTimeout durationOf?
  let acquireTimeout ← withDefault values 4 default.acquireTimeout durationOf?
  return { maxConnections, minConnections, maxLifetime, idleTimeout, acquireTimeout }

/-- The policy as a table. -/
def toTree (s : PoolSettings) : Json :=
  .object [
    ("max_connections", .nat s.maxConnections),
    ("min_connections", .nat s.minConnections),
    ("max_lifetime", .text s.maxLifetime.render),
    ("idle_timeout", .text s.idleTimeout.render),
    ("acquire_timeout", .text s.acquireTimeout.render)]

end PoolSettings

/-- A strategy as a word, or as a table with the word for its one field. -/
def StrategyKind.ofTree? : Json → Option StrategyKind
  | .text s => ofName? s
  | .object [(name, .null)] | .object [(name, .object [])] | .object [(name, .list [])] =>
    ofName? name
  | _ => none

namespace ResolutionSettings

/-- The resolution of a table. -/
def ofTree? (rules : TreeRules) (v : Json) : Option ResolutionSettings := do
  let default : ResolutionSettings := {}
  let values ← rules.fields? ["base_domain", "header_name", "query_param", "cookie_name", "order"] v
  let baseDomain ← withDefault values 0 default.baseDomain Json.text?
  let headerName ← withDefault values 1 default.headerName Json.text?
  let queryParam ← withDefault values 2 default.queryParam Json.text?
  let cookieName ← withDefault values 3 default.cookieName Json.text?
  let order ← withDefault values 4 default.order fun v => do
    (← v.list?).mapM StrategyKind.ofTree?
  return { baseDomain, headerName, queryParam, cookieName, order }

/-- The resolution as a table. -/
def toTree (s : ResolutionSettings) : Json :=
  .object [
    ("base_domain", .text s.baseDomain),
    ("header_name", .text s.headerName),
    ("query_param", .text s.queryParam),
    ("cookie_name", .text s.cookieName),
    ("order", .texts (s.order.map StrategyKind.name))]

end ResolutionSettings

namespace Config

/-- The settings of a tree. -/
def ofTree? (rules : TreeRules) (v : Json) : Option Config := do
  let default : Config := {}
  let values ← rules.fields?
    ["registry_url", "locator_template", "session_cookie_default", "cache", "handler_cache",
      "registry_pool", "tenant_pool", "resolution"] v
  let registryUrl ← withDefault values 0 default.registryUrl Json.text?
  let locatorTemplate ← withDefault values 1 default.locatorTemplate Json.text?
  let sessionCookie ← withDefault values 2 default.sessionCookie Json.text?
  let cache ← withDefault values 3 default.cache (CacheSettings.ofTree? rules)
  let handlerCache ← withDefault values 4 default.handlerCache (CacheSettings.ofTree? rules)
  let registryPool ← withDefault values 5 default.registryPool (PoolSettings.ofTree? rules)
  let tenantPool ← withDefault values 6 default.tenantPool (PoolSettings.ofTree? rules)
  let resolution ← withDefault values 7 default.resolution (ResolutionSettings.ofTree? rules)
  return { registryUrl, locatorTemplate, sessionCookie, cache, handlerCache, registryPool,
           tenantPool, resolution }

/-- The settings as a table. -/
def toTree (c : Config) : Json :=
  .object [
    ("registry_url", .text c.registryUrl),
    ("locator_template", .text c.locatorTemplate),
    ("session_cookie_default", .text c.sessionCookie),
    ("cache", c.cache.toTree),
    ("handler_cache", c.handlerCache.toTree),
    ("registry_pool", c.registryPool.toTree),
    ("tenant_pool", c.tenantPool.toTree),
    ("resolution", c.resolution.toTree)]

end Config

end Multitenancy
