import Multitenancy.Cache
import Multitenancy.Resolution.Chain
import Multitenancy.Tenant.Context
/-!
# Resolving Tenants

From a request to the active tenant it belongs to: the chain of strategies
finds a routing key, the cache of resolved keys is consulted, and only if it
has no live answer is the registry asked, whose outcome is cached.

That a key leads to no tenant is an outcome too and cached like any other, so
a flood of requests for an unknown key costs one look-up a lifetime. So is a
registry that fails: the key counts as unknown until the entry expires.

Resolution of a key has three parts that other work may come between: `probe`
looks into the cache, the registry is asked, and `fill` caches the outcome.
`resolveKey` runs them one after the other.

## Main definitions

* `Resolved`: The outcome of a look-up.
* `Resolver`: A chain and a cache.
* `Resolver.resolveKey`: The tenant a key leads to.
* `Resolver.resolve`: The tenant a request belongs to.
* `Resolver.invalidate`, `Resolver.invalidateTenant`: Forget outcomes.
-/

namespace Multitenancy

/-- The outcome of a look-up. -/
inductive Resolved where
  | found (t : Tenant)
  | missing
  deriving DecidableEq, Repr

namespace Resolved

/-- The tenant that was found. -/
def tenant? : Resolved → Option Tenant
  | .found t => some t
  | .missing => none

/-- The outcome of a registry's answer: a tenant only if it is active. -/
def ofLookup : Except Fault Tenant → Resolved
  | .ok t => if t.isActive then .found t else .missing
  | .error _ => .missing

end Resolved

/-- A chain of strategies with a cache of resolved keys. -/
structure Resolver where
  chain : Chain
  cache : Cache Resolved

namespace Resolver

/-- A resolver that has resolved nothing. -/
def new (chain : Chain) (capacity : Nat) (lifetime : Duration) : Resolver :=
  { chain, cache := .empty capacity lifetime }

/-- Look into the cache. -/
def probe (r : Resolver) (now : Nat) (key : String) : Option Resolved × Resolver :=
  let (hit, cache) := r.cache.get now key
  (hit, { r with cache })

/-- Cache the outcome of a look-up. -/
def fill (r : Resolver) (now : Nat) (key : String) (outcome : Resolved) : Resolver :=
  { r with cache := r.cache.set now key outcome }

/-- The tenant a key leads to, with a registry of any kind. -/
def resolveKey {σ : Type} (lookup : σ → String → Except Fault Tenant × σ) (r : Resolver)
    (registry : σ) (now : Nat) (key : String) : Option Tenant × Resolver × σ :=
  match r.probe now key with
  | (some outcome, r) => (outcome.tenant?, r, registry)
  | (none, r) =>
    let (answer, registry) := lookup registry key
    let outcome := Resolved.ofLookup answer
    (outcome.tenant?, r.fill now key outcome, registry)

/-- The tenant a request belongs to. Without a key the registry is not
    asked. -/
def resolve {σ : Type} (lookup : σ → String → Except Fault Tenant × σ) (r : Resolver)
    (registry : σ) (now : Nat) (request : AppRequest) : Option Tenant × Resolver × σ :=
  match r.chain.key? request with
  | some (_, key) => r.resolveKey lookup registry now key
  | none => (none, r, registry)

/-- Whether a cached key is the given one but for case and blanks. -/
def sameKey (key cached : String) : Bool :=
  Text.sameLetters (Text.trim cached.toList) (Text.trim key.toList)

/-- Forget the outcome of a key under every casing. -/
def invalidate (r : Resolver) (key : String) : Resolver :=
  { r with cache := (r.cache.deleteMatching (sameKey key)).2 }

/-- Forget the outcomes of all keys of a tenant. -/
def invalidateTenant (r : Resolver) (t : Tenant) : Resolver :=
  t.routingKeys.foldl invalidate r

/-- Forget every outcome. -/
def clear (r : Resolver) : Resolver :=
  { r with cache := r.cache.clear }

end Resolver

end Multitenancy
