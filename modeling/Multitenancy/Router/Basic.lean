import Multitenancy.App.Basic
import Multitenancy.Locks
import Multitenancy.Session
import Multitenancy.Settings.Config
/-!
# The Router

The router hands each request to the handler of the tenant it belongs to.

A handler is either registered or built. Registered handlers stay until they
are taken out again; no two of them share a session cookie. Built handlers are
made by a factory the first time they are needed and live in a cache. A
registered handler of a tenant comes before a built one.

Building is serialised per tenant: a build holds the lock of its tenant from
before it starts until its handler is in the cache.

## Main definitions

* `Router`: Handlers, locks and counters.
* `Router.lookup`: The handler of a tenant, if there is one.
* `Router.new`: A router, unless handlers share a session cookie.
* `Router.register`, `Router.unregister`, `Router.invalidate`: Changes while
  the router runs.
-/

namespace Multitenancy

/-- Who may hold the lock of a tenant: a dispatch that wants a handler, or the
    build it started. -/
inductive Party where
  | dispatch (n : Nat)
  | build (n : Nat)
  deriving DecidableEq, Repr

/-- A handler that a factory made, with the number of the build. -/
structure Built (η : Type) where
  build : Nat
  handler : η
  deriving Repr

/-- The handler of a tenant, and where it came from. -/
inductive Found (η : Type) where
  | registered (handler : η)
  | built (b : Built η)
  deriving Repr

namespace Found

/-- The handler. -/
def handler {η : Type} : Found η → η
  | .registered h => h
  | .built b => b.handler

end Found

/-- What became of requests. -/
structure RouterStats where
  /-- Requests handed to a tenant's handler. -/
  dispatched : Nat := 0
  /-- Requests without a tenant that were answered as not found. -/
  notFound : Nat := 0
  /-- Requests without a tenant that were handed to the fallback. -/
  fallback : Nat := 0
  /-- Requests of tenants for which no handler could be had. -/
  unavailable : Nat := 0
  /-- Builds that gave a handler. -/
  builds : Nat := 0
  deriving DecidableEq, Repr

/-- The router. -/
structure Router (η : Type) where
  /-- The registered handlers by tenant. -/
  handlers : Assoc String η := []
  /-- The built handlers by tenant. -/
  built : Cache (Built η)
  /-- Who builds, or waits to look again, for which tenant. -/
  locks : Locks Party := {}
  stats : RouterStats := {}
  /-- The session cookie of handlers that name none. -/
  sessionCookie : String
  /-- Whether handlers can be built. -/
  builds : Bool
  /-- The handler of requests without a tenant. -/
  fallback : Option η := none
  /-- What is told about a tenant before its handler runs. -/
  hooks : List TenantHook := []

/-- How a router is set up. -/
structure RouterSettings (η : Type) where
  /-- Registered handlers; of two for one tenant the last counts. -/
  handlers : List (String × η) := []
  cache : CacheSettings := {}
  sessionCookie : String := Session.defaultCookie
  builds : Bool := false
  fallback : Option η := none
  hooks : List TenantHook := []

namespace Router

variable {η : Type} [TenantHandler η]

/-- The session cookies of handlers, by tenant. -/
def cookies (handlers : Assoc String η) : List (String × Option String) :=
  handlers.map fun p => (p.1, TenantHandler.sessionCookie? p.2)

/-- A router, unless two of its handlers share a session cookie. -/
def new (s : RouterSettings η) : Except Fault (Router η) := do
  let handlers := Assoc.ofPairs s.handlers
  Session.check s.sessionCookie (cookies handlers)
  return { handlers
           built := .empty s.cache.capacity s.cache.lifetime
           sessionCookie := s.sessionCookie
           builds := s.builds
           fallback := s.fallback
           hooks := s.hooks }

/-- Register a handler in place of any other of the tenant, unless it would
    share its session cookie with that of another tenant. -/
def register (r : Router η) (id : String) (handler : η) : Except Fault (Router η) := do
  Session.check r.sessionCookie
    (cookies (r.handlers.erase id) ++ [(id, TenantHandler.sessionCookie? handler)])
  return { r with
    built := (r.built.delete id).2
    handlers := r.handlers.insert id handler }

/-- Take out a registered handler, and say whether there was one. -/
def unregister (r : Router η) (id : String) : Bool × Router η :=
  (r.handlers.contains id, { r with handlers := r.handlers.erase id })

/-- Forget a built handler, and say whether there was one. -/
def invalidate (r : Router η) (id : String) : Bool × Router η :=
  let (found, built) := r.built.delete id
  (found, { r with built })

/-- The tenants with a registered handler, in ascending order. -/
def registered (r : Router η) : List String :=
  Text.sorted r.handlers.keys

/-- The handler of a tenant: the registered one, or else the built one. -/
def lookup (r : Router η) (now : Nat) (id : String) : Option (Found η) × Router η :=
  match r.handlers.get? id with
  | some h => (some (.registered h), r)
  | none =>
    let (hit, built) := r.built.get now id
    (hit.map .built, { r with built })

/-- Count something. -/
def count (r : Router η) (f : RouterStats → RouterStats) : Router η :=
  { r with stats := f r.stats }

end Router

end Multitenancy
