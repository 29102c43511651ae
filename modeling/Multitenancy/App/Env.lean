import Multitenancy.Registry.Basic
import Multitenancy.Resolution.Resolver
/-!
# What Requests and Administration Share

The registry of tenants, the resolver in front of it, the clocks and the log.
Handling a request and administering tenants are both computations over these.

Two clocks are kept apart. The steady clock only goes forward and decides when
cache entries expire; the wall clock stamps records.

## Main definitions

* `Env`: The shared state.
* `AppM`: A computation over it.
* `Env.resolve`: The tenant of a request, by the resolver.
-/

namespace Multitenancy

/-- The state that requests and administration share. -/
structure Env where
  registry : Registry
  resolver : Resolver
  /-- The steady clock, in nanoseconds. -/
  clock : Nat := 0
  /-- The wall clock. -/
  wall : Timestamp
  /-- What middleware and hooks have noted, in order. -/
  log : List String := []

/-- A computation over the shared state. -/
abbrev AppM := StateM Env

namespace Env

/-- The tenant a key leads to. -/
def resolveKey (e : Env) (key : String) : Option Tenant × Env :=
  let (tenant, resolver, registry) := e.resolver.resolveKey Registry.find e.registry e.clock key
  (tenant, { e with resolver, registry })

/-- The tenant a request belongs to. -/
def resolve (e : Env) (request : AppRequest) : Option Tenant × Env :=
  let (tenant, resolver, registry) := e.resolver.resolve Registry.find e.registry e.clock request
  (tenant, { e with resolver, registry })

/-- Add a line to the log. -/
def note (e : Env) (line : String) : Env :=
  { e with log := e.log ++ [line] }

end Env

end Multitenancy
