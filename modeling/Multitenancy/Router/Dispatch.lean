import Multitenancy.Router.Basic
/-!
# Dispatching, Step by Step

The way of a request through the router, as a sequence of steps with a stage
between any two of them.

The tenant is resolved and attached to the request. Its handler is looked up;
if there is none, the dispatch waits for the lock of the tenant and looks
again, since whoever had the lock before may have built one. Only then a build
is started. The lock is handed to the build, not kept by the dispatch, so that
a dispatch that is dropped takes nothing from the others: the build goes on
and its handler is cached.

With a handler at hand the hooks are told, and then the handler is run.

## Main definitions

* `Build`: A build, under way or ended.
* `Switchboard`: The router with all dispatches and builds.
* `Dispatch`: How far a dispatch has come.
* `Dispatch.step`: The next step.
* `Switchboard.next`, `Switchboard.run`: Dispatches, builds and changes to the
  router in any order.
-/

namespace Multitenancy

/-- A build, with its outcome once it has ended. -/
structure Build (η : Type) where
  tenant : Tenant
  outcome : Option (Except Fault η) := none

/-- How far a dispatch has come. -/
inductive Dispatch (η : Type) where
  | arrived (request : AppRequest)
  /-- The tenant is resolved and attached. -/
  | resolved (t : Tenant) (request : AppRequest)
  /-- There was no handler; waits for the tenant's lock. -/
  | waiting (t : Tenant) (request : AppRequest)
  /-- Waits for the build it started. -/
  | building (t : Tenant) (request : AppRequest) (build : Nat)
  /-- Has a handler; some hooks are still to be told. -/
  | equipped (t : Tenant) (request : AppRequest) (found : Found η) (hooks : List TenantHook)
  | done (outcome : Outcome)
  /-- Dropped before it was done. -/
  | dropped

/-- The router with all dispatches and builds, by their number. -/
structure Switchboard (η : Type) where
  router : Router η
  dispatches : List (Dispatch η) := []
  builds : List (Build η) := []

namespace Switchboard

variable {η : Type} [TenantHandler η]

/-- The refusal of a request without a tenant. -/
def noTenant : Http.Error := { kind := .notFound, text := "Tenant not found" }

/-- The refusal of a request whose tenant has no handler. -/
def noHandler (t : Tenant) : Http.Error :=
  { kind := .serviceUnavailable, text := "no handler available for tenant '" ++ t.id ++ "'" }

/-- Change the router. -/
def withRouter (s : Switchboard η) (router : Router η) : Switchboard η :=
  { s with router }

/-- End a dispatch whose tenant has no handler. -/
def giveUp (s : Switchboard η) (t : Tenant) : Switchboard η × Dispatch η :=
  (s.withRouter (s.router.count fun c => { c with unavailable := c.unavailable + 1 }),
    .done (.error (noHandler t)))

/-- A dispatch that has a handler. -/
def equip (s : Switchboard η) (t : Tenant) (request : AppRequest) (found : Found η) :
    Dispatch η :=
  .equipped t request found s.router.hooks

/-- Resolve the tenant of a request. A request without one goes to the fallback
    as it came. -/
def resolve (env : Env) (s : Switchboard η) (request : AppRequest) :
    Env × Switchboard η × Dispatch η :=
  match env.resolve request with
  | (some t, env) => (env, s, .resolved t (AppRequest.setTenant request t))
  | (none, env) =>
    match s.router.fallback with
    | some h =>
      let (outcome, env) := (TenantHandler.handle h request).run env
      (env, s.withRouter (s.router.count fun c => { c with fallback := c.fallback + 1 }),
        .done outcome)
    | none =>
      (env, s.withRouter (s.router.count fun c => { c with notFound := c.notFound + 1 }),
        .done (.error noTenant))

/-- Look for a handler; without one take up a claim on the tenant's lock. -/
def seek (env : Env) (s : Switchboard η) (n : Nat) (t : Tenant) (request : AppRequest) :
    Switchboard η × Dispatch η :=
  match s.router.lookup env.clock t.id with
  | (some found, router) => (s.withRouter router, s.equip t request found)
  | (none, router) =>
    if router.builds then
      (s.withRouter { router with locks := router.locks.request (.dispatch n) t.id },
        .waiting t request)
    else (s.withRouter router).giveUp t

/-- Look again, now with the tenant's lock. Either a handler is there and the
    lock is given up, or a build is started and gets it. -/
def enter (env : Env) (s : Switchboard η) (n : Nat) (t : Tenant) (request : AppRequest)
    (locks : Locks Party) : Switchboard η × Dispatch η :=
  match ({ s.router with locks } : Router η).lookup env.clock t.id with
  | (some found, router) =>
    (s.withRouter { router with locks := router.locks.drop (.dispatch n) },
      s.equip t request found)
  | (none, router) =>
    let build := s.builds.length
    ({ s with
        router := { router with locks := router.locks.handOver (.dispatch n) (.build build) }
        builds := s.builds ++ [{ tenant := t }] },
      .building t request build)

/-- How a build ended, if it has. -/
def outcome? (s : Switchboard η) (build : Nat) : Option (Except Fault η) :=
  s.builds[build]?.bind Build.outcome

/-- Take the handler of a build that has ended. -/
def collect (s : Switchboard η) (t : Tenant) (request : AppRequest) (build : Nat) :
    Switchboard η × Dispatch η :=
  match s.outcome? build with
  | none => (s, .building t request build)
  | some (.ok handler) => (s, s.equip t request (.built { build, handler }))
  | some (.error _) => s.giveUp t

/-- Hand a request to its tenant's handler. -/
def handle (env : Env) (s : Switchboard η) (request : AppRequest) (found : Found η) :
    Env × Switchboard η × Dispatch η :=
  let (outcome, env) := (TenantHandler.handle found.handler request).run env
  (env, s.withRouter (s.router.count fun c => { c with dispatched := c.dispatched + 1 }),
    .done outcome)

/-- Tell a hook, which may refuse the request. -/
def tell (env : Env) (t : Tenant) (request : AppRequest) (found : Found η)
    (hook : TenantHook) (rest : List TenantHook) : Env × Dispatch η :=
  match (hook t request).run env with
  | (.ok (), env) => (env, .equipped t request found rest)
  | (.error e, env) => (env, .done (.error e))

/-- End a build. A handler goes into the cache before the lock is given up. -/
def finish (env : Env) (s : Switchboard η) (build : Nat) (outcome : Except Fault η) :
    Switchboard η :=
  match s.builds[build]? with
  | some { tenant := t, outcome := none } =>
    let router := match outcome with
      | .ok handler =>
        { s.router with built := s.router.built.set env.clock t.id { build, handler } }.count
          fun c => { c with builds := c.builds + 1 }
      | .error _ => s.router
    { s with
      router := { router with locks := router.locks.drop (.build build) }
      builds := s.builds.set build { tenant := t, outcome := some outcome } }
  | _ => s

end Switchboard

namespace Dispatch

variable {η : Type} [TenantHandler η]

/-- The next step of a dispatch. One that has to wait stays where it is. -/
def step (env : Env) (s : Switchboard η) (n : Nat) :
    Dispatch η → Env × Switchboard η × Dispatch η
  | .arrived request => s.resolve env request
  | .resolved t request => (env, s.seek env n t request)
  | .waiting t request =>
    match s.router.locks.grant? (.dispatch n) with
    | some locks => (env, s.enter env n t request locks)
    | none => (env, s, .waiting t request)
  | .building t request build => (env, s.collect t request build)
  | .equipped t request found (hook :: rest) =>
    let (env, stage) := Switchboard.tell env t request found hook rest
    (env, s, stage)
  | .equipped _ request found [] => s.handle env request found
  | .done outcome => (env, s, .done outcome)
  | .dropped => (env, s, .dropped)

/-- Drop a dispatch where it is. A claim on a lock is given up; a build that it
    started goes on. -/
def cancel (s : Switchboard η) (n : Nat) : Dispatch η → Switchboard η × Dispatch η
  | .done outcome => (s, .done outcome)
  | _ =>
    (s.withRouter { s.router with locks := s.router.locks.drop (.dispatch n) }, .dropped)

/-- The outcome, once there is one. -/
def outcome? : Dispatch η → Option Outcome
  | .done outcome => some outcome
  | _ => none

end Dispatch

/-- What may happen next. -/
inductive RouterEvent (η : Type) where
  | arrive (request : AppRequest)
  /-- A dispatch goes a step further. -/
  | step (n : Nat)
  /-- A dispatch is dropped. -/
  | cancel (n : Nat)
  /-- A build ends. -/
  | finish (build : Nat) (outcome : Except Fault η)
  | register (id : String) (handler : η)
  | unregister (id : String)
  | invalidate (id : String)
  /-- The steady clock goes forward. -/
  | pass (elapsed : Nat)

namespace Switchboard

variable {η : Type} [TenantHandler η]

/-- The state after an event. -/
def next (env : Env) (s : Switchboard η) : RouterEvent η → Env × Switchboard η
  | .arrive request => (env, { s with dispatches := s.dispatches ++ [.arrived request] })
  | .step n =>
    match s.dispatches[n]? with
    | none => (env, s)
    | some stage =>
      let (env, s, stage) := stage.step env s n
      (env, { s with dispatches := s.dispatches.set n stage })
  | .cancel n =>
    match s.dispatches[n]? with
    | none => (env, s)
    | some stage =>
      let (s, stage) := stage.cancel s n
      (env, { s with dispatches := s.dispatches.set n stage })
  | .finish build outcome => (env, s.finish env build outcome)
  | .register id handler =>
    match s.router.register id handler with
    | .ok router => (env, s.withRouter router)
    | .error _ => (env, s)
  | .unregister id => (env, s.withRouter (s.router.unregister id).2)
  | .invalidate id => (env, s.withRouter (s.router.invalidate id).2)
  | .pass elapsed => ({ env with clock := env.clock + elapsed }, s)

/-- The state after a history. -/
def run (env : Env) (s : Switchboard η) (history : List (RouterEvent η)) :
    Env × Switchboard η :=
  history.foldl (fun w e => w.2.next w.1 e) (env, s)

/-- The outcome of a dispatch, once there is one. -/
def answer? (s : Switchboard η) (n : Nat) : Option Outcome :=
  s.dispatches[n]?.bind Dispatch.outcome?

/-- Whether a dispatch can do nothing before somebody else has done something:
    it is over, or waits for a lock that is not its turn to have, or for a build
    that has not ended. -/
def isStuck (s : Switchboard η) (n : Nat) : Bool :=
  match s.dispatches[n]? with
  | none | some (.done _) | some .dropped => true
  | some (.waiting t _) => decide (s.router.locks.nextWaiting? t.id ≠ some (.dispatch n))
  | some (.building _ _ build) => (s.outcome? build).isNone
  | some (.arrived _) | some (.resolved _ _) | some (.equipped _ _ _ _) => false

end Switchboard

end Multitenancy
