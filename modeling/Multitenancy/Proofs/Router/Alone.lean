import Mathlib.Logic.Function.Iterate
import Multitenancy.Proofs.Router.Ownership
/-!
# Dispatches That Run Alone

What becomes of a request when nothing comes between its steps.

A call that nobody interrupts goes from stage to stage until it is over. The
only one it may have to wait for is the build that it has started itself; then
the factory runs, and the call goes on with what it made. How such a call can
end is laid out case by case: who resolves the tenant, where the handler comes
from, which hook refuses, and what the environment looks like afterwards. What
a case does not mention has not run. Hooks and handler of a tenant get the
request that came in with that tenant attached, the fallback gets it untouched.

The steps of the call are followed on the switchboard without it. It comes in
the last place, no step of it looks at the dispatches, and so a step of the
call is a step of its stage.

A call that finds no handler needs the lock of its tenant. It gets it unless a
build of the tenant is under way, which only somebody else can end. That is
the one thing that a call cannot do alone, and it is asked for.

## Main definitions

* `HandlerFactory`: Any factory.
* `Switchboard.dispatchAlone`: A call that nobody interrupts.
* `Ending`: Where a call is counted.
* `AppRequest.Carries`: A request with its tenant attached.
* `Supplied`, `Told`, `Served`: Where the handler comes from, what the hooks
  and the handler do, and how a call can end.
* `Switchboard.Answered`: What a call leaves on the switchboard.
* `Switchboard.Unhindered`: No build is in the way.

## Theorems

* `Switchboard.next_calling`: A step of the call that comes last.
* `Switchboard.goes_seek`: A call gets its handler, or there is none.
* `Switchboard.goes_tell`: The hooks are told in order.
* `Switchboard.served_alone`: A call that nobody interrupts is answered in one of
  the ways of `Served`.
* `Switchboard.waits_alone`: Or it waits, if a build is in its way.
-/

namespace Multitenancy

/-- Any factory: what it makes for a tenant, and what else it does. -/
abbrev HandlerFactory (η : Type) := Tenant → AppM (Except Fault η)

/-- Where a call is counted. A call that a hook has refused is not. -/
inductive Ending where
  | dispatched
  | notFound
  | fallback
  | unavailable
  | refused
  deriving DecidableEq, Repr

namespace Ending

/-- The counters after a call. -/
def count (c : RouterStats) : Ending → RouterStats
  | .dispatched => { c with dispatched := c.dispatched + 1 }
  | .notFound => { c with notFound := c.notFound + 1 }
  | .fallback => { c with fallback := c.fallback + 1 }
  | .unavailable => { c with unavailable := c.unavailable + 1 }
  | .refused => c

end Ending

variable {η : Type}

/-- Whether a build has given a handler. -/
def Build.gave (b : Build η) : Bool :=
  b.outcome.any Except.isOk

/-! ### How a call can end -/

/-- A request carries a tenant, and nothing else of it differs from the request
    that came in. -/
structure AppRequest.Carries (t : Tenant) (incoming request : AppRequest) : Prop where
  tenant : request.tenant? = some t
  rest : request = { incoming with extensions := request.extensions }

theorem AppRequest.carries_setTenant (request : AppRequest) (t : Tenant) :
    Carries t request (setTenant request t) where
  tenant := tenant?_setTenant request t
  rest := rfl

/-- Where a router has the handler of a tenant from, if it has one. The factory
    is asked when there is neither a registered handler nor a live built one;
    with the answer come the environment that the factory leaves and the builds
    that were made. -/
inductive Supplied (factory : HandlerFactory η) (r : Router η) (t : Tenant) (env : Env) :
    Option η → Env → List (Build η) → Prop where
  | registered {handler : η} (hregistered : r.handlers.get? t.id = some handler) :
      Supplied factory r t env (some handler) env []
  | cached {b : Built η} (hnone : r.handlers.get? t.id = none)
      (hlive : (r.built.get env.clock t.id).1 = some b) :
      Supplied factory r t env (some b.handler) env []
  | built {handler : η} {env' : Env} (hnone : r.handlers.get? t.id = none)
      (hdead : (r.built.get env.clock t.id).1 = none) (hable : r.builds = true)
      (hmake : (factory t).run env = (.ok handler, env')) :
      Supplied factory r t env (some handler) env'
        [{ tenant := t, outcome := some (.ok handler) }]
  | failed {f : Fault} {env' : Env} (hnone : r.handlers.get? t.id = none)
      (hdead : (r.built.get env.clock t.id).1 = none) (hable : r.builds = true)
      (hmake : (factory t).run env = (.error f, env')) :
      Supplied factory r t env none env' [{ tenant := t, outcome := some (.error f) }]
  | missing (hnone : r.handlers.get? t.id = none)
      (hdead : (r.built.get env.clock t.id).1 = none) (hunable : r.builds = false) :
      Supplied factory r t env none env []

section Told

variable [TenantHandler η]

/-- What the hooks and the handler of a tenant make of a request. -/
inductive Told (t : Tenant) (request : AppRequest) (handler : η) (env : Env) :
    List TenantHook → Ending → Outcome → Env → Prop where
  /-- A hook refuses the request. Those before it have run and have not. -/
  | refused {passed rest : List TenantHook} {hook : TenantHook} {e : Http.Error} {env₁ env' : Env}
      (hpassed : (notify t request passed).run env = (.ok (), env₁))
      (hrefused : (hook t request).run env₁ = (.error e, env')) :
      Told t request handler env (passed ++ hook :: rest) .refused (.error e) env'
  /-- All hooks have run, and the handler runs. -/
  | handled {hooks : List TenantHook} {outcome : Outcome} {env₁ env' : Env}
      (hpassed : (notify t request hooks).run env = (.ok (), env₁))
      (hhandled : (TenantHandler.handle handler request).run env₁ = (outcome, env')) :
      Told t request handler env hooks .dispatched outcome env'

/-- The first hook passes, and what the others do follows. -/
theorem Told.cons {t : Tenant} {request : AppRequest} {handler : η} {hook : TenantHook}
    {hooks : List TenantHook} {ending : Ending} {outcome : Outcome} {env env₁ env' : Env}
    (hhook : (hook t request).run env = (.ok (), env₁))
    (h : Told t request handler env₁ hooks ending outcome env') :
    Told t request handler env (hook :: hooks) ending outcome env' := by
  have hcons : ∀ rest, (notify t request (hook :: rest)).run env =
      (notify t request rest).run env₁ := by
    intro rest
    rw [notify, StateT.run_bind, hhook]
    rfl
  cases h with
  | @refused passed rest hook' e env₂ _ hpassed hrefused =>
      -- The refusing hook stays the same one; only the list of those before it grows.
      rw [← List.cons_append]
      exact .refused ((hcons passed).trans hpassed) hrefused
  | handled hpassed hhandled => exact .handled ((hcons hooks).trans hpassed) hhandled

/-- The ways in which a call can end, with the place where it is counted, its
    outcome, the environment that it leaves and the builds that were made. -/
inductive Served (factory : HandlerFactory η) (r : Router η) (env : Env) (request : AppRequest) :
    Ending → Outcome → Env → List (Build η) → Prop where
  /-- There is no tenant, and the request goes to the fallback as it came. -/
  | fallback {handler : η} {outcome : Outcome} {env₁ env' : Env}
      (hresolve : env.resolve request = (none, env₁)) (hfallback : r.fallback = some handler)
      (hhandled : (TenantHandler.handle handler request).run env₁ = (outcome, env')) :
      Served factory r env request .fallback outcome env' []
  /-- There is no tenant and no fallback. -/
  | notFound {env' : Env} (hresolve : env.resolve request = (none, env'))
      (hfallback : r.fallback = none) :
      Served factory r env request .notFound
        (.error { kind := .notFound, text := "Tenant not found" }) env' []
  /-- There is no handler, and no hook is told. -/
  | unavailable {t : Tenant} {env₁ env' : Env} {made : List (Build η)}
      (hresolve : env.resolve request = (some t, env₁))
      (hsupplied : Supplied factory r t env₁ none env' made) :
      Served factory r env request .unavailable
        (.error { kind := .serviceUnavailable,
                  text := "no handler available for tenant '" ++ t.id ++ "'" }) env' made
  /-- There is one, and the hooks are told of the request, which by now carries
      the tenant. -/
  | told {t : Tenant} {handler : η} {ending : Ending} {outcome : Outcome} {env₁ env₂ env' : Env}
      {made : List (Build η)} (hresolve : env.resolve request = (some t, env₁))
      (hsupplied : Supplied factory r t env₁ (some handler) env₂ made)
      (hcarries : AppRequest.Carries t request (AppRequest.setTenant request t))
      (htold : Told t (AppRequest.setTenant request t) handler env₂ r.hooks ending outcome env') :
      Served factory r env request ending outcome env' made

end Told

/-! ### A call on the switchboard -/

namespace Switchboard

/-- The build under way that a dispatch waits for, with its tenant. -/
def awaited? (s : Switchboard η) : Dispatch η → Option (Tenant × Nat)
  | .building t _ k => if (s.outcome? k).isNone then some (t, k) else none
  | _ => none

/-- The switchboard with one more dispatch, which comes last. -/
def calling (s : Switchboard η) (stage : Dispatch η) : Switchboard η :=
  { s with dispatches := s.dispatches ++ [stage] }

/-- The switchboard with other built handlers, locks and counters, and with
    more builds. -/
def left (s : Switchboard η) (built : Cache (Built η)) (locks : Locks Party) (stats : RouterStats)
    (made : List (Build η)) : Switchboard η :=
  { s with router := { s.router with built, locks, stats }, builds := s.builds ++ made }

/-- The counters once the builds that were made are counted. -/
def countBuilds (s : Switchboard η) (made : List (Build η)) : RouterStats :=
  { s.router.stats with builds := s.router.stats.builds + made.countP Build.gave }

section Calls

variable [TenantHandler η]

/-- Let a dispatch go a step further, or end the build that it waits for. -/
def proceed (factory : HandlerFactory η) (n : Nat) (w : Env × Switchboard η) :
    Env × Switchboard η :=
  match w.2.dispatches[n]?.bind w.2.awaited? with
  | some (t, k) =>
    let (outcome, env) := (factory t).run w.1
    w.2.next env (.finish k outcome)
  | none => w.2.next w.1 (.step n)

/-- A call that nobody interrupts. It has come to its end after five steps, one
    for every hook, and one for the handler. -/
def dispatchAlone (factory : HandlerFactory η) (w : Env × Switchboard η) (request : AppRequest) :
    Env × Switchboard η :=
  (proceed factory w.2.dispatches.length)^[w.2.router.hooks.length + 6]
    (w.2.next w.1 (.arrive request))

/-- No build of the tenant of a request is under way when the request needs
    one. -/
def Unhindered (w : Env × Switchboard η) (request : AppRequest) : Prop :=
  ∀ t env, w.1.resolve request = (some t, env) → (w.2.router.lookup env.clock t.id).1 = none →
    ∀ k, ¬w.2.Runs k t.id

/-- What a call leaves on the switchboard. -/
structure Answered (s : Switchboard η) (ending : Ending) (outcome : Outcome)
    (made : List (Build η)) (s' : Switchboard η) : Prop where
  /-- The call is over, and has its outcome. The others are where they were. -/
  dispatches : s'.dispatches = s.dispatches ++ [.done outcome]
  builds : s'.builds = s.builds ++ made
  stats : s'.router.stats = ending.count (s.countBuilds made)
  /-- Nothing else changes but the built handlers and the locks. -/
  router : ∃ built locks stats, s'.router = { s.router with built, locks, stats }

/-! ### Steps of the call that comes last -/

variable {factory : HandlerFactory η} {env env' : Env} {s s' : Switchboard η}
  {stage stage' : Dispatch η}

/-- A step does not look at the dispatches. -/
theorem step_calling (env : Env) (s : Switchboard η) (n : Nat) (other stage : Dispatch η) :
    stage.step env (s.calling other) n =
      ((stage.step env s n).1, (stage.step env s n).2.1.calling other,
        (stage.step env s n).2.2) := by
  have hrouter : (s.calling other).router = s.router := rfl
  -- Whatever a stage branches on is in the router or among the builds.
  cases stage with
  | arrived request =>
      simp only [Dispatch.step, resolve, hrouter]
      rcases env.resolve request with ⟨tenant, env'⟩
      cases tenant with
      | some t => rfl
      | none =>
          cases s.router.fallback with
          | some handler => rfl
          | none => rfl
  | resolved t request =>
      simp only [Dispatch.step, seek, hrouter]
      rcases s.router.lookup env.clock t.id with ⟨found, router⟩
      cases found with
      | some found => rfl
      | none =>
          by_cases hable : router.builds = true
          · simp only [hable, if_true]
            rfl
          · simp only [hable, Bool.false_eq_true, if_false]
            rfl
  | waiting t request =>
      simp only [Dispatch.step, hrouter]
      cases s.router.locks.grant? (.dispatch n) with
      | none => rfl
      | some locks =>
          simp only [enter, hrouter]
          rcases ({ s.router with locks } : Router η).lookup env.clock t.id with ⟨found, router⟩
          cases found with
          | some found => rfl
          | none => rfl
  | building t request k =>
      have houtcome : (s.calling other).outcome? k = s.outcome? k := rfl
      simp only [Dispatch.step, collect, houtcome]
      cases s.outcome? k with
      | none => rfl
      | some outcome =>
          cases outcome with
          | ok handler => rfl
          | error f => rfl
  | equipped t request found hooks =>
      cases hooks with
      | nil => rfl
      | cons hook rest => rfl
  | done outcome => rfl
  | dropped => rfl

/-- Nor does it change them. -/
theorem dispatches_step (env : Env) (s : Switchboard η) (n : Nat) (stage : Dispatch η) :
    (stage.step env s n).2.1.dispatches = s.dispatches := by
  cases stage with
  | arrived request =>
      rw [Dispatch.step, resolve]
      split
      · rfl
      · split <;> rfl
  | resolved t request =>
      rw [Dispatch.step, seek]
      split
      · rfl
      · split <;> rfl
  | waiting t request =>
      rw [Dispatch.step]
      split
      · rw [enter]
        split <;> rfl
      · rfl
  | building t request k =>
      rw [Dispatch.step, collect]
      split <;> rfl
  | equipped t request found hooks =>
      cases hooks with
      | nil => rfl
      | cons hook rest => rfl
  | done outcome => rfl
  | dropped => rfl

omit [TenantHandler η] in
theorem getElem?_calling (s : Switchboard η) (stage : Dispatch η) :
    (s.calling stage).dispatches[s.dispatches.length]? = some stage :=
  List.getElem?_concat_length

/-- A step of the call that comes last is a step of its stage. -/
theorem next_calling (env : Env) (s : Switchboard η) (stage : Dispatch η) :
    (s.calling stage).next env (.step s.dispatches.length) =
      ((stage.step env s s.dispatches.length).1,
        (stage.step env s s.dispatches.length).2.1.calling
          (stage.step env s s.dispatches.length).2.2) := by
  have hkept := dispatches_step env s s.dispatches.length stage
  -- The stage is taken from the last place and put back there.
  simp only [next, getElem?_calling, step_calling]
  rw [calling, calling, hkept, List.set_append_right _ _ (Nat.le_refl _), Nat.sub_self,
    List.set_cons_zero]

/-! ### Going on -/

/-- The call that comes last goes on from one stage to another, in a number of
    steps at most. -/
def Goes (factory : HandlerFactory η) (most : Nat) (env : Env) (s : Switchboard η)
    (stage : Dispatch η) (env' : Env) (s' : Switchboard η) (stage' : Dispatch η) : Prop :=
  s'.dispatches = s.dispatches ∧ ∃ k ≤ most,
    (proceed factory s.dispatches.length)^[k] (env, s.calling stage) = (env', s'.calling stage')

theorem Goes.trans {most most' : Nat} {env'' : Env} {s'' : Switchboard η} {stage'' : Dispatch η}
    (h : Goes factory most env s stage env' s' stage')
    (h' : Goes factory most' env' s' stage' env'' s'' stage'') :
    Goes factory (most + most') env s stage env'' s'' stage'' := by
  rcases h with ⟨hkept, k, hk, hrun⟩
  rcases h' with ⟨hkept', k', hk', hrun'⟩
  refine ⟨hkept'.trans hkept, k' + k, by omega, ?_⟩
  rw [Function.iterate_add_apply, hrun, ← hkept]
  exact hrun'

theorem Goes.mono {most most' : Nat} (h : Goes factory most env s stage env' s' stage')
    (hle : most ≤ most') : Goes factory most' env s stage env' s' stage' := by
  rcases h with ⟨hkept, k, hk, hrun⟩
  exact ⟨hkept, k, Nat.le_trans hk hle, hrun⟩

/-- Unless it waits for a build, the call goes on by a step of its stage. -/
theorem proceed_calling (hfree : s.awaited? stage = none) :
    proceed factory s.dispatches.length (env, s.calling stage) =
      ((stage.step env s s.dispatches.length).1,
        (stage.step env s s.dispatches.length).2.1.calling
          (stage.step env s s.dispatches.length).2.2) := by
  have hawaited : (s.calling stage).awaited? stage = none := by
    cases stage <;> exact hfree
  rw [proceed, getElem?_calling, Option.bind_some, hawaited]
  exact next_calling env s stage

theorem Goes.of_step (hfree : s.awaited? stage = none)
    (hstep : stage.step env s s.dispatches.length = (env', s', stage')) :
    Goes factory 1 env s stage env' s' stage' := by
  have hkept := dispatches_step env s s.dispatches.length stage
  rw [hstep] at hkept
  refine ⟨hkept, 1, Nat.le_refl 1, ?_⟩
  rw [Function.iterate_one, proceed_calling hfree, hstep]

/-- A call that can do nothing stays as it is. -/
theorem Goes.eq_of_stays {most : Nat} (h : Goes factory most env s stage env' s' stage')
    (hfree : s'.awaited? stage' = none)
    (hstays : stage'.step env' s' s'.dispatches.length = (env', s', stage')) {n : Nat}
    (hn : most ≤ n) :
    (proceed factory s.dispatches.length)^[n] (env, s.calling stage) =
      (env', s'.calling stage') := by
  -- The call gets there in `k ≤ n` steps, and the remaining `n - k` change nothing.
  rcases h with ⟨hkept, k, hk, hrun⟩
  have hfixed : proceed factory s.dispatches.length (env', s'.calling stage') =
      (env', s'.calling stage') := by
    rw [← hkept, proceed_calling hfree, hstays]
  rw [show n = (n - k) + k by omega, Function.iterate_add_apply, hrun,
    Function.iterate_fixed hfixed]

/-! ### Getting a handler -/

variable (factory)

omit [TenantHandler η] in
theorem left_nil (s : Switchboard η) (built : Cache (Built η)) (locks : Locks Party)
    (stats : RouterStats) :
    s.left built locks stats [] = s.withRouter { s.router with built, locks, stats } := by
  rw [left, List.append_nil]
  rfl

/-- The tenant takes the call one step. -/
theorem goes_resolved {request : AppRequest} {t : Tenant}
    (hresolve : env.resolve request = (some t, env')) :
    Goes factory 1 env s (.arrived request) env' s
      (.resolved t (AppRequest.setTenant request t)) := by
  refine .of_step rfl ?_
  simp only [Dispatch.step, resolve, hresolve]

/-- So does a handler that is found. -/
theorem goes_found {t : Tenant} (request : AppRequest) {found : Found η}
    (hfound : (s.router.lookup env.clock t.id).1 = some found) :
    ∃ built locks, Goes factory 1 env s (.resolved t request) env
      (s.left built locks (s.countBuilds []) []) (.equipped t request found s.router.hooks) := by
  rcases Router.exists_lookup_eq hfound with ⟨built, hlookup⟩
  refine ⟨built, s.router.locks, .of_step rfl ?_⟩
  simp only [Dispatch.step, seek, hlookup, left_nil]
  rfl

/-- So does its absence, if no handler can be built. -/
theorem goes_missing {t : Tenant} (request : AppRequest)
    (hmissed : (s.router.lookup env.clock t.id).1 = none) (hunable : s.router.builds = false) :
    ∃ built locks, Goes factory 1 env s (.resolved t request) env
      (s.left built locks (Ending.unavailable.count (s.countBuilds [])) [])
      (.done (.error (noHandler t))) := by
  rcases Router.exists_lookup_eq hmissed with ⟨built, hlookup⟩
  refine ⟨built, s.router.locks, .of_step rfl ?_⟩
  simp only [Dispatch.step, seek, hlookup, hunable, Bool.false_eq_true, if_false, left_nil]
  rfl

/-- Otherwise the call takes up a claim on the lock of the tenant. -/
theorem goes_wait {t : Tenant} (request : AppRequest)
    (hmissed : (s.router.lookup env.clock t.id).1 = none) (hable : s.router.builds = true) :
    ∃ router built, router = { s.router with
        built, locks := s.router.locks.request (.dispatch s.dispatches.length) t.id } ∧
      (router.lookup env.clock t.id).1 = none ∧
      Goes factory 1 env s (.resolved t request) env (s.withRouter router)
        (.waiting t request) := by
  rcases Router.exists_lookup_eq hmissed with ⟨built, hlookup⟩
  have hagain := Router.lookup_again hmissed
  -- The second lookup sees the new claim, but no lookup reads the locks.
  rw [hlookup, ← Router.lookup_locks _
    (s.router.locks.request (.dispatch s.dispatches.length) t.id)] at hagain
  refine ⟨_, built, rfl, hagain, .of_step rfl ?_⟩
  simp only [Dispatch.step, seek, hlookup, hable, if_true]

/-- With the lock it starts a build, if there still is no handler. -/
theorem goes_enter {t : Tenant} (request : AppRequest) {locks : Locks Party}
    (hgrant : s.router.locks.grant? (.dispatch s.dispatches.length) = some locks)
    (hmissed : (s.router.lookup env.clock t.id).1 = none) :
    ∃ built, Goes factory 1 env s (.waiting t request) env
      (s.left built (locks.handOver (.dispatch s.dispatches.length) (.build s.builds.length))
        s.router.stats [{ tenant := t }]) (.building t request s.builds.length) := by
  -- The lookup happens under the lock, so `hmissed` is moved to the new locks first.
  rw [← s.router.lookup_locks locks] at hmissed
  rcases Router.exists_lookup_eq hmissed with ⟨built, hlookup⟩
  refine ⟨built, .of_step rfl ?_⟩
  simp only [Dispatch.step, hgrant, enter, hlookup, left]

omit [TenantHandler η] in
/-- The end of a build does not depend on the dispatches. -/
theorem finish_calling (env : Env) (s : Switchboard η) (k : Nat) (outcome : Except Fault η)
    (stage : Dispatch η) :
    (s.calling stage).finish env k outcome = (s.finish env k outcome).calling stage := by
  have hbuilds : (s.calling stage).builds = s.builds := rfl
  rw [finish, finish, hbuilds]
  split
  · cases outcome <;> rfl
  · rfl

omit [TenantHandler η] in
theorem dispatches_finish (env : Env) (s : Switchboard η) (k : Nat) (outcome : Except Fault η) :
    (s.finish env k outcome).dispatches = s.dispatches := by
  rw [finish]
  split <;> rfl

/-- The call waits until its build has ended. -/
theorem goes_finish {t : Tenant} (request : AppRequest) {k : Nat} {outcome : Except Fault η}
    (hk : s.builds[k]? = some { tenant := t, outcome := none })
    (hmake : (factory t).run env = (outcome, env')) :
    Goes factory 1 env s (.building t request k) env' (s.finish env' k outcome)
      (.building t request k) := by
  refine ⟨dispatches_finish env' s k outcome, 1, Nat.le_refl 1, ?_⟩
  -- A build without an outcome is what the call waits for, so `proceed` runs the factory.
  have hawaited : (s.calling (.building t request k)).awaited? (.building t request k) =
      some (t, k) := by
    have houtcome : (s.calling (.building t request k)).outcome? k = none := by
      rw [outcome?, calling, hk, Option.bind_some]
    rw [awaited?, houtcome, Option.isNone_none, if_pos rfl]
  simp only [Function.iterate_one, proceed, getElem?_calling, Option.bind_some, hawaited, hmake,
    next, finish_calling]

omit [TenantHandler η] in
/-- What a build leaves that was started last. -/
theorem finish_left (env : Env) (s : Switchboard η) (built : Cache (Built η))
    (locks : Locks Party) (t : Tenant) (outcome : Except Fault η) :
    ∃ built' locks', (s.left built locks s.router.stats [{ tenant := t }]).finish env
        s.builds.length outcome =
      s.left built' locks' (s.countBuilds [{ tenant := t, outcome := some outcome }])
        [{ tenant := t, outcome := some outcome }] := by
  have hk : (s.left built locks s.router.stats [{ tenant := t }]).builds[s.builds.length]? =
      some { tenant := t, outcome := none } := List.getElem?_concat_length
  have hset : (s.left built locks s.router.stats [{ tenant := t }]).builds.set s.builds.length
      { tenant := t, outcome := some outcome } =
        s.builds ++ [{ tenant := t, outcome := some outcome }] := by
    rw [left, List.set_append_right _ _ (Nat.le_refl _), Nat.sub_self, List.set_cons_zero]
  rw [finish, hk]
  simp only [hset]
  -- Only a handler is cached and counted.
  cases outcome with
  | ok handler => exact ⟨_, _, rfl⟩
  | error f => exact ⟨_, _, rfl⟩

omit [TenantHandler η] in
/-- A call that comes last has a claim once it has asked for it, and for no
    other key. -/
theorem sound_request (hlinked : Linked s) (id : String) :
    (s.router.locks.request (.dispatch s.dispatches.length) id).Sound ∧
      (s.router.locks.request (.dispatch s.dispatches.length) id).Claims
        (.dispatch s.dispatches.length) id false := by
  refine ⟨hlinked.sound.request fun key held hclaim => ?_,
    (Locks.claims_request_iff _ _ _).mpr (Or.inr ⟨rfl, rfl, rfl⟩)⟩
  rcases (hlinked.waits.mp hclaim).2 with ⟨t, request, hn, _⟩
  exact absurd (List.getElem?_eq_some_iff.mp hn).1 (Nat.lt_irrefl _)

omit [TenantHandler η] in
/-- It is granted a lock that no build holds. -/
theorem exists_grant (hlinked : Linked s) {id : String} (hfree : ∀ k, ¬s.Runs k id) :
    ∃ locks, (s.router.locks.request (.dispatch s.dispatches.length) id).grant?
      (.dispatch s.dispatches.length) = some locks := by
  rcases sound_request hlinked id with ⟨hsound, hwaits⟩
  refine hsound.grant?_isSome hwaits fun other hclaim => ?_
  -- A claim that is held is that of a build under way.
  rcases (Locks.claims_request_iff _ _ _).mp hclaim with hold | ⟨_, _, hheld⟩
  · cases other with
    | dispatch n => exact absurd (hlinked.waits.mp hold).1 (Ne.symm Bool.false_ne_true)
    | build k => exact hfree k (hlinked.runs.mp hold).2
  · exact absurd hheld (Ne.symm Bool.false_ne_true)

omit [TenantHandler η] in
/-- It is not granted a lock that a build holds. -/
theorem grant?_of_runs (hlinked : Linked s) {k : Nat} {id : String} (hruns : s.Runs k id) :
    (s.router.locks.request (.dispatch s.dispatches.length) id).grant?
      (.dispatch s.dispatches.length) = none := by
  rcases sound_request hlinked id with ⟨hsound, hwaits⟩
  have hbuild := (s.router.locks.claims_request_iff (.dispatch s.dispatches.length) id).mpr
    (Or.inl (hlinked.runs.mpr ⟨rfl, hruns⟩))
  by_contra hne
  rcases Option.ne_none_iff_exists'.mp hne with ⟨locks, hgrant⟩
  -- Both would hold the key.
  have hboth := (hsound.grant? hgrant).holder_unique
    ((hsound.claims_grant?_iff hgrant).mpr (Or.inr ⟨rfl, rfl, hwaits⟩))
    ((hsound.claims_grant?_iff hgrant).mpr (Or.inl ⟨by simp only [ne_eq, reduceCtorEq,
      not_false_eq_true], hbuild⟩))
  exact absurd hboth (by simp only [reduceCtorEq, not_false_eq_true])

/-- A call in whose way nobody is has its build made. -/
theorem goes_build (hlinked : Linked s) {t : Tenant} (request : AppRequest)
    {outcome : Except Fault η} (hmissed : (s.router.lookup env.clock t.id).1 = none)
    (hable : s.router.builds = true) (hfree : ∀ k, ¬s.Runs k t.id)
    (hmake : (factory t).run env = (outcome, env')) :
    ∃ built locks, Goes factory 3 env s (.resolved t request) env'
      (s.left built locks (s.countBuilds [{ tenant := t, outcome := some outcome }])
        [{ tenant := t, outcome := some outcome }])
      (.building t request s.builds.length) := by
  -- The call waits for the lock, starts the build, and waits for its end.
  rcases goes_wait factory request hmissed hable with ⟨router, built, hrouter, hagain, hwait⟩
  have hgranted : ∃ locks,
      router.locks.grant? (.dispatch (s.withRouter router).dispatches.length) = some locks := by
    rw [hrouter]
    exact exists_grant hlinked hfree
  rcases hgranted with ⟨locks, hgrant⟩
  rcases goes_enter factory (s := s.withRouter router) request hgrant hagain with ⟨built₁, henter⟩
  have hsame : ∀ locks, (s.withRouter router).left built₁ locks router.stats [{ tenant := t }] =
      s.left built₁ locks s.router.stats [{ tenant := t }] := by
    intro locks
    rw [hrouter]
    rfl
  rw [show (s.withRouter router).router.stats = router.stats from rfl, hsame] at henter
  have hlast : (s.left built₁ (locks.handOver (.dispatch s.dispatches.length)
      (.build s.builds.length)) s.router.stats [{ tenant := t }]).builds[s.builds.length]? =
        some { tenant := t, outcome := none } := List.getElem?_concat_length
  have hfinish := goes_finish factory request hlast hmake
  rcases finish_left env' s built₁ (locks.handOver (.dispatch s.dispatches.length)
    (.build s.builds.length)) t outcome with ⟨built₂, locks₂, hleft⟩
  rw [hleft] at hfinish
  exact ⟨built₂, locks₂, (hwait.trans henter).trans hfinish⟩

/-- A call with a tenant gets its handler, wherever the router has it from, or
    is refused because there is none. -/
theorem goes_seek (hlinked : Linked s) {t : Tenant} (request : AppRequest)
    (hfree : (s.router.lookup env.clock t.id).1 = none → ∀ k, ¬s.Runs k t.id) :
    (∃ found env' made built locks, Supplied factory s.router t env (some found.handler) env' made ∧
      Goes factory 4 env s (.resolved t request) env'
        (s.left built locks (s.countBuilds made) made)
        (.equipped t request found s.router.hooks)) ∨
    ∃ env' made built locks, Supplied factory s.router t env none env' made ∧
      Goes factory 4 env s (.resolved t request) env'
        (s.left built locks (Ending.unavailable.count (s.countBuilds made)) made)
        (.done (.error (noHandler t))) := by
  cases hlookup : (s.router.lookup env.clock t.id).1 with
  | some found =>
      rcases goes_found factory request hlookup with ⟨built, locks, hgoes⟩
      refine Or.inl ⟨found, env, [], built, locks, ?_, hgoes.mono (by omega)⟩
      rcases Router.lookup_eq_some hlookup with ⟨handler, rfl, hregistered⟩ | ⟨b, rfl, hnone, hlive⟩
      · exact .registered hregistered
      · exact .cached hnone hlive
  | none =>
      rcases (s.router.lookup_eq_none_iff env.clock t.id).mp hlookup with ⟨hnone, hdead⟩
      cases hable : s.router.builds with
      | false =>
          rcases goes_missing factory request hlookup hable with ⟨built, locks, hgoes⟩
          exact Or.inr ⟨env, [], built, locks, .missing hnone hdead hable, hgoes.mono (by omega)⟩
      | true =>
          rcases hmake : (factory t).run env with ⟨outcome, env'⟩
          rcases goes_build factory hlinked request hlookup hable (hfree hlookup) hmake with
            ⟨built, locks, hgoes⟩
          have houtcome : (s.left built locks
              (s.countBuilds [{ tenant := t, outcome := some outcome }])
                [{ tenant := t, outcome := some outcome }]).outcome? s.builds.length =
                  some outcome := by
            rw [outcome?, left, List.getElem?_concat_length, Option.bind_some]
          -- What the build has made is collected.
          cases outcome with
          | ok handler =>
              refine Or.inl ⟨.built { build := s.builds.length, handler }, env', _, built, locks,
                .built hnone hdead hable hmake, hgoes.trans (.of_step ?_ ?_)⟩
              · rw [awaited?, houtcome]
                rfl
              · rw [Dispatch.step, collect, houtcome]
                rfl
          | error f =>
              refine Or.inr ⟨env', _, built, locks, .failed hnone hdead hable hmake,
                hgoes.trans (.of_step ?_ ?_)⟩
              · rw [awaited?, houtcome]
                rfl
              · rw [Dispatch.step, collect, houtcome]
                rfl

/-! ### Hooks and handler -/

/-- A call that has its handler tells the hooks in order, up to the first that
    refuses, and runs the handler if none does. -/
theorem goes_tell (env : Env) (s : Switchboard η) (t : Tenant) (request : AppRequest)
    (found : Found η) (hooks : List TenantHook) :
    ∃ ending outcome env', Told t request found.handler env hooks ending outcome env' ∧
      Goes factory (hooks.length + 1) env s (.equipped t request found hooks) env'
        (s.withRouter (s.router.count ending.count)) (.done outcome) := by
  -- Each hook starts from the environment that the one before it has left.
  induction hooks generalizing env with
  | nil =>
      rcases hhandled : (TenantHandler.handle found.handler request).run env with ⟨outcome, env'⟩
      refine ⟨.dispatched, outcome, env', .handled rfl hhandled, .of_step rfl ?_⟩
      simp only [Dispatch.step, handle, hhandled]
      rfl
  | cons hook rest ih =>
      rcases hhook : (hook t request).run env with ⟨result, env₁⟩
      cases result with
      | ok u =>
          rcases ih env₁ with ⟨ending, outcome, env', htold, hgoes⟩
          have hfirst : Goes factory 1 env s (.equipped t request found (hook :: rest)) env₁ s
              (.equipped t request found rest) := by
            refine .of_step rfl ?_
            simp only [Dispatch.step, tell, hhook]
          refine ⟨ending, outcome, env', htold.cons hhook, (hfirst.trans hgoes).mono ?_⟩
          rw [List.length_cons]
          omega
      | error e =>
          have hrefused : Told t request found.handler env ([] ++ hook :: rest) .refused (.error e)
              env₁ := .refused rfl hhook
          refine ⟨.refused, .error e, env₁, hrefused, Goes.mono (.of_step rfl ?_) (by omega)⟩
          simp only [Dispatch.step, tell, hhook]
          rfl

/-! ### A whole call -/

omit [TenantHandler η] in
theorem answered_left {ending : Ending} {outcome : Outcome} {made : List (Build η)}
    (s : Switchboard η) (built : Cache (Built η)) (locks : Locks Party) :
    s.Answered ending outcome made
      ((s.left built locks (ending.count (s.countBuilds made)) made).calling (.done outcome)) where
  dispatches := rfl
  builds := rfl
  stats := rfl
  router := ⟨built, locks, _, rfl⟩

/-- The ways of a call, from its arrival to its end. -/
theorem goes_arrived (hlinked : Linked s) {request : AppRequest}
    (hfree : Unhindered (env, s) request) :
    ∃ ending outcome env' made built locks,
      Served factory s.router env request ending outcome env' made ∧
        Goes factory (s.router.hooks.length + 6) env s (.arrived request) env'
          (s.left built locks (ending.count (s.countBuilds made)) made) (.done outcome) := by
  rcases hresolve : env.resolve request with ⟨tenant, env₁⟩
  -- Without a tenant the one step of resolving is already the end.
  cases tenant with
  | none =>
      cases hfallback : s.router.fallback with
      | some handler =>
          rcases hhandled : (TenantHandler.handle handler request).run env₁ with ⟨outcome, env'⟩
          refine ⟨.fallback, outcome, env', [], s.router.built, s.router.locks,
            .fallback hresolve hfallback hhandled, Goes.mono (.of_step rfl ?_) (by omega)⟩
          have hstep : (Dispatch.arrived request).step env s s.dispatches.length =
              (env', s.withRouter (s.router.count Ending.fallback.count), .done outcome) := by
            simp only [Dispatch.step, resolve, hresolve, hfallback, hhandled]
            rfl
          rw [hstep, left_nil]
          rfl
      | none =>
          refine ⟨.notFound, _, env₁, [], s.router.built, s.router.locks,
            .notFound hresolve hfallback, Goes.mono (.of_step rfl ?_) (by omega)⟩
          have hstep : (Dispatch.arrived request).step env s s.dispatches.length =
              (env₁, s.withRouter (s.router.count Ending.notFound.count),
                .done (.error noTenant)) := by
            simp only [Dispatch.step, resolve, hresolve, hfallback]
            rfl
          rw [hstep, left_nil]
          rfl
  | some t =>
      -- With a tenant the call goes on in up to three phases: resolving, coming by a handler, and
      -- telling the hooks.
      have hfirst := goes_resolved factory (s := s) hresolve
      rcases goes_seek factory hlinked (AppRequest.setTenant request t) (hfree t env₁ hresolve) with
        ⟨found, env₂, made, built, locks, hsupplied, hgoes⟩ |
        ⟨env', made, built, locks, hsupplied, hgoes⟩
      · rcases goes_tell factory env₂ (s.left built locks (s.countBuilds made) made) t
          (AppRequest.setTenant request t) found s.router.hooks with
          ⟨ending, outcome, env', htold, htell⟩
        exact ⟨ending, outcome, env', made, built, locks,
          .told hresolve hsupplied (AppRequest.carries_setTenant request t) htold,
          ((hfirst.trans hgoes).trans htell).mono (by omega)⟩
      · exact ⟨.unavailable, _, env', made, built, locks, .unavailable hresolve hsupplied,
          (hfirst.trans hgoes).mono (by omega)⟩

/-- A call that nobody interrupts and that no build is in the way of comes to
    its end, in one of the ways of `Served`. -/
theorem served_alone {w : Env × Switchboard η} (hlinked : Linked w.2) {request : AppRequest}
    (hfree : Unhindered w request) :
    ∃ ending outcome made,
      Served factory w.2.router w.1 request ending outcome (dispatchAlone factory w request).1
          made ∧
        w.2.Answered ending outcome made (dispatchAlone factory w request).2 := by
  rcases w with ⟨env, s⟩
  rcases goes_arrived factory hlinked hfree with
    ⟨ending, outcome, env', made, built, locks, hserved, hgoes⟩
  -- The steps in excess find the call done and leave it so.
  have hrun : dispatchAlone factory (env, s) request =
      (env', (s.left built locks (ending.count (s.countBuilds made)) made).calling
        (.done outcome)) := hgoes.eq_of_stays rfl rfl (Nat.le_refl _)
  rw [hrun]
  exact ⟨ending, outcome, made, hserved, answered_left s built locks⟩

/-- When a build of its tenant is in the way, the call waits for the lock and
    does nothing else. -/
theorem waits_alone {w : Env × Switchboard η} (hlinked : Linked w.2) {request : AppRequest}
    (hhindered : ¬Unhindered w request) :
    ∃ t env built locks, w.1.resolve request = (some t, env) ∧
      dispatchAlone factory w request =
        (env, (w.2.withRouter { w.2.router with built, locks }).calling
          (.waiting t (AppRequest.setTenant request t))) := by
  rcases w with ⟨env, s⟩
  simp only [Unhindered, not_forall, not_not] at hhindered
  rcases hhindered with ⟨t, env₁, hresolve, hmissed, k, hruns⟩
  -- A build under way shows that the router has a factory.
  have hable : s.router.builds = true := by
    refine hlinked.able_builds fun hnil => ?_
    rcases hruns with ⟨u, hk, _⟩
    rw [hnil] at hk
    exact absurd hk (by simp only [List.getElem?_nil, reduceCtorEq, not_false_eq_true])
  have hfirst := goes_resolved factory (s := s) hresolve
  rcases goes_wait factory (AppRequest.setTenant request t) hmissed hable with
    ⟨router, built, rfl, _, hwait⟩
  refine ⟨t, env₁, built, _, hresolve,
    (hfirst.trans hwait).eq_of_stays rfl ?_ (n := s.router.hooks.length + 6) (by omega)⟩
  -- The lock is held by that build, so the call stays where it is.
  have hgrant := grant?_of_runs hlinked hruns
  simp only [Dispatch.step, withRouter, hgrant]

end Calls

end Switchboard

end Multitenancy
