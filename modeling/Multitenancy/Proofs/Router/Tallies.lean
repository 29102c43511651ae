import Multitenancy.Proofs.Router.Alone
import Multitenancy.Proofs.Router.Sharing
/-!
# What Calls Add Up To

Every call that nobody interrupts ends in one of a few ways, whatever has
happened to the router before, and the counters say how often each of them was
the end of a call.

A router at work is moved by its own events, in any order, and by changes of
its environment from outside. Little of it stays the same all the while: the
fallback, the hooks, and whether handlers can be built. That is what the way of
a call depends on, together with the handlers of its tenant at the moment. All
the while, too, the router keeps count of the builds that gave a handler.

Calls that come one after the other leave no build under way behind them, so
none is ever in the way of the next. Each adds one to the counter of its
ending, except for a call that a hook has refused.

## Main definitions

* `Router.work`: A router at work.
* `AtWork`: What is true of it at all times.
* `Switchboard.serve`: A router that serves one call after the other.
* `Tally`: How the calls ended, and what was built for them.

## Theorems

* `Switchboard.step_left`: What a step leaves as it is.
* `AtWork.next`: Every event keeps it.
* `Tally.stats`: The counters after calls.
* `Router.calls_add_up`: How calls end, and what they add up to.
-/

namespace Multitenancy

variable {η : Type}

/-! ### A router at work -/

/-- What happens to a router at work. -/
inductive RouterTurn (η : Type) where
  | event (e : RouterEvent η)
  /-- The environment changes from outside: tenants are created, updated and
      deleted, time goes by. -/
  | outside (change : Env → Env)

namespace Switchboard

variable [TenantHandler η]

/-- What a step leaves: other built handlers and locks, other counters but for
    that of builds, and perhaps one more build, which has just been started. -/
theorem step_left (env : Env) (s : Switchboard η) (n : Nat) (stage : Dispatch η) :
    ∃ built locks stats made, (stage.step env s n).2.1 = s.left built locks stats made ∧
      stats.builds = s.router.stats.builds ∧ made.countP Build.gave = 0 := by
  -- Many steps leave everything as it is.
  have hsame : ∃ built locks stats made, s = s.left built locks stats made ∧
      stats.builds = s.router.stats.builds ∧ made.countP Build.gave = 0 :=
    ⟨s.router.built, s.router.locks, s.router.stats, [], (left_nil s _ _ _).symm, rfl, rfl⟩
  cases stage with
  | arrived request =>
      rw [Dispatch.step, resolve]
      split
      · exact hsame
      · split <;> exact ⟨_, _, _, [], (left_nil s _ _ _).symm, rfl, rfl⟩
  | resolved t request =>
      cases hfound : (s.router.lookup env.clock t.id).1 with
      | some found =>
          rcases Router.exists_lookup_eq hfound with ⟨built, hlookup⟩
          rw [Dispatch.step, seek, hlookup]
          exact ⟨_, _, _, [], (left_nil s _ _ _).symm, rfl, rfl⟩
      | none =>
          rcases Router.exists_lookup_eq hfound with ⟨built, hlookup⟩
          rw [Dispatch.step, seek, hlookup]
          simp only
          split <;> exact ⟨_, _, _, [], (left_nil s _ _ _).symm, rfl, rfl⟩
  | waiting t request =>
      rw [Dispatch.step]
      split
      · rename_i locks _
        rw [enter]
        cases hfound : (({ s.router with locks } : Router η).lookup env.clock t.id).1 with
        | some found =>
            rcases Router.exists_lookup_eq hfound with ⟨built, hlookup⟩
            rw [hlookup]
            exact ⟨_, _, _, [], (left_nil s _ _ _).symm, rfl, rfl⟩
        | none =>
            rcases Router.exists_lookup_eq hfound with ⟨built, hlookup⟩
            rw [hlookup]
            exact ⟨_, _, _, [{ tenant := t }], rfl, rfl, rfl⟩
      · exact hsame
  | building t request k =>
      rw [Dispatch.step, collect]
      split
      · exact hsame
      · exact hsame
      · exact ⟨_, _, _, [], (left_nil s _ _ _).symm, rfl, rfl⟩
  | equipped t request found hooks =>
      cases hooks with
      | nil => exact ⟨_, _, _, [], (left_nil s _ _ _).symm, rfl, rfl⟩
      | cons hook rest => exact hsame
  | done outcome => exact hsame
  | dropped => exact hsame

end Switchboard

/-- What is true of a router with certain settings all the while. -/
structure AtWork (settings : RouterSettings η) (s : Switchboard η) : Prop where
  linked : Linked s
  fallback : s.router.fallback = settings.fallback
  hooks : s.router.hooks = settings.hooks
  able : s.router.builds = settings.builds
  /-- The builds that gave a handler are counted. -/
  counted : s.router.stats.builds = s.builds.countP Build.gave

namespace AtWork

variable [TenantHandler η] {settings : RouterSettings η} {s : Switchboard η}

/-- A new router. -/
theorem of_new {r : Router η} (hnew : Router.new settings = .ok r) (env : Env) :
    AtWork settings { router := r } := by
  have hlinked : Linked ({ router := r } : Switchboard η) := Router.linked_run hnew env []
  rcases bind_eq_ok_iff.mp hnew with ⟨_, _, hr⟩
  cases Except.ok.inj hr
  exact ⟨hlinked, rfl, rfl, rfl, rfl⟩

/-- The end of a build. -/
theorem finish (h : AtWork settings s) (env : Env) (k : Nat) (outcome : Except Fault η) :
    AtWork settings (s.finish env k outcome) := by
  have hlinked : Linked (s.finish env k outcome) :=
    h.linked.shift (Switchboard.shift_next env s (.finish k outcome))
  rw [Switchboard.finish] at hlinked ⊢
  split at hlinked
  · rename_i t hk
    rcases List.getElem?_eq_some_iff.mp hk with ⟨hlt, hbuild⟩
    -- The build had not given a handler before, so it was not among those that are counted.
    have hcount : ∀ b : Build η, (s.builds.set k b).countP Build.gave =
        s.builds.countP Build.gave + if b.gave then 1 else 0 := by
      intro b
      rw [List.countP_set hlt, hbuild]
      rfl
    simp only at hlinked ⊢
    cases outcome with
    | ok handler =>
        refine ⟨hlinked, h.fallback, h.hooks, h.able, ?_⟩
        rw [hcount]
        exact congrArg (· + 1) h.counted
    | error f =>
        refine ⟨hlinked, h.fallback, h.hooks, h.able, ?_⟩
        rw [hcount]
        exact h.counted
  · exact h

/-- Every event keeps it. -/
theorem next (h : AtWork settings s) (env : Env) (e : RouterEvent η) :
    AtWork settings (s.next env e).2 := by
  have hlinked := h.linked.shift (Switchboard.shift_next env s e)
  -- The links hold after any shift; what is left is the settings and the counter of builds.
  cases e with
  | arrive request => exact ⟨hlinked, h.fallback, h.hooks, h.able, h.counted⟩
  | step n =>
      cases hstage : s.dispatches[n]? with
      | none =>
          simp only [Switchboard.next, hstage]
          exact h
      | some stage =>
          rcases Switchboard.step_left env s n stage with
            ⟨built, locks, stats, made, hleft, hstats, hmade⟩
          rw [Switchboard.next_step hstage, hleft] at hlinked ⊢
          refine ⟨hlinked, h.fallback, h.hooks, h.able, ?_⟩
          change stats.builds = (s.builds ++ made).countP Build.gave
          rw [List.countP_append, hmade, hstats]
          exact h.counted
  | cancel n =>
      cases hstage : s.dispatches[n]? with
      | none =>
          simp only [Switchboard.next, hstage]
          exact h
      | some stage =>
          simp only [Switchboard.next, hstage] at hlinked ⊢
          cases stage <;> exact ⟨hlinked, h.fallback, h.hooks, h.able, h.counted⟩
  | finish k outcome => exact h.finish env k outcome
  | register id handler =>
      cases hregister : s.router.register id handler with
      | ok r =>
          simp only [Switchboard.next, hregister] at hlinked ⊢
          rw [Router.register_eq_ok hregister] at hlinked ⊢
          exact ⟨hlinked, h.fallback, h.hooks, h.able, h.counted⟩
      | error f =>
          simp only [Switchboard.next, hregister]
          exact h
  | unregister id => exact ⟨hlinked, h.fallback, h.hooks, h.able, h.counted⟩
  | invalidate id => exact ⟨hlinked, h.fallback, h.hooks, h.able, h.counted⟩
  | pass elapsed => exact h

end AtWork

section Work

variable [TenantHandler η]

/-- Take a turn. -/
def RouterTurn.take (w : Env × Switchboard η) : RouterTurn η → Env × Switchboard η
  | .event e => w.2.next w.1 e
  | .outside change => (change w.1, w.2)

/-- The environment and a new router after some time. -/
def Router.work (r : Router η) (env : Env) (turns : List (RouterTurn η)) : Env × Switchboard η :=
  turns.foldl RouterTurn.take (env, { router := r })

theorem Router.atWork_work {settings : RouterSettings η} {r : Router η}
    (hnew : new settings = .ok r) (env : Env) (turns : List (RouterTurn η)) :
    AtWork settings (r.work env turns).2 := by
  refine List.foldlRecOn (motive := fun w : Env × Switchboard η => AtWork settings w.2) turns _
    (AtWork.of_new hnew env) fun w hw turn _ => ?_
  cases turn with
  | event e => exact hw.next w.1 e
  | outside change => exact hw

end Work

/-! ### Calls one after the other -/

/-- What a router does that serves one call after the other, and what is done
    to it between two calls. -/
inductive RouterDeed (η : Type) where
  | call (request : AppRequest)
  | register (id : String) (handler : η)
  | unregister (id : String)
  | invalidate (id : String)
  /-- The environment changes from outside. -/
  | outside (change : Env → Env)

/-- Whether this is a call. -/
def RouterDeed.isCall : RouterDeed η → Bool
  | .call _ => true
  | _ => false

/-- The counters after calls that ended in certain ways, and after what was
    built for them. -/
def RouterStats.plus (c : RouterStats) (endings : List Ending) (made : List (Build η)) :
    RouterStats where
  dispatched := c.dispatched + endings.count .dispatched
  notFound := c.notFound + endings.count .notFound
  fallback := c.fallback + endings.count .fallback
  unavailable := c.unavailable + endings.count .unavailable
  builds := c.builds + made.countP Build.gave

theorem Ending.count_eq (c : RouterStats) (ending : Ending) :
    ending.count c = { c with
      dispatched := c.dispatched + if ending == .dispatched then 1 else 0
      notFound := c.notFound + if ending == .notFound then 1 else 0
      fallback := c.fallback + if ending == .fallback then 1 else 0
      unavailable := c.unavailable + if ending == .unavailable then 1 else 0 } := by
  cases ending <;> rfl

theorem RouterStats.plus_cons (c : RouterStats) (ending : Ending) (endings : List Ending)
    (made rest : List (Build η)) :
    (ending.count { c with builds := c.builds + made.countP Build.gave }).plus endings rest =
      c.plus (ending :: endings) (made ++ rest) := by
  simp only [plus, Ending.count_eq, List.count_cons, List.countP_append, RouterStats.mk.injEq]
  refine ⟨?_, ?_, ?_, ?_, Nat.add_assoc _ _ _⟩ <;> rw [Nat.add_right_comm, Nat.add_assoc]

section Serving

variable [TenantHandler η]

open Switchboard

/-- Do it, with a factory that makes handlers. -/
def RouterDeed.perform (factory : HandlerFactory η) (w : Env × Switchboard η) :
    RouterDeed η → Env × Switchboard η
  | .call request => dispatchAlone factory w request
  | .register id handler => w.2.next w.1 (.register id handler)
  | .unregister id => w.2.next w.1 (.unregister id)
  | .invalidate id => w.2.next w.1 (.invalidate id)
  | .outside change => (change w.1, w.2)

/-- The environment and the router after some deeds. -/
def Switchboard.serve (factory : HandlerFactory η) (w : Env × Switchboard η)
    (deeds : List (RouterDeed η)) : Env × Switchboard η :=
  deeds.foldl (RouterDeed.perform factory) w

/-- How the calls among some deeds end, and what is built for them. -/
inductive Tally (factory : HandlerFactory η) :
    Env × Switchboard η → List (RouterDeed η) → List Ending → List (Build η) → Prop where
  | nil {w : Env × Switchboard η} : Tally factory w [] [] []
  | call {w : Env × Switchboard η} {request : AppRequest} {deeds : List (RouterDeed η)}
      {ending : Ending} {outcome : Outcome} {endings : List Ending} {made rest : List (Build η)}
      (hserved : Served factory w.2.router w.1 request ending outcome
        (dispatchAlone factory w request).1 made)
      (hanswered : w.2.Answered ending outcome made (dispatchAlone factory w request).2)
      (hrest : Tally factory (dispatchAlone factory w request) deeds endings rest) :
      Tally factory w (.call request :: deeds) (ending :: endings) (made ++ rest)
  | other {w : Env × Switchboard η} {deed : RouterDeed η} {deeds : List (RouterDeed η)}
      {endings : List Ending} {made : List (Build η)} (hother : deed.isCall = false)
      (hrest : Tally factory (deed.perform factory w) deeds endings made) :
      Tally factory w (deed :: deeds) endings made

/-- No build is under way. -/
def Switchboard.Idle (s : Switchboard η) : Prop :=
  ∀ b ∈ s.builds, b.outcome.isSome = true

variable {factory : HandlerFactory η} {settings : RouterSettings η} {w : Env × Switchboard η}

omit [TenantHandler η] in
theorem Switchboard.Idle.unhindered (h : w.2.Idle) (request : AppRequest) :
    Unhindered w request := by
  rintro t env _ _ k ⟨u, hk, _⟩
  exact absurd (h _ (List.mem_of_getElem? hk)) (by simp only [Option.isSome_none,
    Bool.false_eq_true, not_false_eq_true])

theorem AtWork.dispatchAlone (h : AtWork settings w.2) (request : AppRequest) :
    AtWork settings (dispatchAlone factory w request).2 := by
  -- Whatever the call does next is an event of the router.
  have hproceed : ∀ v : Env × Switchboard η, AtWork settings v.2 →
      AtWork settings (proceed factory w.2.dispatches.length v).2 := by
    intro v hv
    rw [proceed]
    split
    · exact hv.next _ _
    · exact hv.next _ _
  exact Function.Iterate.rec (fun v : Env × Switchboard η => AtWork settings v.2)
    (h.next w.1 (.arrive request)) hproceed _

omit [TenantHandler η] in
/-- The builds that were made for a call have ended. -/
theorem Supplied.ended {r : Router η} {t : Tenant} {env env' : Env} {handler : Option η}
    {made : List (Build η)} (h : Supplied factory r t env handler env' made) :
    ∀ b ∈ made, b.outcome.isSome = true := by
  cases h with
  | registered _ => exact fun b hb => absurd hb List.not_mem_nil
  | cached _ _ => exact fun b hb => absurd hb List.not_mem_nil
  | missing _ _ _ => exact fun b hb => absurd hb List.not_mem_nil
  | built _ _ _ _ =>
      intro b hb
      rw [List.mem_singleton.mp hb]
      rfl
  | failed _ _ _ _ =>
      intro b hb
      rw [List.mem_singleton.mp hb]
      rfl

theorem Served.ended {r : Router η} {env env' : Env} {request : AppRequest} {ending : Ending}
    {outcome : Outcome} {made : List (Build η)}
    (h : Served factory r env request ending outcome env' made) :
    ∀ b ∈ made, b.outcome.isSome = true := by
  cases h with
  | fallback _ _ _ => exact fun b hb => absurd hb List.not_mem_nil
  | notFound _ _ => exact fun b hb => absurd hb List.not_mem_nil
  | unavailable _ hsupplied => exact hsupplied.ended
  | told _ hsupplied _ _ => exact hsupplied.ended

/-- Whatever is done between two calls, no build is started and nothing is
    counted. -/
theorem RouterDeed.perform_other (w : Env × Switchboard η) {deed : RouterDeed η}
    (hother : deed.isCall = false) :
    (deed.perform factory w).2.builds = w.2.builds ∧
      (deed.perform factory w).2.router.stats = w.2.router.stats := by
  cases deed with
  | call request => exact absurd hother (Ne.symm Bool.false_ne_true)
  | register id handler =>
      cases hregister : w.2.router.register id handler with
      | ok r =>
          rw [perform, next, hregister, Router.register_eq_ok hregister]
          exact ⟨rfl, rfl⟩
      | error f =>
          rw [perform, next, hregister]
          exact ⟨rfl, rfl⟩
  | unregister id => exact ⟨rfl, rfl⟩
  | invalidate id => exact ⟨rfl, rfl⟩
  | outside change => exact ⟨rfl, rfl⟩

theorem AtWork.perform (h : AtWork settings w.2) (deed : RouterDeed η) :
    AtWork settings (deed.perform factory w).2 := by
  cases deed with
  | call request => exact h.dispatchAlone request
  | register id handler => exact h.next w.1 (.register id handler)
  | unregister id => exact h.next w.1 (.unregister id)
  | invalidate id => exact h.next w.1 (.invalidate id)
  | outside change => exact h

/-- Every call is answered, since none leaves a build under way. -/
theorem AtWork.exists_tally (factory : HandlerFactory η) (h : AtWork settings w.2)
    (hidle : w.2.Idle) (deeds : List (RouterDeed η)) :
    ∃ endings made, Tally factory w deeds endings made := by
  -- The induction is on the deeds; both hypotheses hold again after each of them.
  induction deeds generalizing w with
  | nil => exact ⟨[], [], .nil⟩
  | cons deed deeds ih =>
      cases hcall : deed.isCall with
      | false =>
          have hidle' : (deed.perform factory w).2.Idle := by
            rw [Idle, (RouterDeed.perform_other w hcall).1]
            exact hidle
          rcases ih (h.perform deed) hidle' with ⟨endings, made, htally⟩
          exact ⟨endings, made, .other hcall htally⟩
      | true =>
          cases deed with
          | call request =>
              rcases served_alone factory h.linked (hidle.unhindered request) with
                ⟨ending, outcome, made, hserved, hanswered⟩
              have hidle' : (Switchboard.dispatchAlone factory w request).2.Idle := by
                rw [Idle, hanswered.builds]
                exact List.forall_mem_append.mpr ⟨hidle, hserved.ended⟩
              rcases ih (h.dispatchAlone request) hidle' with ⟨endings, rest, htally⟩
              exact ⟨_, _, .call hserved hanswered htally⟩
          | _ => exact absurd hcall Bool.false_ne_true

namespace Tally

variable {deeds : List (RouterDeed η)} {endings : List Ending} {made : List (Build η)}

/-- One ending for every call. -/
theorem length_endings (h : Tally factory w deeds endings made) :
    endings.length = deeds.countP RouterDeed.isCall := by
  induction h with
  | nil => rfl
  | call _ _ _ ih => rw [List.length_cons, ih, List.countP_cons_of_pos rfl]
  | other hother _ ih =>
      rw [ih, List.countP_cons_of_neg (by rw [hother]; exact Bool.false_ne_true)]

/-- What is built is kept. -/
theorem builds (h : Tally factory w deeds endings made) :
    (serve factory w deeds).2.builds = w.2.builds ++ made := by
  induction h with
  | nil => exact (List.append_nil _).symm
  | call _ hanswered _ ih =>
      rw [serve, List.foldl_cons]
      -- The induction hypothesis starts from what this call has left.
      refine ih.trans ?_
      rw [hanswered.builds, List.append_assoc]
  | other hother _ ih =>
      rw [serve, List.foldl_cons]
      refine ih.trans ?_
      rw [(RouterDeed.perform_other _ hother).1]

/-- Every call is counted under its ending. -/
theorem stats (h : Tally factory w deeds endings made) :
    (serve factory w deeds).2.router.stats = w.2.router.stats.plus endings made := by
  induction h with
  | nil => rfl
  | call _ hanswered _ ih =>
      rw [serve, List.foldl_cons]
      refine ih.trans ?_
      rw [hanswered.stats]
      exact RouterStats.plus_cons _ _ _ _ _
  | other hother _ ih =>
      rw [serve, List.foldl_cons]
      refine ih.trans ?_
      rw [(RouterDeed.perform_other _ hother).2]

end Tally

end Serving

/-- No call has another ending. -/
theorem Ending.count_add (endings : List Ending) :
    endings.count .dispatched + endings.count .notFound + endings.count .fallback +
        endings.count .unavailable + endings.count .refused = endings.length := by
  induction endings with
  | nil => rfl
  | cons ending endings ih =>
      -- The first call is counted under one of the five endings.
      have hone : (if ending == .dispatched then 1 else 0) +
          (if ending == .notFound then 1 else 0) + (if ending == .fallback then 1 else 0) +
          (if ending == .unavailable then 1 else 0) +
          (if ending == .refused then 1 else 0) = 1 := by
        cases ending <;> rfl
      simp only [List.count_cons, List.length_cons]
      omega

namespace Router

variable [TenantHandler η] {settings : RouterSettings η} {r : Router η}

open Switchboard

/-- Whatever has happened to a router, a call that nobody interrupts is answered
    in one of the ways of `Served`, unless a build of its tenant is in the way
    for which it would have to wait. A request that is handed to hooks and
    handler of a tenant carries that tenant. The fallback, the hooks in their
    order and whether handlers can be built are those with which the router was
    set up, and every build that gave a handler is counted.

    And after any number of calls, one after the other, each counter is the
    number of calls with its ending. Together they make up all calls but those
    that a hook has refused. The counter of builds is the number of times the
    factory gave a handler. -/
theorem calls_add_up (hnew : new settings = .ok r) (factory : HandlerFactory η) (env : Env) :
    (∀ turns w, r.work env turns = w →
      (w.2.router.fallback = settings.fallback ∧ w.2.router.hooks = settings.hooks ∧
        w.2.router.builds = settings.builds ∧
        w.2.router.stats.builds = w.2.builds.countP Build.gave) ∧
      ∀ request,
        (Unhindered w request → ∃ ending outcome made,
          Served factory w.2.router w.1 request ending outcome (dispatchAlone factory w request).1
              made ∧
            w.2.Answered ending outcome made (dispatchAlone factory w request).2) ∧
        (¬Unhindered w request → ∃ t env' built locks, w.1.resolve request = (some t, env') ∧
          dispatchAlone factory w request =
            (env', (w.2.withRouter { w.2.router with built, locks }).calling
              (.waiting t (AppRequest.setTenant request t))))) ∧
    ∀ deeds, ∃ endings made, Tally factory (env, { router := r }) deeds endings made ∧
      endings.length = deeds.countP RouterDeed.isCall ∧
      ∀ w, serve factory (env, { router := r }) deeds = w →
        w.2.builds = made ∧
        w.2.router.stats.dispatched = endings.count .dispatched ∧
        w.2.router.stats.notFound = endings.count .notFound ∧
        w.2.router.stats.fallback = endings.count .fallback ∧
        w.2.router.stats.unavailable = endings.count .unavailable ∧
        w.2.router.stats.dispatched + w.2.router.stats.notFound + w.2.router.stats.fallback +
            w.2.router.stats.unavailable + endings.count .refused =
          deeds.countP RouterDeed.isCall ∧
        w.2.router.stats.builds = made.countP Build.gave := by
  refine ⟨?_, fun deeds => ?_⟩
  · -- A call after any turns: the invariant that they keep says how it ends.
    rintro turns w rfl
    have hwork := atWork_work hnew env turns
    exact ⟨⟨hwork.fallback, hwork.hooks, hwork.able, hwork.counted⟩, fun request =>
      ⟨served_alone factory hwork.linked, waits_alone factory hwork.linked⟩⟩
  · -- Calls one after the other: their tally holds by induction, and the counters are read off its
    -- end.
    have hstart := AtWork.of_new hnew env
    have hidle : ({ router := r } : Switchboard η).Idle := fun b hb => absurd hb List.not_mem_nil
    have hstats : r.stats = {} := by
      rcases bind_eq_ok_iff.mp hnew with ⟨_, _, hr⟩
      rw [← Except.ok.inj hr]
    rcases AtWork.exists_tally (w := (env, { router := r })) factory hstart hidle deeds with
      ⟨endings, made, htally⟩
    refine ⟨endings, made, htally, htally.length_endings, ?_⟩
    rintro w rfl
    have hcounts : (serve factory (env, { router := r }) deeds).2.router.stats =
        ({} : RouterStats).plus endings made := by
      rw [htally.stats, hstats]
    have hsum := Ending.count_add endings
    rw [htally.length_endings] at hsum
    rw [hcounts]
    simp only [RouterStats.plus, Nat.zero_add, true_and, and_true]
    exact ⟨htally.builds, hsum⟩

/-- A factory that makes the same handler for everybody. -/
def acmeFactory : HandlerFactory App := fun _ => pure (.ok acmeApp)

/-- Two requests of the tenant, and between them one of nobody. -/
def acmeDeeds : List (RouterDeed App) :=
  [.call acmeRequest, .call (Http.Request.get "/"), .call acmeRequest]

/-- The first request of the tenant has the handler built, which gets it with
    the tenant attached. -/
theorem calls_add_up_acme :
    new acmeSettings = .ok acmeRouter ∧ Unhindered (acmeRouter.work acmeEnv []) acmeRequest ∧
      (∃ (handler : App) (outcome : Outcome) (env : Env) (made : List (Build App)),
        Served acmeFactory acmeRouter acmeEnv acmeRequest .dispatched outcome
          (dispatchAlone acmeFactory (acmeEnv, { router := acmeRouter }) acmeRequest).1 made ∧
        AppRequest.Carries acmeRecord acmeRequest (AppRequest.setTenant acmeRequest acmeRecord) ∧
        Told acmeRecord (AppRequest.setTenant acmeRequest acmeRecord) handler env acmeRouter.hooks
          .dispatched outcome
          (dispatchAlone acmeFactory (acmeEnv, { router := acmeRouter }) acmeRequest).1) ∧
      ∃ endings made, Tally acmeFactory (acmeEnv, { router := acmeRouter }) acmeDeeds endings made ∧
        endings.count .dispatched = 2 ∧ endings.count .notFound = 1 ∧
        endings.count .refused = 0 ∧ made.countP Build.gave = 1 := by
  have hunhindered : Unhindered (acmeRouter.work acmeEnv []) acmeRequest :=
    Idle.unhindered (fun b hb => absurd hb List.not_mem_nil) acmeRequest
  have hresolve : (acmeEnv.resolve acmeRequest).1 = some acmeRecord := by decide +kernel
  have hfirst : (dispatchAlone acmeFactory (acmeEnv, { router := acmeRouter })
      acmeRequest).2.router.stats = { dispatched := 1, builds := 1 } := by decide +kernel
  have hstats : (serve acmeFactory (acmeEnv, { router := acmeRouter }) acmeDeeds).2.router.stats =
      { dispatched := 2, notFound := 1, builds := 1 } := by decide +kernel
  rcases calls_add_up new_acme acmeFactory acmeEnv with ⟨hcall, hcalls⟩
  rcases ((hcall [] _ rfl).2 acmeRequest).1 hunhindered with
    ⟨ending, outcome, made, hserved, hanswered⟩
  -- The only ending that is counted so is that of a call which was handed over.
  have hending : ending = .dispatched := by
    have hdispatched := congrArg RouterStats.dispatched (hanswered.stats.symm.trans hfirst)
    cases ending with
    | dispatched => rfl
    | _ => exact absurd hdispatched Nat.zero_ne_one
  subst hending
  rcases hcalls acmeDeeds with ⟨endings, made', htally, hlength, hserve⟩
  rcases hserve _ rfl with ⟨_, hdispatched, hnotFound, _, _, hsum, hbuilds⟩
  rw [hstats] at hdispatched hnotFound hsum hbuilds
  refine ⟨new_acme, hunhindered, ?_, endings, made', htally, hdispatched.symm, hnotFound.symm, ?_,
    hbuilds.symm⟩
  · cases hserved with
    | @told t handler _ _ env₁ env₂ _ _ hresolved hsupplied hcarries htold =>
        have ht : t = acmeRecord := by
          have hsame : (acmeEnv.resolve acmeRequest).1 = some t := congrArg Prod.fst hresolved
          rw [hresolve] at hsame
          exact (Option.some.inj hsame).symm
        subst ht
        exact ⟨handler, outcome, env₂, made, .told hresolved hsupplied hcarries htold, hcarries,
          htold⟩
  · have hthree : acmeDeeds.countP RouterDeed.isCall = 3 := rfl
    simp only [hthree] at hsum
    omega

end Router

end Multitenancy
