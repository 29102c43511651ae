import Mathlib.Logic.Function.Basic
import Multitenancy.Proofs.Router.Sharing
import Multitenancy.Proofs.Session
/-!
# Registered Handlers Keep Their Sessions Apart

At every moment the registered handlers of different tenants use different
session cookies.

The cookies are checked twice, over different collections: when the router is
built, over all handlers that were registered with the builder, and when a
handler is registered later, over the handlers of the others and the new one.
Each time the check is passed exactly when the handlers that are registered
after it keep apart. `check_eq_ok_iff_isolated` says this once for both, of any
list that has the cookies of these handlers.

Registering is written down twice. `Router.register` gives a router or a fault
and no router; that a refused handler changes nothing is then a matter of its
type. `registerInPlace` is the same with the router as a place in which every
assignment stays. There is no difference, because the check comes first.

## Main definitions

* `Router.Isolated`: Handlers of different tenants use different cookies.
* `Router.registerInPlace`: Registering, one assignment after the other.
* `Router.Guarded`: Sessions are kept apart by a router.
* `Router.Admits`: What registering a handler does.

## Theorems

* `Router.new_isOk_iff`: When a router can be built.
* `Router.register_isOk_iff`: When a handler can be registered.
* `Router.run_registerInPlace`: Assigning one by one comes to the same.
* `Router.Guarded.next`: Every event keeps sessions apart.
* `Router.sessions_isolated`: Sessions are kept apart throughout.
-/

namespace Multitenancy

variable {η : Type} [TenantHandler η]

namespace Router

/-- Handlers of different tenants use different session cookies. -/
def Isolated (default : String) (handlers : String → Option η) : Prop :=
  ∀ a b g h, handlers a = some g → handlers b = some h → a ≠ b →
    Session.effectiveCookie default (TenantHandler.sessionCookie? g) ≠
      Session.effectiveCookie default (TenantHandler.sessionCookie? h)

/-! ### The two checks -/

/-- A check over the cookies of some handlers is passed exactly when these
    handlers keep apart. -/
theorem check_eq_ok_iff_isolated {default : String} {l : List (String × Option String)}
    {handlers : String → Option η} (hl : ∀ id configured, (id, configured) ∈ l ↔
      ∃ h, handlers id = some h ∧ TenantHandler.sessionCookie? h = configured) :
    Session.check default l = .ok () ↔ Isolated default handlers := by
  rw [Session.check_eq_ok_iff]
  -- `hl` turns pairs of the list into registered handlers and back.
  constructor
  · intro h a b g k hg hk hne
    exact h (a, _) ((hl a _).mpr ⟨g, hg, rfl⟩) (b, _) ((hl b _).mpr ⟨k, hk, rfl⟩) hne
  · rintro h ⟨a, ca⟩ ha ⟨b, cb⟩ hb hne
    rcases (hl a ca).mp ha with ⟨g, hg, rfl⟩
    rcases (hl b cb).mp hb with ⟨k, hk, rfl⟩
    exact h a b g k hg hk hne

theorem mem_cookies_iff {m : Assoc String η} (h : m.keys.Nodup) (id : String)
    (configured : Option String) :
    (id, configured) ∈ cookies m ↔
      ∃ k, m.get? id = some k ∧ TenantHandler.sessionCookie? k = configured := by
  simp only [cookies, List.mem_map, Prod.mk.injEq, Prod.exists]
  constructor
  · rintro ⟨_, k, hmem, rfl, hcookie⟩
    exact ⟨k, (Assoc.mem_iff_get? h _ k).mp hmem, hcookie⟩
  · rintro ⟨k, hget, hcookie⟩
    exact ⟨id, k, (Assoc.mem_iff_get? h id k).mpr hget, rfl, hcookie⟩

/-- The cookies of the others and of a new handler are those of the handlers
    with the new one in place of the tenant's old one. -/
theorem mem_cookies_update_iff {m : Assoc String η} (h : m.keys.Nodup) (id : String) (handler : η)
    (other : String) (configured : Option String) :
    (other, configured) ∈ cookies (m.erase id) ++ [(id, TenantHandler.sessionCookie? handler)] ↔
      ∃ k, Function.update m.get? id (some handler) other = some k ∧
        TenantHandler.sessionCookie? k = configured := by
  rw [List.mem_append, mem_cookies_iff (Assoc.nodup_erase h id), List.mem_singleton,
    Prod.mk.injEq, Assoc.get?_erase]
  -- Of the tenant itself only the new handler is in the list.
  by_cases hid : other = id
  · subst hid
    simp only [beq_self_eq_true, if_true, reduceCtorEq, false_and, exists_false, true_and,
      false_or, Function.update_self, Option.some.injEq, exists_eq_left', eq_comm]
  · have hdiffer : (id == other) = false := beq_eq_false_iff_ne.mpr (Ne.symm hid)
    simp only [hdiffer, Bool.false_eq_true, if_false, hid, false_and, or_false,
      Function.update_of_ne hid]

omit [TenantHandler η] in
theorem get?_insert_eq_update (m : Assoc String η) (id : String) (handler : η) :
    (m.insert id handler).get? = Function.update m.get? id (some handler) := by
  funext other
  rw [Assoc.get?_insert]
  by_cases hid : other = id
  · rw [hid, Function.update_self, if_pos (beq_self_eq_true id)]
  · rw [Function.update_of_ne hid, if_neg (mt eq_of_beq (Ne.symm hid))]

omit [TenantHandler η] in
theorem get?_erase_eq_update (m : Assoc String η) (id : String) :
    (m.erase id).get? = Function.update m.get? id none := by
  funext other
  rw [Assoc.get?_erase]
  by_cases hid : other = id
  · rw [hid, Function.update_self, if_pos (beq_self_eq_true id)]
  · rw [Function.update_of_ne hid, if_neg (mt eq_of_beq (Ne.symm hid))]

/-- With one handler less the others still keep apart. -/
theorem Isolated.update_none {default : String} {handlers : String → Option η}
    (h : Isolated default handlers) (id : String) :
    Isolated default (Function.update handlers id none) := by
  -- Who is still there was there before.
  have hold : ∀ a g, Function.update handlers id none a = some g → handlers a = some g := by
    intro a g hg
    by_cases hid : a = id
    · rw [hid, Function.update_self] at hg
      exact absurd hg (Option.some_ne_none g).symm
    · rwa [Function.update_of_ne hid] at hg
  exact fun a b g k hg hk => h a b g k (hold a g hg) (hold b k hk)

/-- Both checks are all that can go wrong. -/
theorem isOk_check_iff {α : Type} {x : Except Fault Unit} (a : α) :
    (x >>= fun _ => pure a).isOk = true ↔ x = .ok () := by
  cases x with
  | ok u => exact iff_of_true rfl rfl
  | error f =>
      refine iff_of_false Bool.false_ne_true ?_
      simp only [reduceCtorEq, not_false_eq_true]

/-- A router can be built exactly when the last handlers that were registered
    for the tenants keep apart. -/
theorem new_isOk_iff (settings : RouterSettings η) :
    (new settings).isOk = true ↔
      Isolated settings.sessionCookie fun id => settings.handlers.reverse.lookup id := by
  have hlast : (Assoc.ofPairs settings.handlers).get? =
      fun id => settings.handlers.reverse.lookup id := by
    funext id
    exact Assoc.get?_ofPairs settings.handlers id
  rw [new, isOk_check_iff, ← hlast]
  exact check_eq_ok_iff_isolated (mem_cookies_iff (Assoc.nodup_ofPairs settings.handlers))

/-- A handler can be registered exactly when the handlers keep apart with it in
    place of the tenant's old one. -/
theorem register_isOk_iff {r : Router η} (h : r.handlers.keys.Nodup) (id : String) (handler : η) :
    (r.register id handler).isOk = true ↔
      Isolated r.sessionCookie (Function.update r.handlers.get? id (some handler)) := by
  rw [register, isOk_check_iff]
  exact check_eq_ok_iff_isolated (mem_cookies_update_iff h id handler)

/-! ### Registering in place -/

/-- Register a handler in place: the check, then the built handlers, then the
    registered ones. -/
def registerInPlace (id : String) (handler : η) : ExceptT Fault (StateM (Router η)) Unit := do
  let r ← get
  ofExcept (Session.check r.sessionCookie
    (cookies (r.handlers.erase id) ++ [(id, TenantHandler.sessionCookie? handler)]))
  modify fun r => { r with built := (r.built.delete id).2 }
  modify fun r => { r with handlers := r.handlers.insert id handler }

/-- Assigning one by one comes to the same, and a refused handler has changed
    nothing. -/
theorem run_registerInPlace (r : Router η) (id : String) (handler : η) :
    (registerInPlace id handler).run.run r =
      ((r.register id handler).map fun _ => (), (r.register id handler).toOption.getD r) := by
  rw [registerInPlace, register, run_bind, run_get]
  simp only [run_bind, run_ofExcept]
  cases Session.check r.sessionCookie
      (cookies (r.handlers.erase id) ++ [(id, TenantHandler.sessionCookie? handler)]) <;> rfl

end Router

/-! ### Histories -/

namespace Router

variable {settings : RouterSettings η} {r : Router η}

/-- Every tenant has one registered handler at most, and their sessions are
    kept apart. -/
structure Guarded (default : String) (r : Router η) : Prop where
  cookie : r.sessionCookie = default
  keys : r.handlers.keys.Nodup
  isolated : Isolated default r.handlers.get?

/-- Every event keeps sessions apart. -/
theorem Guarded.next {default : String} {s : Switchboard η} (h : s.router.Guarded default)
    (env : Env) (e : RouterEvent η) : (s.next env e).2.router.Guarded default := by
  -- Most events leave registered handlers and default alone.
  rcases s.next_steady env e with hsteady | ⟨id, handler, _, hregister⟩ | ⟨id, _, hrouter⟩
  · exact ⟨hsteady.sessionCookie.trans h.cookie, hsteady.handlers ▸ h.keys,
      hsteady.handlers ▸ h.isolated⟩
  · -- An admitted handler has passed the check, which is exactly isolation after it.
    have hok := (register_isOk_iff h.keys id handler).mp (by rw [hregister]; rfl)
    rw [register_eq_ok hregister]
    refine ⟨h.cookie, Assoc.nodup_insert h.keys id handler, ?_⟩
    rw [get?_insert_eq_update, ← h.cookie]
    exact hok
  · rw [hrouter]
    refine ⟨h.cookie, Assoc.nodup_erase h.keys id, ?_⟩
    rw [unregister, get?_erase_eq_update]
    exact h.isolated.update_none id

theorem guarded_new (h : new settings = .ok r) : r.Guarded settings.sessionCookie := by
  have hok := (new_isOk_iff settings).mp (by rw [h]; rfl)
  rcases bind_eq_ok_iff.mp h with ⟨_, _, hr⟩
  rw [← Except.ok.inj hr]
  refine ⟨rfl, Assoc.nodup_ofPairs settings.handlers, ?_⟩
  intro a b g k hg hk
  rw [Assoc.get?_ofPairs] at hg hk
  exact hok a b g k hg hk

theorem guarded_run (h : new settings = .ok r) (env : Env) (history : List (RouterEvent η)) :
    (r.run env history).2.router.Guarded settings.sessionCookie := by
  refine prefix_induction (P := fun p => (r.run env p).2.router.Guarded settings.sessionCookie)
    List.nil_prefix (guarded_new h) fun p e _ _ hguarded => ?_
  rw [run_concat]
  exact hguarded.next _ e

/-- What registering a handler does: it is refused exactly when sessions would
    not be kept apart any more, and then nothing has changed. Otherwise it
    replaces any other handler of the tenant. -/
structure Admits (default : String) (r : Router η) (id : String) (handler : η) : Prop where
  refused_iff : ((registerInPlace id handler).run.run r).1.isOk = false ↔
    ¬Isolated default (Function.update r.handlers.get? id (some handler))
  of_refused : ((registerInPlace id handler).run.run r).1.isOk = false →
    ((registerInPlace id handler).run.run r).2 = r
  of_admitted : ((registerInPlace id handler).run.run r).1.isOk = true →
    ((registerInPlace id handler).run.run r).2.handlers.get? =
      Function.update r.handlers.get? id (some handler)

theorem Guarded.admits {default : String} (h : r.Guarded default) (id : String) (handler : η) :
    r.Admits default id handler := by
  have hiff := register_isOk_iff h.keys id handler
  rw [h.cookie] at hiff
  -- What registering leaves is read off the router or the fault that it gives.
  cases hregister : r.register id handler with
  | error f =>
      have hrun : (registerInPlace id handler).run.run r = (.error f, r) := by
        rw [run_registerInPlace, hregister]
        rfl
      rw [hregister] at hiff
      refine ⟨?_, fun _ => by rw [hrun], fun hok => ?_⟩
      · rw [hrun]
        exact iff_of_true rfl fun hisolated => Bool.false_ne_true (hiff.mpr hisolated)
      · rw [hrun] at hok
        exact absurd hok Bool.false_ne_true
  | ok r' =>
      have hrun : (registerInPlace id handler).run.run r = (.ok (), r') := by
        rw [run_registerInPlace, hregister]
        rfl
      rw [hregister] at hiff
      refine ⟨?_, fun hrefused => ?_, fun _ => ?_⟩
      · rw [hrun]
        exact iff_of_false Bool.noConfusion (not_not_intro (hiff.mp rfl))
      · rw [hrun] at hrefused
        exact Bool.noConfusion hrefused
      · rw [hrun, register_eq_ok hregister]
        exact get?_insert_eq_update r.handlers id handler

/-- A router can be built exactly when the last handlers that were registered
    with its builder keep their sessions apart. From then on, whatever happens,
    the registered handlers do. A handler can be registered exactly when they
    still do with it in place of its tenant's old one; a refused handler leaves
    everything as it was, an admitted one and one that is taken out change
    nothing for the other tenants. -/
theorem sessions_isolated (settings : RouterSettings η) :
    ((new settings).isOk = false ↔
      ¬Isolated settings.sessionCookie fun id => settings.handlers.reverse.lookup id) ∧
    ∀ r, new settings = .ok r →
      (r.handlers.get? = fun id => settings.handlers.reverse.lookup id) ∧
      ∀ env history, Isolated settings.sessionCookie (r.run env history).2.router.handlers.get? ∧
        ∀ id,
          (r.run env (history ++ [.unregister id])).2.router.handlers.get? =
            Function.update (r.run env history).2.router.handlers.get? id none ∧
          ∀ handler, (r.run env history).2.router.Admits settings.sessionCookie id handler ∧
            (r.run env (history ++ [.register id handler])).2 =
              (r.run env history).2.withRouter
                ((registerInPlace id handler).run.run (r.run env history).2.router).2 := by
  refine ⟨?_, fun r hnew => ⟨?_, fun env history => ?_⟩⟩
  · -- The check of a new router is over the pairs with the last handler of each tenant.
    rw [← new_isOk_iff, Bool.not_eq_true]
  · rcases bind_eq_ok_iff.mp hnew with ⟨_, _, hr⟩
    rw [← Except.ok.inj hr]
    funext id
    exact Assoc.get?_ofPairs settings.handlers id
  · -- Later on the invariant holds of whatever history has happened.
    have hguarded := guarded_run hnew env history
    refine ⟨hguarded.isolated, fun id => ⟨?_, fun handler => ⟨hguarded.admits id handler, ?_⟩⟩⟩
    · rw [run_concat]
      exact get?_erase_eq_update _ id
    · rw [run_concat, run_registerInPlace, Switchboard.next]
      cases (r.run env history).2.router.register id handler <;> rfl

/-- A builder with which a tenant is registered twice, first with the cookie
    that the other one uses by default. -/
def globexSettings : RouterSettings App where
  handlers := [("acme", acmeApp), ("globex", acmeApp),
    ("globex", { acmeApp with sessionCookie := some "globex_sid" })]

/-- The router that is built. -/
def globexRouter : Router App where
  handlers := [("acme", acmeApp), ("globex", { acmeApp with sessionCookie := some "globex_sid" })]
  built := .empty 128 (.ofSeconds 300)
  sessionCookie := Session.defaultCookie
  builds := false

/-- A handler of a third tenant, whose cookie is the same once it is trimmed. -/
def blankedApp : App := { acmeApp with sessionCookie := some " globex_sid " }

/-- The router can be built, since only the last handler of a tenant counts. The
    third tenant is kept out of it and leaves it as it was. -/
theorem sessions_isolated_globex :
    new globexSettings = .ok globexRouter ∧
      Isolated Session.defaultCookie globexRouter.handlers.get? ∧
      ((registerInPlace "initech" blankedApp).run.run globexRouter).1.isOk = false ∧
      ((registerInPlace "initech" blankedApp).run.run globexRouter).2 = globexRouter := by
  have hcheck : Session.check globexSettings.sessionCookie
      (cookies (Assoc.ofPairs globexSettings.handlers)) = .ok () :=
    (Session.check_eq_ok_iff _).mpr (by unfold Session.Isolated; decide +kernel)
  have hnew : new globexSettings = .ok globexRouter := by
    rw [new, hcheck]
    rfl
  rcases ((sessions_isolated globexSettings).2 globexRouter hnew).2 acmeEnv [] with
    ⟨hisolated, hlater⟩
  have hadmits := ((hlater "initech").2 blankedApp).1
  -- The handlers of these two would have one cookie.
  have hrefused := hadmits.refused_iff.mpr fun h => h "globex" "initech" _ _
    (by rw [Function.update_of_ne (by decide)]; rfl) (Function.update_self ..) (by decide)
    (by decide +kernel)
  exact ⟨hnew, hisolated, hrefused, hadmits.of_refused hrefused⟩

end Router

end Multitenancy
