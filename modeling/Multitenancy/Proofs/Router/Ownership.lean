import Multitenancy.Proofs.Router.Sharing
import Multitenancy.Proofs.Text.Assoc
/-!
# To Each Tenant Its Own Handler

A request of a tenant is handed to a handler of that tenant, and says so.

Three things are followed through a history, each from where it begins to the
moment at which a dispatch hands its request over. The request is the one that
arrived, with the tenant attached that the resolver found for it; attaching
replaces whatever was there, so a context that the request came with does not
survive. A registered handler is kept under the id it was registered with. A
built handler is the outcome of a build, and both the cache and the dispatch
that waits for it know a build by the tenant it was started for.

## Main definitions

* `Dispatch.attached?`: The tenant of a dispatch and its request.
* `Router.Registered`: A handler was registered for a tenant.
* `Router.Attached`: A tenant was resolved for a request that arrived.

## Theorems

* `AppRequest.tenant?_setTenant`: The tenant attached last is there.
* `Shift.attached`: A dispatch keeps its tenant and its request.
* `Shift.gave`: A build gives a handler when it ends.
* `Switchboard.next_handlers`: A handler is registered by an event of its own.
* `Router.own_handler`: Requests are handed to handlers of their tenants.
-/

namespace Multitenancy

namespace AppRequest

/-- The tenant attached last is there, whatever was attached before. -/
theorem tenant?_setTenant (request : AppRequest) (t : Tenant) :
    tenant? (setTenant request t) = some t := rfl

end AppRequest

variable {η : Type}

/-! ### The tenant of a dispatch -/

namespace Dispatch

/-- The tenant that was resolved for a dispatch, and the request to which it is
    attached. -/
def attached? : Dispatch η → Option (Tenant × AppRequest)
  | .resolved t request | .waiting t request | .building t request _ => some (t, request)
  | .equipped t request _ _ => some (t, request)
  | .arrived _ | .done _ | .dropped => none

end Dispatch

section Attaching

variable {now : Nat} {s s' : Switchboard η} {e : RouterEvent η}

/-- A walk keeps tenant and request, but for the step at which they are
    attached. -/
theorem Walk.attached {stage stage' : Dispatch η} (h : Walk now s stage stage')
    {p : Tenant × AppRequest} (hp : stage'.attached? = some p) :
    stage.attached? = some p ∨ ∃ request, stage = .arrived request := by
  cases h with
  | resolve => exact Or.inr ⟨_, rfl⟩
  | astray => exact Or.inr ⟨_, rfl⟩
  | seek _ => exact Or.inl hp
  | collect _ => exact Or.inl hp
  | tell => exact Or.inl hp
  | stay => exact Or.inl hp
  -- The last three have ended the dispatch, and then nothing is attached.
  | unable _ => exact absurd hp (by simp only [Dispatch.attached?, reduceCtorEq, not_false_eq_true])
  | fail _ => exact absurd hp (by simp only [Dispatch.attached?, reduceCtorEq, not_false_eq_true])
  | handled => exact absurd hp (by simp only [Dispatch.attached?, reduceCtorEq, not_false_eq_true])

/-- A dispatch has its tenant and its request from before, or it has just taken
    its first step. -/
theorem Shift.attached (h : Shift now s s' e) {n : Nat} {stage' : Dispatch η}
    {p : Tenant × AppRequest} (hn : s'.dispatches[n]? = some stage')
    (hp : stage'.attached? = some p) :
    (∃ stage, s.dispatches[n]? = some stage ∧ stage.attached? = some p) ∨
      e = .step n ∧ ∃ request, s.dispatches[n]? = some (.arrived request) := by
  rcases h.stage_origin hn with hold | ⟨_, rfl⟩ | ⟨stage, hstage, hmove⟩
  · exact Or.inl ⟨stage', hold, hp⟩
  · exact absurd hp (Option.some_ne_none p).symm
  · cases hmove with
    | walk hwalk =>
        rcases hwalk.attached hp with hkept | ⟨request, rfl⟩
        · exact Or.inl ⟨stage, hstage, hkept⟩
        · exact Or.inr ⟨rfl, request, hstage⟩
    -- Between resolving and handing over tenant and request are passed on.
    | wait => exact Or.inl ⟨_, hstage, hp⟩
    | meet _ => exact Or.inl ⟨_, hstage, hp⟩
    | build => exact Or.inl ⟨_, hstage, hp⟩
    | leave => exact absurd hp (Option.some_ne_none p).symm

/-- A build that has given a handler has given it before, or has just ended. -/
theorem Shift.gave (h : Shift now s s' e) {k : Nat} {id : String} {handler : η}
    (hgave : s'.Gave k id handler) :
    s.Gave k id handler ∨ e = .finish k (.ok handler) ∧ s.Runs k id := by
  rcases hgave with ⟨t, hk, hid⟩
  cases h.onBuilds with
  | same hbuilds => exact Or.inl ⟨t, hbuilds ▸ hk, hid⟩
  | started _ hbuilds =>
      rw [hbuilds, getElem?_concat_some_iff] at hk
      rcases hk with hk | ⟨_, hk⟩
      · exact Or.inl ⟨t, hk, hid⟩
      · -- A build that has just been started has given nothing.
        rw [Build.mk.injEq] at hk
        exact absurd hk.2 (by simp only [reduceCtorEq, not_false_eq_true])
  | ended he hbuild hbuilds =>
      rw [hbuilds, getElem?_set_some_iff hbuild] at hk
      rcases hk with ⟨_, hk⟩ | ⟨rfl, hk⟩
      · exact Or.inl ⟨t, hk, hid⟩
      · rw [Build.mk.injEq, Option.some.injEq] at hk
        rcases hk with ⟨rfl, rfl⟩
        exact Or.inr ⟨he, t, hbuild, hid⟩

end Attaching

namespace Switchboard

variable [TenantHandler η] {env : Env} {s : Switchboard η} {n : Nat}

/-- Resolving attaches the tenant that the resolver finds; without a tenant the
    dispatch is over at once. -/
theorem attached_resolve {request : AppRequest} {p : Tenant × AppRequest}
    (hp : (s.resolve env request).2.2.attached? = some p) :
    (env.resolve request).1 = some p.1 ∧ p.2 = AppRequest.setTenant request p.1 := by
  rw [resolve] at hp
  rcases henv : env.resolve request with ⟨tenant, env'⟩
  rw [henv] at hp
  cases tenant with
  | some t =>
      simp only [Dispatch.attached?, Option.some.injEq] at hp
      rw [← hp]
      exact ⟨rfl, rfl⟩
  -- A fallback and an error both end the dispatch, so `hp` is about nothing.
  | none =>
      cases hfallback : s.router.fallback with
      | some handler =>
          rw [hfallback] at hp
          exact absurd hp (Option.some_ne_none p).symm
      | none =>
          rw [hfallback] at hp
          exact absurd hp (Option.some_ne_none p).symm

theorem next_resolve {request : AppRequest} {stage : Dispatch η} {p : Tenant × AppRequest}
    (h : s.dispatches[n]? = some (.arrived request))
    (hn : (s.next env (.step n)).2.dispatches[n]? = some stage) (hp : stage.attached? = some p) :
    (env.resolve request).1 = some p.1 ∧ p.2 = AppRequest.setTenant request p.1 := by
  rw [next_step h, List.getElem?_set_self'] at hn
  rcases Option.map_eq_some_iff.mp hn with ⟨_, _, rfl⟩
  exact attached_resolve hp

/-! ### Registered handlers -/

/-- A handler that is registered was registered before, or has just been let
    in. -/
theorem next_handlers {e : RouterEvent η} {id : String} {handler : η}
    (h : (s.next env e).2.router.handlers.get? id = some handler) :
    s.router.handlers.get? id = some handler ∨
      e = .register id handler ∧ (s.router.register id handler).isOk = true := by
  -- Nothing registered has changed, or one handler came in, or one was taken out.
  rcases next_steady env s e with hsteady | ⟨id', handler', rfl, hregister⟩ | ⟨id', rfl, hrouter⟩
  · rw [hsteady.handlers] at h
    exact Or.inl h
  · rw [Router.register_eq_ok hregister] at h
    simp only [Assoc.get?_insert] at h
    by_cases hid : id' == id
    · rw [if_pos hid, Option.some.injEq] at h
      rw [beq_iff_eq] at hid
      subst hid h
      exact Or.inr ⟨rfl, by rw [hregister]; rfl⟩
    · rw [if_neg hid] at h
      exact Or.inl h
  · rw [hrouter] at h
    simp only [Router.unregister, Assoc.get?_erase] at h
    split at h
    · exact absurd h (by simp only [reduceCtorEq, not_false_eq_true])
    · exact Or.inl h

end Switchboard

/-! ### Histories -/

namespace Router

variable [TenantHandler η] {settings : RouterSettings η} {r : Router η} {env : Env}

/-- A handler was registered for a tenant, with the router or by an event that
    let it in. -/
def Registered (settings : RouterSettings η) (r : Router η) (env : Env)
    (history : List (RouterEvent η)) (id : String) (handler : η) : Prop :=
  (id, handler) ∈ settings.handlers ∨
    ∃ before, before ++ [.register id handler] <+: history ∧
      ((r.run env before).2.router.register id handler).isOk = true

/-- At a step of a dispatch the resolver found a tenant for the request that
    had arrived, and it was attached to the request. -/
def Attached (r : Router η) (env : Env) (history : List (RouterEvent η)) (n : Nat) (t : Tenant)
    (request : AppRequest) : Prop :=
  ∃ before incoming, before ++ [.step n] <+: history ∧
    (r.run env before).2.dispatches[n]? = some (.arrived incoming) ∧
    ((r.run env before).1.resolve incoming).1 = some t ∧
    request = AppRequest.setTenant incoming t

/-- A handler was returned by a build that was started for a tenant. -/
def Returned (r : Router η) (env : Env) (history : List (RouterEvent η)) (id : String)
    (c : Built η) : Prop :=
  ∃ before, before ++ [.finish c.build (.ok c.handler)] <+: history ∧
    (r.run env before).2.Runs c.build id

theorem Registered.concat {history : List (RouterEvent η)} {id : String} {handler : η}
    (h : Registered settings r env history id handler) (e : RouterEvent η) :
    Registered settings r env (history ++ [e]) id handler := by
  rcases h with hfirst | ⟨before, hbefore, hok⟩
  · exact Or.inl hfirst
  · exact Or.inr ⟨before, hbefore.trans (List.prefix_append _ _), hok⟩

theorem Attached.concat {history : List (RouterEvent η)} {n : Nat} {t : Tenant}
    {request : AppRequest} (h : r.Attached env history n t request) (e : RouterEvent η) :
    r.Attached env (history ++ [e]) n t request := by
  rcases h with ⟨before, incoming, hbefore, hrest⟩
  exact ⟨before, incoming, hbefore.trans (List.prefix_append _ _), hrest⟩

theorem Returned.concat {history : List (RouterEvent η)} {id : String} {c : Built η}
    (h : r.Returned env history id c) (e : RouterEvent η) :
    r.Returned env (history ++ [e]) id c := by
  rcases h with ⟨before, hbefore, hruns⟩
  exact ⟨before, hbefore.trans (List.prefix_append _ _), hruns⟩

/-- Whatever tenant and request a dispatch has, the one was resolved for the
    other. -/
theorem attached_run (r : Router η) (env : Env) (history : List (RouterEvent η)) {n : Nat}
    {stage : Dispatch η} {p : Tenant × AppRequest}
    (hn : (r.run env history).2.dispatches[n]? = some stage) (hp : stage.attached? = some p) :
    r.Attached env history n p.1 p.2 := by
  refine prefix_induction (P := fun h => ∀ n stage p,
    (r.run env h).2.dispatches[n]? = some stage → stage.attached? = some p →
      r.Attached env h n p.1 p.2) List.nil_prefix ?_ ?_ n stage p hn hp
  · intro n stage p hn
    exact absurd hn (getElem?_dispatches_nil r env n stage)
  · intro h e _ _ ih n stage p hn hp
    -- The pair was there before the last event, or this event has resolved the request.
    rcases (shift_concat r env h e).attached hn hp with
      ⟨old, hold, hpold⟩ | ⟨rfl, incoming, harrived⟩
    · exact (ih n old p hold hpold).concat e
    · rw [run_concat] at hn
      rcases Switchboard.next_resolve harrived hn hp with ⟨hresolve, hattach⟩
      exact ⟨h, incoming, List.prefix_refl _, harrived, hresolve, hattach⟩

theorem registered_run (hnew : new settings = .ok r) (env : Env)
    (history : List (RouterEvent η)) {id : String} {handler : η}
    (h : (r.run env history).2.router.handlers.get? id = some handler) :
    Registered settings r env history id handler := by
  refine prefix_induction (P := fun h => ∀ id handler,
    (r.run env h).2.router.handlers.get? id = some handler →
      Registered settings r env h id handler) List.nil_prefix ?_ ?_ id handler h
  · intro id handler hget
    -- At the start there are the handlers of the settings and no others.
    rcases bind_eq_ok_iff.mp hnew with ⟨_, _, hr⟩
    have hhandlers : r.handlers = Assoc.ofPairs settings.handlers := by
      rw [← Except.ok.inj hr]
    have hfirst : r.handlers.get? id = some handler := hget
    rw [hhandlers] at hfirst
    exact Or.inl (Assoc.mem_of_get?_ofPairs hfirst)
  · intro h e _ _ ih id handler hget
    rw [run_concat] at hget
    rcases Switchboard.next_handlers hget with hold | ⟨rfl, hok⟩
    · exact (ih id handler hold).concat e
    · exact Or.inr ⟨h, List.prefix_refl _, hok⟩

theorem returned_run (r : Router η) (env : Env) (history : List (RouterEvent η)) {id : String}
    {c : Built η} (h : (r.run env history).2.Gave c.build id c.handler) :
    r.Returned env history id c := by
  refine prefix_induction (P := fun h => (r.run env h).2.Gave c.build id c.handler →
    r.Returned env h id c) List.nil_prefix ?_ ?_ h
  · rintro ⟨t, hk, _⟩
    rw [builds_nil] at hk
    exact absurd hk (by simp only [List.getElem?_nil, reduceCtorEq, not_false_eq_true])
  · intro h e _ _ ih hgave
    -- An event that is not the end of the build leaves what the build gave.
    rcases (shift_concat r env h e).gave hgave with hold | ⟨rfl, hruns⟩
    · exact (ih hold).concat e
    · exact ⟨h, List.prefix_refl _, hruns⟩

/-- Where a registered handler that a dispatch has comes from. -/
theorem has_registered_run (hnew : new settings = .ok r) (env : Env)
    (history : List (RouterEvent η)) {n : Nat} {t : Tenant} {request : AppRequest} {handler : η}
    {hooks : List TenantHook} (h : (r.run env history).2.dispatches[n]? =
      some (.equipped t request (.registered handler) hooks)) :
    Registered settings r env history t.id handler := by
  refine prefix_induction (P := fun h => ∀ hooks, (r.run env h).2.dispatches[n]? =
    some (.equipped t request (.registered handler) hooks) →
      Registered settings r env h t.id handler) List.nil_prefix ?_ ?_ hooks h
  · intro hooks hn
    exact absurd hn (getElem?_dispatches_nil r env n _)
  · intro h e _ _ ih hooks hn
    -- A registered handler comes from the lookup at which the dispatch found it.
    rcases (shift_concat r env h e).equipped hn with ⟨hooks', hold⟩ | hfound | ⟨k, given, he, _⟩
    · exact (ih hooks' hold).concat e
    · rcases lookup_cases hfound with ⟨handler', he, hget⟩ | ⟨_, _, he, _⟩
      · rw [Found.registered.injEq] at he
        exact (registered_run hnew env h (he ▸ hget)).concat e
      · exact absurd he (by simp only [reduceCtorEq, not_false_eq_true])
    · exact absurd he (by simp only [reduceCtorEq, not_false_eq_true])

/-- When a dispatch hands its request over, the tenant attached to the request
    is the one that the resolver found for it, whatever the request had brought
    with it. The handler was registered under the id of this tenant, or was
    returned by a build that was started for a record with this id. -/
theorem own_handler (hnew : new settings = .ok r) (env : Env) (history : List (RouterEvent η))
    {n : Nat} {t : Tenant} {request : AppRequest} {found : Found η}
    (h : (r.run env history).2.dispatches[n]? = some (.equipped t request found [])) :
    (r.run env (history ++ [.step n])).2.dispatches[n]? = some (.done
        ((TenantHandler.handle found.handler request).run (r.run env history).1).1) ∧
      AppRequest.tenant? request = some t ∧ r.Attached env history n t request ∧
      ((∃ handler, found = .registered handler ∧
          Registered settings r env history t.id handler) ∨
        ∃ c, found = .built c ∧ r.Returned env history t.id c) := by
  -- The pair is traced through the history first; its shape then gives the tenant.
  have hattached : r.Attached env history n t request := attached_run r env history h rfl
  refine ⟨?_, ?_, hattached, ?_⟩
  · have hlt : n < (r.run env history).2.dispatches.length := (List.getElem?_eq_some_iff.mp h).1
    rw [run_concat, Switchboard.next_step h]
    exact List.getElem?_set_self hlt
  · rcases hattached with ⟨_, incoming, _, _, _, rfl⟩
    exact AppRequest.tenant?_setTenant incoming t
  · cases found with
    | registered handler => exact Or.inl ⟨handler, rfl, has_registered_run hnew env history h⟩
    | built c =>
        have hgave := (sourced_run hnew env history).equipped h
        exact Or.inr ⟨c, rfl, returned_run r env history hgave⟩

/-- Another tenant, whose context a request may bring with it. -/
def strangerRecord : Tenant := Tenant.new "stranger" "Stranger" ⟨0, 0⟩

/-- A request of the first tenant, with the other one attached. -/
def strangeRequest : AppRequest := AppRequest.setTenant acmeRequest strangerRecord

/-- It comes in, a handler is built for it, and it is about to be handed
    over. -/
def strangeHistory : List (RouterEvent App) :=
  [.arrive strangeRequest, .step 0, .step 0, .step 0, .finish 0 (.ok acmeApp), .step 0]

/-- The handler of the tenant gets the request without the stranger. -/
theorem own_handler_stranger :
    new acmeSettings = .ok acmeRouter ∧ AppRequest.tenant? strangeRequest = some strangerRecord ∧
      ∃ request found, (acmeRouter.run acmeEnv strangeHistory).2.dispatches[0]? =
          some (.equipped acmeRecord request found []) ∧
        AppRequest.tenant? request = some acmeRecord ∧
        ∃ c, found = .built c ∧ acmeRouter.Returned acmeEnv strangeHistory "acme" c := by
  have hequipped : (acmeRouter.run acmeEnv strangeHistory).2.dispatches[0]? =
      some (.equipped acmeRecord (AppRequest.setTenant strangeRequest acmeRecord)
        (.built { build := 0, handler := acmeApp }) []) := rfl
  rcases own_handler new_acme acmeEnv strangeHistory hequipped with ⟨_, htenant, _, hfound⟩
  refine ⟨new_acme, rfl, _, _, hequipped, htenant, ?_⟩
  rcases hfound with ⟨_, he, _⟩ | hbuilt
  · exact absurd he (by simp only [reduceCtorEq, not_false_eq_true])
  · exact hbuilt

end Router

end Multitenancy
