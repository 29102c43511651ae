import Mathlib.Data.List.Infix
import Multitenancy.Proofs.Router.Building
/-!
# One Build for All

Who asks for a handler while it is being built gets that one.

Dispatches of one tenant that come side by side all find no handler, but only
one of them gets the lock and starts a build. The lock stays with the build
until the handler is in the cache, so that everybody else, when it is their
turn, looks again and finds it. That the dispatch which started the build is
dropped changes nothing for the others: the lock was not its own any more.

How long this lasts is up to the cache. While the handler is there no dispatch
starts another build, and when no build of the tenant is under way nobody holds
its lock. So a dispatch without a handler needs one more step: it finds the
handler, or it is granted the lock and finds the handler, or its own build is
the one that gave it. What it has then cannot be anything else, since every
built handler is that of a build and no other build of the tenant gave one.

A dispatch whose own build fails is left out. It ends with an error, and the
next in line builds.

## Main definitions

* `Dispatch.seeks`, `Switchboard.Seeks`: A dispatch without a handler.
* `Switchboard.Has`, `Switchboard.Failed`: It has one, or its build failed.
* `Settled`: All builds of a tenant have ended, and one gave a handler.
* `Router.Kept`: The first handler that is built stays in the cache.

## Theorems

* `Settled.shift`: No build is started while there is a handler.
* `Switchboard.Seeks.shift`: What becomes of a dispatch without a handler.
* `Switchboard.Seeks.next`: It has one after its next step.
* `Router.build_shared`: One build at a time, and one handler for all.
-/

namespace Multitenancy

deriving instance DecidableEq for Build

variable {η : Type}

/-! ### Dispatches without a handler -/

namespace Dispatch

/-- Whether the tenant with an id is resolved and there is no handler yet. -/
def seeks (id : String) : Dispatch η → Bool
  | .resolved t _ | .waiting t _ | .building t _ _ => t.id == id
  | .arrived _ | .equipped _ _ _ _ | .done _ | .dropped => false

/-- The build that a dispatch waits for. -/
def build? : Dispatch η → Option Nat
  | .building _ _ k => some k
  | _ => none

end Dispatch

namespace Switchboard

/-- A dispatch of a tenant has no handler yet. -/
def Seeks (s : Switchboard η) (n : Nat) (id : String) : Prop :=
  ∃ stage ∈ s.dispatches[n]?, stage.seeks id = true

/-- A dispatch of a tenant has a handler. -/
def Has (s : Switchboard η) (n : Nat) (id : String) (found : Found η) : Prop :=
  ∃ t request hooks, s.dispatches[n]? = some (.equipped t request found hooks) ∧ t.id = id

/-- The build that a dispatch waits for has failed. -/
def Failed (s : Switchboard η) (n : Nat) : Prop :=
  ∃ stage ∈ s.dispatches[n]?, ∃ k ∈ stage.build?, ∃ outcome ∈ s.outcome? k, outcome.isOk = false

instance (s : Switchboard η) (n : Nat) (id : String) : Decidable (s.Seeks n id) :=
  inferInstanceAs (Decidable (∃ stage ∈ s.dispatches[n]?, stage.seeks id = true))

instance (s : Switchboard η) (n : Nat) : Decidable (s.Failed n) :=
  inferInstanceAs (Decidable (∃ stage ∈ s.dispatches[n]?, ∃ k ∈ stage.build?,
    ∃ outcome ∈ s.outcome? k, outcome.isOk = false))

end Switchboard

section Seeking

variable {now n : Nat} {id : String} {s s' : Switchboard η} {e : RouterEvent η}

/-- A walk of a dispatch without a handler. -/
theorem Walk.of_seeks {stage stage' : Dispatch η} (h : Walk now s stage stage')
    (hseeks : stage.seeks id = true) (hable : s.router.builds = true) :
    stage'.seeks id = true ∨ (∃ t request found hooks,
      stage' = .equipped t request found hooks ∧ t.id = id) ∨
        ∃ k ∈ stage.build?, ∃ outcome ∈ s.outcome? k, outcome.isOk = false := by
  -- The dispatch had no handler, which rules out the steps that need one.
  cases h with
  | resolve => exact absurd hseeks Bool.false_ne_true
  | seek _ => exact Or.inr (Or.inl ⟨_, _, _, _, rfl, beq_iff_eq.mp hseeks⟩)
  | collect _ => exact Or.inr (Or.inl ⟨_, _, _, _, rfl, beq_iff_eq.mp hseeks⟩)
  | tell => exact absurd hseeks Bool.false_ne_true
  | stay => exact Or.inl hseeks
  | astray => exact absurd hseeks Bool.false_ne_true
  | unable hunable =>
      rw [hable] at hunable
      exact absurd hunable (Ne.symm Bool.false_ne_true)
  | fail houtcome => exact Or.inr (Or.inr ⟨_, rfl, _, houtcome, rfl⟩)
  | handled => exact absurd hseeks Bool.false_ne_true

/-- A dispatch without a handler stays without one, gets one, or fails with its
    build, unless it is dropped. -/
theorem Switchboard.Seeks.shift (h : s.Seeks n id) (hshift : Shift now s s' e)
    (hable : s.router.builds = true) (hcancel : e ≠ .cancel n) :
    s'.Seeks n id ∨ (∃ found, s'.Has n id found) ∨ s.Failed n := by
  rcases h with ⟨stage, hn, hseeks⟩
  rcases hshift.stage_next hn with hstays | ⟨stage', hn', hmove⟩
  · exact Or.inl ⟨stage, hstays, hseeks⟩
  · cases hmove with
    | walk hwalk =>
        rcases hwalk.of_seeks hseeks hable with
          hseeks' | ⟨t, request, found, hooks, rfl, hid⟩ | hfail
        · exact Or.inl ⟨stage', hn', hseeks'⟩
        · exact Or.inr (Or.inl ⟨found, t, request, hooks, hn', hid⟩)
        · exact Or.inr (Or.inr ⟨stage, hn, hfail⟩)
    | wait => exact Or.inl ⟨_, hn', hseeks⟩
    | meet _ => exact Or.inr (Or.inl ⟨_, _, _, _, hn', beq_iff_eq.mp hseeks⟩)
    | build => exact Or.inl ⟨_, hn', hseeks⟩
    -- A dispatch without a handler that is dropped is the one case left out.
    | leave => exact absurd rfl hcancel

end Seeking

/-! ### After the first handler -/

/-- All builds of a tenant have ended. One gave a handler and the others have
    failed; their numbers are below a bound. -/
def Settled (s : Switchboard η) (id : String) (b : Nat) (handler : η) (bound : Nat) : Prop :=
  ∀ (k : Nat) (t : Tenant) (outcome : Option (Except Fault η)),
    s.builds[k]? = some { tenant := t, outcome } → t.id = id →
      k < bound ∧ ((k = b ∧ outcome = some (.ok handler)) ∨ ∃ f, outcome = some (.error f))

namespace Settled

variable {now b bound : Nat} {id : String} {handler : η} {s s' : Switchboard η}
  {e : RouterEvent η}

theorem not_runs (h : Settled s id b handler bound) (k : Nat) : ¬s.Runs k id := by
  rintro ⟨t, hk, hid⟩
  rcases (h _ _ _ hk hid).2 with ⟨_, hnone⟩ | ⟨f, hnone⟩
  · exact absurd hnone (by simp only [reduceCtorEq, not_false_eq_true])
  · exact absurd hnone (by simp only [reduceCtorEq, not_false_eq_true])

theorem gave_unique (h : Settled s id b handler bound) {k : Nat} {given : η}
    (hgave : s.Gave k id given) : k = b ∧ given = handler := by
  rcases hgave with ⟨t, hk, hid⟩
  rcases (h _ _ _ hk hid).2 with ⟨hkb, houtcome⟩ | ⟨f, houtcome⟩
  · rw [Option.some.injEq, Except.ok.injEq] at houtcome
    exact ⟨hkb, houtcome⟩
  · exact absurd houtcome (by simp only [Option.some.injEq, reduceCtorEq, not_false_eq_true])

/-- No build is started while there is a handler. -/
theorem shift (h : Settled s id b handler bound) (hshift : Shift now s s' e) {found : Found η}
    (hfound : (s.router.lookup now id).1 = some found) : Settled s' id b handler bound := by
  intro k t outcome hk hid
  rcases hshift.build_origin hk with hold | hruns | hmissed
  · exact h _ _ _ hold hid
  · exact absurd (hid ▸ hruns) (h.not_runs k)
  · rw [hid, hfound] at hmissed
    exact absurd hmissed (by simp only [reduceCtorEq, not_false_eq_true])

/-- The first build that gives a handler settles the matter. -/
theorem of_finish [TenantHandler η] (hlinked : Linked s) (hruns : s.Runs b id)
    (hfirst : ∀ k given, ¬s.Gave k id given) (env : Env) :
    Settled (s.next env (.finish b (.ok handler))).2 id b handler s.builds.length := by
  rcases hruns with ⟨u, hb, hu⟩
  intro k t outcome hk hid
  rw [Switchboard.next_finish env _ hb, getElem?_set_some_iff hb] at hk
  -- The build that ends gives the handler; any other one must have failed before.
  rcases hk with ⟨hkb, hk⟩ | ⟨rfl, hk⟩
  · refine ⟨(List.getElem?_eq_some_iff.mp hk).1, Or.inr ?_⟩
    cases outcome with
    | none => exact absurd (hlinked.runs_unique ⟨t, hk, hid⟩ ⟨u, hb, hu⟩) hkb
    | some ended =>
        cases ended with
        | ok given => exact absurd ⟨t, hk, hid⟩ (hfirst k given)
        | error f => exact ⟨f, rfl⟩
  · rw [Build.mk.injEq] at hk
    exact ⟨(List.getElem?_eq_some_iff.mp hb).1, Or.inl ⟨rfl, hk.2⟩⟩

end Settled

/-- A dispatch without a handler has one after its next step, when there is one
    to be found and nobody builds. -/
theorem Switchboard.Seeks.next [TenantHandler η] {s : Switchboard η} {n b bound : Nat}
    {id : String} {handler : η} (h : s.Seeks n id) (hlinked : Linked s)
    (hsettled : Settled s id b handler bound) (hfail : ¬s.Failed n) (env : Env)
    {found : Found η} (hfound : (s.router.lookup env.clock id).1 = some found) :
    ∃ found', (s.next env (.step n)).2.Has n id found' := by
  rcases h with ⟨stage, hn, hseeks⟩
  cases stage with
  | resolved t request =>
      have hid : t.id = id := beq_iff_eq.mp hseeks
      exact ⟨found, t, request, _, next_seek env hn (hid ▸ hfound), hid⟩
  | waiting t request =>
      have hid : t.id = id := beq_iff_eq.mp hseeks
      -- Whoever holds the lock of the tenant is a build that is under way.
      have hfree : ∀ other, ¬s.router.locks.Claims other id true := by
        intro other hclaim
        cases other with
        | dispatch m => exact absurd (hlinked.waits.mp hclaim).1 (Ne.symm Bool.false_ne_true)
        | build k => exact hsettled.not_runs k (hlinked.runs.mp hclaim).2
      have hwaits : s.router.locks.Claims (.dispatch n) id false :=
        hlinked.waits.mpr ⟨rfl, t, request, hn, hid⟩
      rcases hlinked.sound.grant?_isSome hwaits hfree with ⟨locks, hgrant⟩
      exact ⟨found, t, request, _, next_enter env hn hgrant (hid ▸ hfound), hid⟩
  | building t request k =>
      have hid : t.id = id := beq_iff_eq.mp hseeks
      rcases hlinked.building hn with ⟨outcome, hk⟩
      have houtcome : s.outcome? k = outcome := by
        rw [outcome?, hk, Option.bind_some]
      rcases (hsettled _ _ _ hk hid).2 with ⟨_, hgave⟩ | ⟨f, hfailed⟩
      · rw [hgave] at houtcome
        exact ⟨_, t, request, _, next_collect env hn houtcome, hid⟩
      · rw [hfailed] at houtcome
        exact absurd ⟨_, hn, k, rfl, _, houtcome, rfl⟩ hfail
  | arrived _ => exact absurd hseeks Bool.false_ne_true
  | equipped _ _ _ _ => exact absurd hseeks Bool.false_ne_true
  | done _ => exact absurd hseeks Bool.false_ne_true
  | dropped => exact absurd hseeks Bool.false_ne_true

/-! ### Histories -/

namespace Router

variable [TenantHandler η] {settings : RouterSettings η} {r : Router η} {env : Env}

/-- In a history a build gives the first handler of a tenant, and from then on
    this handler stays in the cache. The tenant has no registered one at any
    time. -/
structure Kept (r : Router η) (env : Env) (id : String) (before : List (RouterEvent η)) (b : Nat)
    (handler : η) (history : List (RouterEvent η)) : Prop where
  ends : before ++ [.finish b (.ok handler)] <+: history
  runs : (r.run env before).2.Runs b id
  first : ∀ k given, ¬(r.run env before).2.Gave k id given
  unregistered : ∀ h, h <+: history → (r.run env h).2.router.handlers.get? id = none
  /-- It neither expires, nor is it displaced or taken out. -/
  stays : ∀ h, h <+: history → before ++ [.finish b (.ok handler)] <+: h →
    (r.run env h).2.router.built.contains (r.run env h).1.clock id = true

/-- A dispatch that has no handler at one moment has one at some moment up to a
    later one, or still has none. -/
theorem seeks_run {n : Nat} {id : String} {p q : List (RouterEvent η)} (hpq : p <+: q)
    (hseeks : (r.run env p).2.Seeks n id) (hable : r.builds = true) (hcancel : .cancel n ∉ q)
    (hfail : ∀ h, h <+: q → ¬(r.run env h).2.Failed n) :
    (r.run env q).2.Seeks n id ∨ ∃ h, h <+: q ∧ ∃ found, (r.run env h).2.Has n id found := by
  -- A dispatch that seeks goes on seeking, gets a handler or fails with its build.
  have hstep : ∀ h e, p <+: h → h ++ [e] <+: q →
      ((r.run env h).2.Seeks n id ∨ ∃ h', h' <+: h ∧ ∃ found, (r.run env h').2.Has n id found) →
        (r.run env (h ++ [e])).2.Seeks n id ∨
          ∃ h', h' <+: h ++ [e] ∧ ∃ found, (r.run env h').2.Has n id found := by
    intro h e _ hhe hor
    rcases hor with hseeks | ⟨h', hh', hhas⟩
    · have hne : e ≠ .cancel n := by
        rintro rfl
        exact hcancel (hhe.subset (List.mem_append_right _ List.mem_cons_self))
      rcases hseeks.shift (shift_concat r env h e) ((able_run r env h).trans hable) hne with
        hseeks' | hhas | hfailed
      · exact Or.inl hseeks'
      · exact Or.inr ⟨h ++ [e], List.prefix_refl _, hhas⟩
      · exact absurd hfailed (hfail h ((List.prefix_append h [e]).trans hhe))
    · exact Or.inr ⟨h', hh'.trans (List.prefix_append h [e]), hhas⟩
  exact prefix_induction (P := fun h => (r.run env h).2.Seeks n id ∨
    ∃ h', h' <+: h ∧ ∃ found, (r.run env h').2.Has n id found) hpq (Or.inl hseeks) hstep

/-- A dispatch has no registered handler of a tenant that never has one. -/
theorem not_has_registered {id : String} {q : List (RouterEvent η)}
    (hunregistered : ∀ h e, h ++ [e] <+: q → (r.run env h).2.router.handlers.get? id = none)
    (n : Nat) (handler : η) : ¬(r.run env q).2.Has n id (.registered handler) := by
  refine prefix_induction (P := fun h => ¬(r.run env h).2.Has n id (.registered handler))
    List.nil_prefix ?_ ?_
  · rintro ⟨_, _, _, hn, _⟩
    exact absurd hn (getElem?_dispatches_nil r env _ _)
  · rintro h e _ hhe hnot ⟨t, request, hooks, hn, rfl⟩
    -- It could only have been found by a lookup, and there was nothing registered then.
    rcases (shift_concat r env h e).equipped hn with ⟨hooks', hold⟩ | hfound | ⟨k, given, he, _⟩
    · exact hnot ⟨t, request, hooks', hold, rfl⟩
    · rcases lookup_cases hfound with ⟨_, _, hregistered⟩ | ⟨_, _, he, _⟩
      · rw [hunregistered h e hhe] at hregistered
        exact absurd hregistered (by simp only [reduceCtorEq, not_false_eq_true])
      · exact absurd he (by simp only [reduceCtorEq, not_false_eq_true])
    · exact absurd he (by simp only [reduceCtorEq, not_false_eq_true])

namespace Kept

variable {id : String} {before history q : List (RouterEvent η)} {b n : Nat} {handler : η}

/-- Handlers can be built, since one is being built. -/
theorem able (h : Kept r env id before b handler history) (hnew : new settings = .ok r) :
    r.builds = true := by
  rw [← able_run r env before]
  refine (linked_run hnew env before).able_builds fun hnil => ?_
  rcases h.runs with ⟨t, hb, _⟩
  rw [hnil] at hb
  exact absurd hb (by simp only [List.getElem?_nil, reduceCtorEq, not_false_eq_true])

/-- The builds of the tenant at a moment up to which the handler was there. -/
theorem settled_run (h : Kept r env id before b handler history) (hnew : new settings = .ok r)
    (hsince : before ++ [.finish b (.ok handler)] <+: q)
    (hq : ∀ p e, p ++ [e] <+: q → p <+: history) :
    Settled (r.run env q).2 id b handler (r.run env before).2.builds.length := by
  -- The induction starts at the end of the build and needs the handler to stay cached.
  refine prefix_induction (P := fun p =>
    Settled (r.run env p).2 id b handler (r.run env before).2.builds.length) hsince ?_ ?_
  · rw [run_concat]
    exact Settled.of_finish (linked_run hnew env before) h.runs h.first _
  · intro p e hsince hpe hsettled
    rcases lookup_of_contains (h.stays p (hq p e hpe) hsince) with ⟨found, hfound⟩
    exact hsettled.shift (shift_concat r env p e) hfound

/-- A dispatch that has a handler of the tenant has the one that was built. -/
theorem has_unique (h : Kept r env id before b handler history) (hnew : new settings = .ok r)
    (hsince : before ++ [.finish b (.ok handler)] <+: q)
    (hq : ∀ p e, p ++ [e] <+: q → p <+: history) {p : List (RouterEvent η)} (hpq : p <+: q)
    {found : Found η} (hhas : (r.run env p).2.Has n id found) :
    found = .built { build := b, handler } := by
  cases found with
  | registered given =>
      refine absurd hhas (not_has_registered (fun p' e hpe => ?_) n given)
      exact h.unregistered p' (hq p' e (hpe.trans hpq))
  | built c =>
      rcases hhas with ⟨t, request, hooks, hn, rfl⟩
      -- Whatever build it came from, it has given it for good.
      have hgave := gave_run hpq ((sourced_run hnew env p).equipped hn)
      rcases (h.settled_run hnew hsince hq).gave_unique hgave with ⟨hbuild, hhandler⟩
      rw [← hbuild, ← hhandler]

/-- A dispatch that is not dropped and whose build does not fail has a handler
    after one more step, if it has none before. -/
theorem exists_has (h : Kept r env id before b handler history) (hnew : new settings = .ok r)
    (hseeks : ∃ p, p <+: history ∧ (r.run env p).2.Seeks n id) (hcancel : .cancel n ∉ history)
    (hfail : ∀ p, p <+: history → ¬(r.run env p).2.Failed n) :
    ∃ p, p <+: history ++ [.step n] ∧ ∃ found, (r.run env p).2.Has n id found := by
  rcases hseeks with ⟨p, hp, hseeks⟩
  rcases seeks_run hp hseeks (h.able hnew) hcancel hfail with hseeks | ⟨p', hp', hhas⟩
  · -- By then the matter is settled, so one more step meets the handler.
    have hsettled := h.settled_run hnew h.ends fun p e hpe => (List.prefix_append p [e]).trans hpe
    rcases lookup_of_contains (h.stays history (List.prefix_refl _) h.ends) with ⟨found, hfound⟩
    refine ⟨history ++ [.step n], List.prefix_refl _, ?_⟩
    rw [run_concat]
    exact hseeks.next (linked_run hnew env history) hsettled
      (hfail history (List.prefix_refl _)) _ hfound
  · exact ⟨p', hp'.trans (List.prefix_append _ _), hhas⟩

end Kept

/-- At every moment one build of a tenant is under way at most. And once the
    first handler was built and stays in the cache, no other build of the
    tenant is started, and every dispatch of the tenant that is not dropped and
    whose own build does not fail has this handler, at the latest after its
    next step, and never another one. -/
theorem build_shared (hnew : new settings = .ok r) (env : Env) :
    (∀ history j k id, (r.run env history).2.Runs j id → (r.run env history).2.Runs k id →
      j = k) ∧
    ∀ id before b handler history, r.Kept env id before b handler history →
      Settled (r.run env history).2 id b handler (r.run env before).2.builds.length ∧
      ∀ n, (∃ h, h <+: history ∧ (r.run env h).2.Seeks n id) → .cancel n ∉ history →
        (∀ h, h <+: history → ¬(r.run env h).2.Failed n) →
        (∃ h, h <+: history ++ [.step n] ∧
          (r.run env h).2.Has n id (.built { build := b, handler })) ∧
        ∀ h found, h <+: history ++ [.step n] → (r.run env h).2.Has n id found →
          found = .built { build := b, handler } := by
  refine ⟨fun history j k id hj hk => (linked_run hnew env history).runs_unique hj hk,
    fun id before b handler history hkept => ⟨?_, fun n hseeks hcancel hfail => ?_⟩⟩
  · exact hkept.settled_run hnew hkept.ends fun p e hpe => (List.prefix_append p [e]).trans hpe
  · have hsince := hkept.ends.trans (List.prefix_append history [.step n])
    -- Whatever handler it has is this one, so it is enough that it has some.
    have hunique : ∀ h found, h <+: history ++ [.step n] → (r.run env h).2.Has n id found →
        found = .built { build := b, handler } := fun h found hh hhas =>
      hkept.has_unique hnew hsince (fun _ _ => prefix_of_concat_prefix) hh hhas
    rcases hkept.exists_has hnew hseeks hcancel hfail with ⟨h, hh, found, hhas⟩
    exact ⟨⟨h, hh, hunique h found hh hhas ▸ hhas⟩, hunique⟩

/-- A tenant to build for. -/
def acmeRecord : Tenant := Tenant.new "acme" "Acme" ⟨0, 0⟩

/-- An environment that knows the tenant by a header. -/
def acmeEnv : Env where
  registry := { store := .indexed { byId := [("acme", acmeRecord)], order := ["acme"] } }
  resolver := .new [.header "x-tenant"] 2 1000
  wall := ⟨0, 0⟩

/-- A request of the tenant. -/
def acmeRequest : AppRequest := (Http.Request.get "/").withHeader "x-tenant" "acme"

/-- A router with a factory. -/
def acmeSettings : RouterSettings App := { builds := true }

/-- The new router. -/
def acmeRouter : Router App where
  built := .empty 128 (.ofSeconds 300)
  sessionCookie := Session.defaultCookie
  builds := true

theorem new_acme : new acmeSettings = .ok acmeRouter := by
  -- No handler is registered, so no two can share a session cookie.
  have hcheck : Session.check acmeSettings.sessionCookie
      (cookies (Assoc.ofPairs acmeSettings.handlers)) = .ok () := by decide +kernel
  rw [new, hcheck]
  rfl

/-- What the factory makes. -/
def acmeApp : App := { endpoint := .text "built" }

/-- Two requests come. The first starts a build and is dropped; the second
    waits for the lock. -/
def acmeBefore : List (RouterEvent App) :=
  [.arrive acmeRequest, .arrive acmeRequest, .step 0, .step 0, .step 0, .step 1, .step 1, .cancel 0]

/-- Then the build ends. -/
def acmeHistory : List (RouterEvent App) :=
  acmeBefore ++ [.finish 0 (.ok acmeApp)]

/-- The build goes on without the dispatch that started it, and its handler is
    there at the end. -/
theorem kept_acme : acmeRouter.Kept acmeEnv "acme" acmeBefore 0 acmeApp acmeHistory := by
  have hbuilds : (acmeRouter.run acmeEnv acmeBefore).2.builds = [{ tenant := acmeRecord }] := by
    decide +kernel
  have hunregistered : ∀ h ∈ acmeHistory.inits,
      (acmeRouter.run acmeEnv h).2.router.handlers.get? "acme" = none := by decide +kernel
  have hcached : (acmeRouter.run acmeEnv acmeHistory).2.router.built.contains
      (acmeRouter.run acmeEnv acmeHistory).1.clock "acme" = true := by decide +kernel
  refine ⟨List.prefix_refl _, ⟨acmeRecord, by rw [hbuilds]; rfl, rfl⟩, ?_, fun h hh =>
    hunregistered h ((List.mem_inits h acmeHistory).mpr hh), fun h hh hsince => ?_⟩
  · rintro k given ⟨t, hk, _⟩
    rw [hbuilds] at hk
    have hmem := List.mem_singleton.mp (List.mem_of_getElem? hk)
    rw [Build.mk.injEq] at hmem
    exact absurd hmem.2 (by simp only [reduceCtorEq, not_false_eq_true])
  · rw [List.IsPrefix.eq_of_length hh (Nat.le_antisymm hh.length_le hsince.length_le)]
    exact hcached

/-- The second request gets the handler that was built for the first one. -/
theorem build_shared_acme :
    new acmeSettings = .ok acmeRouter ∧
      acmeRouter.Kept acmeEnv "acme" acmeBefore 0 acmeApp acmeHistory ∧
      (acmeRouter.run acmeEnv acmeHistory).2.Seeks 1 "acme" ∧ .cancel 1 ∉ acmeHistory ∧
      (∀ h, h <+: acmeHistory → ¬(acmeRouter.run acmeEnv h).2.Failed 1) ∧
      ∃ h, h <+: acmeHistory ++ [.step 1] ∧
        (acmeRouter.run acmeEnv h).2.Has 1 "acme" (.built { build := 0, handler := acmeApp }) := by
  have hcheck : Session.check acmeSettings.sessionCookie
      (cookies (Assoc.ofPairs acmeSettings.handlers)) = .ok () := by decide +kernel
  have hnew : new acmeSettings = .ok acmeRouter := by
    rw [new, hcheck]
    rfl
  have hseeks : (acmeRouter.run acmeEnv acmeHistory).2.Seeks 1 "acme" := by decide +kernel
  have hcancel : .cancel 1 ∉ acmeHistory := by
    simp only [acmeHistory, acmeBefore, List.cons_append, List.nil_append, List.mem_cons,
      reduceCtorEq, RouterEvent.cancel.injEq, Nat.one_ne_zero, List.not_mem_nil, or_self,
      not_false_eq_true]
  have hinits : ∀ h ∈ acmeHistory.inits, ¬(acmeRouter.run acmeEnv h).2.Failed 1 := by
    decide +kernel
  have hfail : ∀ h, h <+: acmeHistory → ¬(acmeRouter.run acmeEnv h).2.Failed 1 :=
    fun h hh => hinits h ((List.mem_inits h acmeHistory).mpr hh)
  rcases (build_shared hnew acmeEnv).2 "acme" acmeBefore 0 acmeApp acmeHistory kept_acme with
    ⟨_, hshared⟩
  rcases hshared 1 ⟨acmeHistory, List.prefix_refl _, hseeks⟩ hcancel hfail with ⟨hhas, _⟩
  exact ⟨hnew, kept_acme, hseeks, hcancel, hfail, hhas⟩

end Router

end Multitenancy
