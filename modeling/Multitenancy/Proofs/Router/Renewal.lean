import Multitenancy.Proofs.Router.Sharing
/-!
# Renewing a Handler

Forgetting a built handler is meant to have the next request build a new one.
It does, unless a build of the tenant is under way.

Forgetting takes the handler out of the cache. A build that was started before
does not know of it: when it ends it writes its handler into the cache, and a
dispatch that comes after that finds it there. That dispatch is served by a
handler which is older than the moment at which all handlers were forgotten.
Without such a build nothing older than that moment can come back, because
handlers enter the cache when their builds end and in no other way. A cache
that keeps nothing cannot bring anything back either. So these are the two
cases in which forgetting works, and there is no third one.

A build is known by its number, and builds are numbered in the order in which
they start. That a handler is older than a moment means that the number of its
build is below the number of builds at that moment.

## Main definitions

* `Renewed`: Nothing older than a moment reaches later dispatches.
* `Router.Renews`: Forgetting the handler of a tenant works.

## Theorems

* `Renewed.next`: Every event keeps it that way.
* `Router.renews_of_quiet`: Forgetting works while the tenant has no build
  under way.
* `Router.renews_iff`: When forgetting works.
* `Router.forgotten_served`: It does not always work.
-/

namespace Multitenancy

variable {η : Type}

/-! ### Where built handlers are found -/

/-- A built handler that is found is the value of an entry of the tenant, in a
    cache that keeps entries. -/
theorem Router.lookup_built {r : Router η} {now : Nat} {id : String} {c : Built η}
    (h : (r.lookup now id).1 = some (.built c)) :
    r.built.isEnabled = true ∧ ∃ e ∈ r.built.entries, e.key = id ∧ e.value = c := by
  rcases Router.lookup_eq_some h with ⟨_, hfound, _⟩ | ⟨b, hfound, _, hget⟩
  · exact absurd hfound (by simp only [reduceCtorEq, not_false_eq_true])
  · rw [Found.built.injEq] at hfound
    subst hfound
    exact ⟨Cache.isEnabled_of_get hget, Cache.mem_of_get_eq_some hget⟩

/-- A tenant without a registered handler has the one that is cached. -/
theorem Router.lookup_of_cached {r : Router η} {now : Nat} {id : String} {c : Built η}
    (hnone : r.handlers.get? id = none) (hcached : (r.built.get now id).1 = some c) :
    (r.lookup now id).1 = some (.built c) := by
  unfold lookup
  simp only [hnone, hcached, Option.map_some]

section Events

variable {now : Nat} {s s' : Switchboard η} {e : RouterEvent η}

theorem Shift.length_builds_le (h : Shift now s s' e) : s.builds.length ≤ s'.builds.length := by
  by_contra hlt
  -- The build with the first missing number would have been kept.
  rcases hlast : s.builds[s'.builds.length]? with _ | ⟨t, outcome⟩
  · exact hlt (List.getElem?_eq_none_iff.mp hlast)
  · rcases h.build_kept hlast with ⟨outcome', hkept, _⟩
    have hmem := (List.getElem?_eq_some_iff.mp hkept).1
    exact absurd hmem (Nat.lt_irrefl _)

/-- A build that is under way was so before, or has just been started and has
    the next number. -/
theorem Shift.runs (h : Shift now s s' e) {k : Nat} {id : String} (hruns : s'.Runs k id) :
    s.Runs k id ∨ s.builds.length ≤ k := by
  rcases hruns with ⟨t, hk, hid⟩
  rcases Nat.lt_or_ge k s.builds.length with hlt | hge
  · refine Or.inl ⟨t, ?_, hid⟩
    have hold : s.builds[k]? = some { tenant := s.builds[k].tenant
                                      outcome := s.builds[k].outcome } :=
      List.getElem?_eq_getElem hlt
    rcases h.build_kept hold with ⟨outcome, hkept, hsame⟩
    rw [hk, Option.some.injEq, Build.mk.injEq] at hkept
    rcases hkept with ⟨ht, rfl⟩
    -- It would have kept an outcome.
    have hnone : s.builds[k].outcome = none := by
      by_contra hne
      exact hne (hsame hne).symm
    rw [hold, ht, hnone]
  · exact Or.inr hge

/-- A dispatch that waits for a build has waited for it before, or has just
    started it. -/
theorem Shift.building (h : Shift now s s' e) {n : Nat} {t : Tenant} {request : AppRequest}
    {k : Nat} (hn : s'.dispatches[n]? = some (.building t request k)) :
    s.dispatches[n]? = some (.building t request k) ∨ k = s.builds.length := by
  rcases h.stage_origin hn with hold | ⟨_, hnew⟩ | ⟨stage, hstage, hmove⟩
  · exact Or.inl hold
  · exact nomatch hnew
  · -- Only `build` puts a dispatch behind another build than before.
    cases hmove with
    | walk hwalk => exact Or.inl (hstage.trans (congrArg some (hwalk.of_building rfl)))
    | build => exact Or.inr rfl

end Events

namespace Switchboard

/-- A build that ends caches its own handler, and only if it was under way. -/
theorem entries_finish {env : Env} {s : Switchboard η} {b : Nat} {outcome : Except Fault η}
    {e : CacheEntry (Built η)} (h : e ∈ (s.finish env b outcome).router.built.entries) :
    e ∈ s.router.built.entries ∨ e.value.build = b ∧ s.Runs b e.key := by
  rw [finish] at h
  split at h
  · rename_i t hbuild
    cases outcome with
    | error f => exact Or.inl h
    | ok handler =>
        rcases Cache.mem_of_mem_set h with hold | ⟨hkey, hvalue⟩
        · exact Or.inl hold
        · exact Or.inr ⟨by rw [hvalue], t, hbuild, hkey.symm⟩
  · exact Or.inl h

/-- Whatever happens, built handlers enter the cache when their builds end. -/
theorem entries_next [TenantHandler η] {env : Env} {s : Switchboard η} {event : RouterEvent η}
    {e : CacheEntry (Built η)} (h : e ∈ (s.next env event).2.router.built.entries) :
    e ∈ s.router.built.entries ∨ s.Runs e.value.build e.key := by
  rcases (shift_next env s event).entries e h with hold | ⟨b, _, _, rfl, _⟩
  · exact Or.inl hold
  · rcases entries_finish h with hold | ⟨hbuild, hruns⟩
    · exact Or.inl hold
    · exact Or.inr (hbuild ▸ hruns)

end Switchboard

/-! ### Nothing older comes back -/

/-- Since a moment with so many dispatches and so many builds, no dispatch that
    came later has, or will have, a handler of the tenant from an earlier
    build. -/
structure Renewed (s : Switchboard η) (id : String) (dispatches builds : Nat) : Prop where
  /-- What is cached is from later builds, and so is what will be. -/
  cached : s.router.built.isEnabled = true →
    ∀ e ∈ s.router.built.entries, e.key = id → builds ≤ e.value.build
  runs : s.router.built.isEnabled = true → ∀ k, s.Runs k id → builds ≤ k
  /-- Later dispatches wait for later builds. -/
  building : ∀ {n : Nat} {t : Tenant} {request : AppRequest} {k : Nat}, dispatches ≤ n →
    s.dispatches[n]? = some (.building t request k) → builds ≤ k
  has : ∀ {n : Nat} {c : Built η}, dispatches ≤ n → s.Has n id (.built c) → builds ≤ c.build
  count : builds ≤ s.builds.length

namespace Renewed

variable [TenantHandler η] {s : Switchboard η} {id : String}

/-- Every event keeps it that way. -/
theorem next {dispatches builds : Nat} (h : Renewed s id dispatches builds) (env : Env)
    (e : RouterEvent η) : Renewed (s.next env e).2 id dispatches builds := by
  have hshift := Switchboard.shift_next env s e
  have henabled : (s.next env e).2.router.built.isEnabled = s.router.built.isEnabled := by
    rw [Cache.isEnabled, s.next_lifetime env e, Cache.isEnabled]
  constructor
  · intro hkeeps entry hentry hkey
    rw [henabled] at hkeeps
    rcases Switchboard.entries_next hentry with hold | hruns
    · exact h.cached hkeeps entry hold hkey
    · exact h.runs hkeeps _ (hkey ▸ hruns)
  · intro hkeeps k hruns
    rw [henabled] at hkeeps
    rcases hshift.runs hruns with hold | hnew
    · exact h.runs hkeeps k hold
    · exact Nat.le_trans h.count hnew
  · intro n t request k hlater hn
    rcases hshift.building hn with hold | rfl
    · exact h.building hlater hold
    · exact h.count
  · -- A dispatch gets its handler from the cache or from the build it waits for.
    rintro n c hlater ⟨t, request, hooks, hn, rfl⟩
    rcases hshift.equipped hn with ⟨hooks', hold⟩ | hfound | ⟨k, handler, hc, hstage, _⟩
    · exact h.has hlater ⟨t, request, hooks', hold, rfl⟩
    · rcases Router.lookup_built hfound with ⟨hkeeps, entry, hentry, hkey, rfl⟩
      exact h.cached hkeeps entry hentry hkey
    · rw [Found.built.injEq] at hc
      rw [hc]
      exact h.building hlater hstage
  · exact Nat.le_trans h.count hshift.length_builds_le

/-- Forgetting the handler of a tenant begins it, unless a build of the tenant
    could still bring an old one back. -/
theorem of_invalidate (env : Env)
    (hquiet : s.router.built.isEnabled = false ∨ ∀ k, ¬s.Runs k id) :
    Renewed (s.next env (.invalidate id)).2 id s.dispatches.length s.builds.length := by
  -- No dispatch has come since.
  have hnobody : ∀ {n : Nat} {stage : Dispatch η}, s.dispatches.length ≤ n →
      s.dispatches[n]? ≠ some stage := by
    intro n stage hlater hn
    rw [List.getElem?_eq_none hlater] at hn
    exact absurd hn (by simp only [reduceCtorEq, not_false_eq_true])
  constructor
  · intro _ entry hentry hkey
    exact absurd hkey ((s.router.built.mem_without_iff id entry).mp hentry).2
  · intro hkeeps k hruns
    rcases hquiet with hdisabled | hquiet
    · rw [show (s.next env (.invalidate id)).2.router.built.isEnabled =
        s.router.built.isEnabled from rfl, hdisabled] at hkeeps
      exact absurd hkeeps Bool.false_ne_true
    · exact absurd hruns (hquiet k)
  · intro n t request k hlater hn
    exact absurd hn (hnobody hlater)
  · rintro n c hlater ⟨t, request, hooks, hn, _⟩
    exact absurd hn (hnobody hlater)
  · exact Nat.le_refl _

end Renewed

/-! ### An older build that ends -/

section Comeback

variable [TenantHandler η] {s : Switchboard η}

namespace Switchboard

/-- Nobody has registered a handler for a tenant, and none is cached. -/
def cleared (s : Switchboard η) (id : String) : Switchboard η :=
  { s with router := { s.router with
    built := (s.router.built.delete id).2
    handlers := s.router.handlers.erase id } }

theorem run_cleared (s : Switchboard η) (env : Env) (id : String)
    (rest : List (RouterEvent η)) :
    s.run env (.invalidate id :: .unregister id :: rest) = (s.cleared id).run env rest := rfl

/-- A dispatch whose tenant has a handler gets it in two steps: resolving the
    tenant takes no time and leaves all handlers alone. -/
theorem has_of_found (env : Env) {n : Nat} {t : Tenant} {request : AppRequest} {found : Found η}
    (h : s.dispatches[n]? = some (.arrived request))
    (hresolve : (env.resolve request).1 = some t)
    (hfound : (s.router.lookup env.clock t.id).1 = some found) :
    (s.run env [.step n, .step n]).2.Has n t.id found := by
  have hlt : n < s.dispatches.length := (List.getElem?_eq_some_iff.mp h).1
  rcases henv : env.resolve request with ⟨tenant, env'⟩
  have hclock : env'.clock = env.clock := by
    rw [show env' = (env.resolve request).2 by rw [henv]]
    rfl
  rw [henv] at hresolve
  subst hresolve
  have hstep : s.next env (.step n) = (env', { s with
      dispatches := s.dispatches.set n (.resolved t (AppRequest.setTenant request t)) }) := by
    simp only [next, h, Dispatch.step, resolve, henv]
  have hresolved : (s.next env (.step n)).2.dispatches[n]? =
      some (.resolved t (AppRequest.setTenant request t)) := by
    rw [hstep]
    exact List.getElem?_set_self hlt
  have hfound' : ((s.next env (.step n)).2.router.lookup env'.clock t.id).1 = some found := by
    rw [hstep, hclock]
    exact hfound
  refine ⟨t, AppRequest.setTenant request t, (s.next env (.step n)).2.router.hooks, ?_, rfl⟩
  rw [run, List.foldl_cons, List.foldl_cons, List.foldl_nil,
    show (s.next env (.step n)).1 = env' by rw [hstep]]
  exact next_seek env' hresolved hfound'

/-- The handler of a build that has just ended is found, if none is
    registered. -/
theorem found_after_finish (env : Env) {b : Nat} {id : String} (handler : η)
    (hruns : s.Runs b id) (hnone : s.router.handlers.get? id = none)
    (henabled : s.router.built.isEnabled = true) :
    ((s.next env (.finish b (.ok handler))).2.router.lookup env.clock id).1 =
      some (.built { build := b, handler }) := by
  rcases hruns with ⟨t, hb, rfl⟩
  simp only [next, finish, hb]
  exact Router.lookup_of_cached hnone (Cache.get_set_self henabled env.clock t.id _)

/-- A request that arrives right after a build has ended gets the handler of
    this build. -/
theorem has_after_finish (env : Env) {b : Nat} {t : Tenant} {request : AppRequest} (handler : η)
    (hruns : s.Runs b t.id) (hnone : s.router.handlers.get? t.id = none)
    (henabled : s.router.built.isEnabled = true) (hresolve : (env.resolve request).1 = some t) :
    (s.run env [.finish b (.ok handler), .arrive request, .step s.dispatches.length,
      .step s.dispatches.length]).2.Has s.dispatches.length t.id
        (.built { build := b, handler }) := by
  have hfound := found_after_finish env handler hruns hnone henabled
  -- The build moves no dispatch when it ends, so the request comes behind all of them.
  have hdispatches : (s.next env (.finish b (.ok handler))).2.dispatches = s.dispatches := by
    rcases hruns with ⟨u, hb, _⟩
    simp only [next, finish, hb]
  have harrived : ((s.next env (.finish b (.ok handler))).2.next env
      (.arrive request)).2.dispatches[s.dispatches.length]? = some (.arrived request) := by
    change ((s.next env (.finish b (.ok handler))).2.dispatches ++
      [Dispatch.arrived request])[s.dispatches.length]? = some (.arrived request)
    rw [hdispatches]
    exact List.getElem?_concat_length
  exact has_of_found env harrived hresolve hfound

end Switchboard

end Comeback

/-! ### Histories -/

namespace Router

variable [TenantHandler η] {r : Router η} {env : Env}

/-- Forgetting the built handler of a tenant works: whatever happens after
    that, no dispatch that comes later has a handler of the tenant from a build
    that was started before. -/
def Renews (r : Router η) (env : Env) (before : List (RouterEvent η)) (id : String) : Prop :=
  ∀ after n c, (r.run env before).2.dispatches.length ≤ n →
    (r.run env (before ++ .invalidate id :: after)).2.Has n id (.built c) →
      (r.run env before).2.builds.length ≤ c.build

theorem renewed_run {before : List (RouterEvent η)} {id : String}
    (hquiet : (r.run env before).2.router.built.isEnabled = false ∨
      ∀ k, ¬(r.run env before).2.Runs k id) (after : List (RouterEvent η)) :
    Renewed (r.run env (before ++ .invalidate id :: after)).2 id
      (r.run env before).2.dispatches.length (r.run env before).2.builds.length := by
  have hprefix : before ++ [.invalidate id] <+: before ++ .invalidate id :: after :=
    ⟨after, by rw [List.append_assoc, List.singleton_append]⟩
  -- The induction runs over the events after the invalidation.
  refine prefix_induction (P := fun h => Renewed (r.run env h).2 id
    (r.run env before).2.dispatches.length (r.run env before).2.builds.length) hprefix ?_ ?_
  · rw [run_concat]
    exact Renewed.of_invalidate _ hquiet
  · intro h e _ _ hrenewed
    rw [run_concat]
    exact hrenewed.next _ e

/-- Forgetting works when the cache keeps nothing or the tenant has no build
    under way. -/
theorem renews_of_quiet {before : List (RouterEvent η)} {id : String}
    (hquiet : (r.run env before).2.router.built.isEnabled = false ∨
      ∀ k, ¬(r.run env before).2.Runs k id) : r.Renews env before id :=
  fun after _ _ hlater hhas => (renewed_run hquiet after).has hlater hhas

theorem run_append (r : Router η) (env : Env) (p q : List (RouterEvent η)) :
    r.run env (p ++ q) = (r.run env p).2.run (r.run env p).1 q := by
  rw [run, Switchboard.run, List.foldl_append]
  rfl

/-- A build that is under way when the handler is forgotten can bring an older
    one back. -/
theorem not_renews_of_runs {before : List (RouterEvent η)} (handler : η) {request : AppRequest}
    {t : Tenant} {b : Nat} (hresolve : ((r.run env before).1.resolve request).1 = some t)
    (henabled : (r.run env before).2.router.built.isEnabled = true)
    (hruns : (r.run env before).2.Runs b t.id) : ¬r.Renews env before t.id := by
  intro hrenews
  have hb : b < (r.run env before).2.builds.length := by
    rcases hruns with ⟨u, hb, _⟩
    exact (List.getElem?_eq_some_iff.mp hb).1
  have hnone : ((r.run env before).2.cleared t.id).router.handlers.get? t.id = none := by
    change ((r.run env before).2.router.handlers.erase t.id).get? t.id = none
    rw [Assoc.get?_erase, if_pos (beq_self_eq_true t.id)]
  -- A registered handler is taken out, the build ends, and a request comes.
  have hhas := Switchboard.has_after_finish (r.run env before).1 handler
    (show ((r.run env before).2.cleared t.id).Runs b t.id from hruns) hnone henabled hresolve
  have hold := hrenews [.unregister t.id, .finish b (.ok handler), .arrive request,
    .step (r.run env before).2.dispatches.length, .step (r.run env before).2.dispatches.length]
    (r.run env before).2.dispatches.length { build := b, handler } (Nat.le_refl _)
    (by rw [run_append, Switchboard.run_cleared]; exact hhas)
  exact absurd hb (Nat.not_lt.mpr hold)

/-- Forgetting the built handler of a tenant works if the cache keeps nothing
    or the tenant has no build under way, and in no other case: a build under
    way can end after that, and its handler is found by a request that comes
    later still. -/
theorem renews_iff (env : Env) (before : List (RouterEvent η)) (handler : η)
    {request : AppRequest} {t : Tenant}
    (hresolve : ((r.run env before).1.resolve request).1 = some t) :
    r.Renews env before t.id ↔
      (r.run env before).2.router.built.isEnabled = false ∨
        ∀ b, ¬(r.run env before).2.Runs b t.id := by
  refine ⟨fun hrenews => ?_, renews_of_quiet⟩
  -- A cache that keeps nothing renews trivially, so only a build under way is left.
  by_cases henabled : (r.run env before).2.router.built.isEnabled = true
  · exact Or.inr fun b hruns => not_renews_of_runs handler hresolve henabled hruns hrenews
  · exact Or.inl (by rwa [Bool.not_eq_true] at henabled)

/-- A request comes for which a build is started. -/
def acmeInFlight : List (RouterEvent App) :=
  [.arrive acmeRequest, .step 0, .step 0, .step 0]

/-- The build ends, and after that a second request comes and is handed
    over. -/
def acmeOverdue : List (RouterEvent App) :=
  [.finish 0 (.ok acmeApp), .arrive acmeRequest, .step 1, .step 1]

/-- The second request comes after the handler was forgotten, and yet it is
    answered by the handler whose build was under way by then. -/
theorem forgotten_served :
    new acmeSettings = .ok acmeRouter ∧
      ¬acmeRouter.Renews acmeEnv acmeInFlight acmeRecord.id ∧
      (acmeRouter.run acmeEnv (acmeInFlight ++ .invalidate acmeRecord.id ::
        (acmeOverdue ++ [.step 1]))).2.answer? 1 = some (.ok (.text "built")) := by
  refine ⟨new_acme, fun hrenews => ?_, rfl⟩
  have hequipped : (acmeRouter.run acmeEnv (acmeInFlight ++ .invalidate acmeRecord.id ::
      acmeOverdue)).2.dispatches[1]? = some (.equipped acmeRecord
        (AppRequest.setTenant acmeRequest acmeRecord)
        (.built { build := 0, handler := acmeApp }) []) := rfl
  have hhas := hrenews acmeOverdue 1 { build := 0, handler := acmeApp } (Nat.le_refl 1)
    ⟨acmeRecord, _, _, hequipped, rfl⟩
  have hold : (acmeRouter.run acmeEnv acmeInFlight).2.builds.length ≤ 0 :=
    hhas
  exact absurd hold (by decide +kernel)

/-- Once the build has ended, forgetting its handler works. -/
theorem renews_iff_ended :
    ((acmeRouter.run acmeEnv acmeHistory).1.resolve acmeRequest).1 = some acmeRecord ∧
      acmeRouter.Renews acmeEnv acmeHistory acmeRecord.id := by
  have hresolve : ((acmeRouter.run acmeEnv acmeHistory).1.resolve acmeRequest).1 =
      some acmeRecord := by decide +kernel
  have hbuilds : (acmeRouter.run acmeEnv acmeHistory).2.builds =
      [{ tenant := acmeRecord, outcome := some (.ok acmeApp) }] := rfl
  refine ⟨hresolve, (renews_iff acmeEnv acmeHistory acmeApp hresolve).mpr (Or.inr ?_)⟩
  rintro b ⟨t, hb, _⟩
  rw [hbuilds] at hb
  have hended := List.mem_singleton.mp (List.mem_of_getElem? hb)
  rw [Build.mk.injEq] at hended
  exact absurd hended.2 (by simp only [reduceCtorEq, not_false_eq_true])

end Router

end Multitenancy
