import Mathlib.Data.List.Induction
import Multitenancy.Proofs.Resolution.Visits
/-!
# How Old an Answer May Be

What the resolver says of a key is what the registry has said of it not long
ago.

Nothing keeps the registry from changing behind the resolver, so an answer may
be out of date. It is never made up, and never older than the lifetime of
entries. The proof follows every entry of the cache back to the look-up that it
is from: the entry has the time at which the registry was asked, and since then
nobody has made the resolver forget the key. A read moves an entry to the front
and leaves its time alone, so being asked for often does not keep an outcome
alive. An entry under one casing of a key is gone once the key is forgotten
under any casing.

## Main definitions

* `Front.Backed`: An entry is the outcome of a look-up that nobody has made the
  resolver forget.

## Theorems

* `Front.backed_next`, `Front.backed_after`: Entries stay backed.
* `Front.answer_is_recent`: The answer to a key is the outcome of a look-up that
  is younger than the lifetime of entries.
-/

namespace Multitenancy

variable {σ : Type}

namespace Front

variable {lookup : σ → String → Except Fault Tenant × σ}

/-- An entry has the outcome of a look-up of its key at its time, and nobody has
    made the resolver forget the key since. -/
def Backed (lookup : σ → String → Except Fault Tenant × σ) (f : Front σ)
    (events : List (Nat × ResolverEvent σ)) (e : CacheEntry Resolved) : Prop :=
  ∃ before since answer, events = before ++ (e.stored, .resolve e.key) :: since ∧
    (f.after lookup before).Asks lookup e.stored e.key answer ∧ e.value = .ofLookup answer ∧
      ∀ event ∈ since, event.2.forgets e.key = false

/-- What is backed stays so until the resolver forgets the key. -/
theorem Backed.concat {f : Front σ} {events : List (Nat × ResolverEvent σ)}
    {e : CacheEntry Resolved} (h : f.Backed lookup events e) {now : Nat} {event : ResolverEvent σ}
    (hevent : event.forgets e.key = false) : f.Backed lookup (events ++ [(now, event)]) e := by
  rcases h with ⟨before, since, answer, rfl, hasks, hvalue, hsince⟩
  refine ⟨before, since ++ [(now, event)], answer, ?_, hasks, hvalue, fun other hother => ?_⟩
  · rw [List.append_assoc, List.cons_append]
  · -- Of the events since, only the newest has to be looked at.
    rcases List.mem_append.mp hother with hold | hnew
    · exact hsince other hold
    · rw [List.mem_singleton.mp hnew]
      exact hevent

/-- Which entries an event leaves: old ones whose key it does not make the
    resolver forget, and the outcome of a look-up that it has asked for. -/
theorem mem_entries_next {f : Front σ} {now : Nat} {event : ResolverEvent σ}
    {e : CacheEntry Resolved} (he : e ∈ (f.next lookup now event).resolver.cache.entries) :
    (e ∈ f.resolver.cache.entries ∧ event.forgets e.key = false) ∨
      ∃ answer, event = .resolve e.key ∧ e.stored = now ∧ f.Asks lookup now e.key answer ∧
        e.value = .ofLookup answer := by
  cases event with
  | resolve key =>
      rw [next] at he
      cases hprobe : (f.resolver.probe now key).1 with
      | some outcome =>
          -- A read moves an entry and leaves its time alone.
          rw [resolveKey_of_hit hprobe] at he
          exact Or.inl ⟨Cache.mem_of_mem_get he, rfl⟩
      | none =>
          rw [resolveKey_of_miss hprobe] at he
          rcases Cache.mem_or_eq_of_mem_set he with hold | rfl
          · exact Or.inl ⟨Cache.mem_of_mem_get hold, rfl⟩
          · exact Or.inr ⟨_, rfl, rfl, (f.asks_iff now key _).mpr ⟨hprobe, rfl⟩, rfl⟩
  | invalidate key =>
      rcases (Resolver.mem_invalidate_iff _ key e).mp he with ⟨hold, hkey⟩
      refine Or.inl ⟨hold, ?_⟩
      rw [← Bool.not_eq_true, ResolverEvent.forgets_iff]
      exact hkey
  | invalidateTenant t =>
      rcases (Resolver.mem_invalidateTenant_iff _ t e).mp he with ⟨hold, hkeys⟩
      refine Or.inl ⟨hold, ?_⟩
      rw [← Bool.not_eq_true, ResolverEvent.forgets_iff]
      rintro ⟨k, hk, hsame⟩
      exact hkeys k hk hsame
  | clear => exact absurd he List.not_mem_nil
  | change registry => exact Or.inl ⟨he, rfl⟩

/-- An event keeps entries backed. -/
theorem backed_next {f : Front σ} {events : List (Nat × ResolverEvent σ)}
    (h : ∀ e ∈ (f.after lookup events).resolver.cache.entries, f.Backed lookup events e)
    (now : Nat) (event : ResolverEvent σ) :
    ∀ e ∈ (f.after lookup (events ++ [(now, event)])).resolver.cache.entries,
      f.Backed lookup (events ++ [(now, event)]) e := by
  intro e he
  rw [after_concat] at he
  rcases mem_entries_next he with ⟨hold, hforgets⟩ | ⟨answer, rfl, hstored, hasks, hvalue⟩
  · exact (h e hold).concat hforgets
  · -- An entry that was just written is backed by the question of this event.
    refine ⟨events, [], answer, by rw [hstored], ?_, hvalue, fun _ hc => absurd hc List.not_mem_nil⟩
    rw [hstored]
    exact hasks

/-- Whatever happens to a resolver that has resolved nothing, its entries are
    backed. -/
theorem backed_after {f : Front σ} (hempty : f.resolver.cache.entries = [])
    (events : List (Nat × ResolverEvent σ)) :
    ∀ e ∈ (f.after lookup events).resolver.cache.entries, f.Backed lookup events e := by
  induction events using List.reverseRecOn with
  | nil =>
      intro e he
      rw [after, List.foldl_nil, hempty] at he
      exact absurd he List.not_mem_nil
  | append_singleton events event ih => exact backed_next ih event.1 event.2

/-- The lifetime of entries is settled once and for all. -/
theorem lifetime_after (f : Front σ) (events : List (Nat × ResolverEvent σ)) :
    (f.after lookup events).resolver.cache.lifetime = f.resolver.cache.lifetime := by
  induction events using List.reverseRecOn with
  | nil => rfl
  | append_singleton events event ih =>
      rw [after_concat, ← ih]
      -- Only a resolution touches the cache by reading and writing; the rest removes entries.
      cases event.2 with
      | resolve key =>
          rw [next]
          cases hprobe : ((f.after lookup events).resolver.probe event.1 key).1 with
          | some outcome =>
              rw [resolveKey_of_hit hprobe]
              exact Cache.lifetime_get _ _ _
          | none =>
              rw [resolveKey_of_miss hprobe]
              exact (Cache.lifetime_set _ _ _ _).trans (Cache.lifetime_get _ _ _)
      | invalidate key => rfl
      | invalidateTenant t => exact Resolver.lifetime_invalidateTenant _ t
      | clear => rfl
      | change registry => rfl

/-- What a resolver makes of an answer of the registry is a tenant only if the
    answer is an active one. -/
theorem tenant?_ofLookup_eq_some_iff (answer : Except Fault Tenant) (t : Tenant) :
    (Resolved.ofLookup answer).tenant? = some t ↔ answer = .ok t ∧ t.isActive = true := by
  cases answer with
  | error f => simp only [Resolved.ofLookup, Resolved.tenant?, reduceCtorEq, false_and]
  | ok u =>
      rw [Resolved.ofLookup, Except.ok.injEq]
      -- An inactive tenant is found in the registry, but the resolver treats it as unknown.
      split
      · rename_i hactive
        rw [Resolved.tenant?, Option.some.injEq]
        refine ⟨fun he => ⟨he, he ▸ hactive⟩, And.left⟩
      · rename_i hinactive
        refine iff_of_false (Option.some_ne_none t).symm ?_
        rintro ⟨rfl, hactive⟩
        exact hinactive hactive

/-- The answer to a key, at any time of any history in which the registry may
    change as it likes: it is a tenant exactly if a certain look-up of the key
    has found this tenant and it was active. That look-up is part of the history
    or of the call itself; it is younger than the lifetime of entries; and since
    then the resolver was not made to forget the key, be it under another casing,
    as a key of a tenant, or with everything else. Without a lifetime it is the
    look-up of the call itself. -/
theorem answer_is_recent (lookup : σ → String → Except Fault Tenant × σ) (chain : Chain)
    (capacity : Nat) (lifetime : Duration) (registry : σ)
    (events : List (Nat × ResolverEvent σ)) (now : Nat) (hpast : ∀ e ∈ events, e.1 ≤ now)
    (key : String) :
    let f : Front σ := { resolver := .new chain capacity lifetime, registry }
    ∃ before asked since answer,
      events ++ [(now, .resolve key)] = before ++ (asked, .resolve key) :: since ∧
        (f.after lookup before).Asks lookup asked key answer ∧
        (∀ t, ((f.after lookup events).resolveKey lookup now key).1 = some t ↔
          answer = .ok t ∧ t.isActive = true) ∧
        asked ≤ now ∧ (lifetime ≠ 0 → now - asked < lifetime) ∧ (lifetime = 0 → since = []) ∧
        ∀ e ∈ since, e.2.forgets key = false := by
  intro f
  have hlifetime : (f.after lookup events).resolver.cache.lifetime = lifetime :=
    lifetime_after f events
  cases hprobe : ((f.after lookup events).resolver.probe now key).1 with
  | none =>
      -- The call itself asks.
      refine ⟨events, now, [], _, rfl, (asks_iff _ now key _).mpr ⟨hprobe, rfl⟩, fun t => ?_,
        Nat.le_refl now, fun hne => ?_, fun _ => rfl, fun _ hc => absurd hc List.not_mem_nil⟩
      · rw [resolveKey_of_miss hprobe, tenant?_ofLookup_eq_some_iff]
      · rw [Nat.sub_self]
        exact Nat.pos_of_ne_zero hne
  | some outcome =>
      -- The answer is that of an entry, which is followed back to its look-up.
      rcases Cache.live_of_get_eq_some hprobe with ⟨e, he, rfl, rfl, hlive⟩
      rw [Cache.isStale, decide_eq_false_iff_not, Nat.not_le, hlifetime] at hlive
      rcases backed_after (f := f) rfl events e he with
        ⟨before, since, answer, hevents, hasks, hvalue, hsince⟩
      have hasked : e.stored ≤ now := hpast (e.stored, .resolve e.key) (by
        rw [hevents]
        exact List.mem_append_right _ List.mem_cons_self)
      refine ⟨before, e.stored, since ++ [(now, .resolve e.key)], answer, ?_, hasks, fun t => ?_,
        hasked, fun _ => hlive, fun hzero => ?_, fun event hevent => ?_⟩
      · rw [hevents, List.append_assoc, List.cons_append]
      · rw [resolveKey_of_hit hprobe, hvalue, tenant?_ofLookup_eq_some_iff]
      · rw [hzero] at hlive
        exact absurd hlive (Nat.not_lt_zero _)
      · rcases List.mem_append.mp hevent with hold | hnew
        · exact hsince event hold
        · rw [List.mem_singleton.mp hnew]
          rfl

/-- A look-up on a list of tenants. -/
def askRoster (ts : Roster) (key : String) : Except Fault Tenant × Roster :=
  (ts.find key, ts)

/-- A tenant is resolved, then it vanishes from the registry, and then another
    key is forgotten. -/
def visitsToGone : List (Nat × ResolverEvent Roster) :=
  [(1, .resolve "acme"), (2, .change []), (3, .invalidate "globex")]

/-- The tenant is still there for the resolver, because the registry had it four
    moments ago. -/
theorem answer_is_recent_gone :
    let f : Front Roster :=
      { resolver := .new [] 2 10, registry := [Tenant.new "acme" "Acme" ⟨0, 0⟩] }
    (∀ e ∈ visitsToGone, e.1 ≤ 5) ∧
      ((f.after askRoster visitsToGone).resolveKey askRoster 5 "acme").1 =
        some (Tenant.new "acme" "Acme" ⟨0, 0⟩) ∧
      ∃ before asked since, visitsToGone ++ [(5, .resolve "acme")] =
          before ++ (asked, .resolve "acme") :: since ∧
        (f.after askRoster before).Asks askRoster asked "acme"
          (.ok (Tenant.new "acme" "Acme" ⟨0, 0⟩)) ∧
        5 - asked < 10 := by
  intro f
  have hpast : ∀ e ∈ visitsToGone, e.1 ≤ 5 := by
    simp only [visitsToGone, List.mem_cons, List.not_mem_nil, or_false, forall_eq_or_imp,
      forall_eq]
    decide
  have hanswer : ((f.after askRoster visitsToGone).resolveKey askRoster 5 "acme").1 =
      some (Tenant.new "acme" "Acme" ⟨0, 0⟩) := by decide +kernel
  rcases answer_is_recent askRoster [] 2 10 [Tenant.new "acme" "Acme" ⟨0, 0⟩] visitsToGone 5 hpast
    "acme" with ⟨before, asked, since, answer, hevents, hasks, htenant, _, hyoung, _, _⟩
  -- The answer that the theorem speaks of is the tenant, as the computed result shows.
  have hfound := ((htenant _).mp hanswer).1
  rw [hfound] at hasks
  exact ⟨hpast, hanswer, before, asked, since, hevents, hasks, hyoung (by decide)⟩

end Front

end Multitenancy
