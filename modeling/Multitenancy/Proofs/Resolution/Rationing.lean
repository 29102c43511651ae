import Multitenancy.Proofs.Cache.Recency
import Multitenancy.Proofs.Resolution.Visits
/-!
# How Often the Registry Is Asked

What it takes for the resolver to ask the registry for one key twice.

Whatever the registry answers, a tenant, nobody or a fault, the outcome is
cached. So a second look-up of the key needs a reason for which the cache has
lost the first outcome: it has grown old, the resolver was made to forget it,
or as many other keys as there is room for were resolved in the meantime. The
last reason is read off the account of the cache: everything the resolver does
is a list of calls to its cache, a value that was written stands until it is
removed, and what stands is only pushed out by keys that were used since.

## Main definitions

* `Front.cacheCalls`, `Front.calls`: The calls that events make to the cache.
* `Front.Makes`: For what an event makes a call.
* `Chronological`: The times of events do not run backwards.
* `resolvedKeys`: The different keys that events resolve.

## Theorems

* `Front.cache_after`: The cache is what the calls make of it.
* `Cache.mem_uses`: Only keys that are read or written are used.
* `Front.standing_since`: An outcome stands as long as nobody makes the resolver
  forget the key.
* `Front.usedSince_subset`: Only keys that were resolved since push it out.
* `Front.queries_rationed`: Two look-ups of one key have a reason between them.
-/

namespace Multitenancy

/-! ### Standing and use -/

section Calls

variable {α : Type}

/-- What stands does so after more calls that do not end it. -/
theorem Standing.append {calls more : List (Nat × CacheCall α)} {e : CacheEntry α}
    (h : Standing calls e) (hmore : ∀ call ∈ more, call.2.ends e.key = false) :
    Standing (calls ++ more) e := by
  rcases h with ⟨before, since, rfl, hsince⟩
  refine ⟨before, since ++ more, by rw [List.append_assoc, List.cons_append], fun call hcall => ?_⟩
  rcases List.mem_append.mp hcall with hold | hnew
  · exact hsince call hold
  · exact hmore call hnew

namespace Cache

theorem after_append (c : Cache α) (calls more : List (Nat × CacheCall α)) :
    c.after (calls ++ more) = (c.after calls).after more :=
  List.foldl_append

theorem uses_append (c : Cache α) (calls more : List (Nat × CacheCall α)) :
    c.uses (calls ++ more) = (c.after calls).uses more ++ c.uses calls := by
  induction calls generalizing c with
  | nil => exact (List.append_nil _).symm
  | cons first rest ih =>
      rw [List.cons_append, uses, ih, uses, List.append_assoc]
      rfl

/-- A call uses a key only if it reads or writes it. -/
theorem of_used? {c : Cache α} {now : Nat} {call : CacheCall α} {key : String}
    (h : c.used? now call = some key) : call = .get key ∨ ∃ value, call = .set key value := by
  -- Only reads that hit and writes count as uses.
  cases call with
  | set k value =>
      rw [used?, Option.some.injEq] at h
      exact Or.inr ⟨value, by rw [h]⟩
  | get k =>
      rw [used?] at h
      split at h
      · rw [Option.some.injEq] at h
        exact Or.inl (by rw [h])
      · exact absurd h.symm (Option.some_ne_none key)
  | _ => exact absurd h.symm (Option.some_ne_none key)

theorem mem_uses {c : Cache α} {calls : List (Nat × CacheCall α)} {key : String}
    (h : key ∈ c.uses calls) :
    ∃ call ∈ calls, call.2 = .get key ∨ ∃ value, call.2 = .set key value := by
  induction calls generalizing c with
  | nil => exact absurd h List.not_mem_nil
  | cons first rest ih =>
      rw [uses, List.mem_append, Option.mem_toList] at h
      -- The key was used by the first call or by one of the rest.
      rcases h with hrest | hfirst
      · rcases ih hrest with ⟨call, hcall, hkey⟩
        exact ⟨call, List.mem_cons_of_mem _ hcall, hkey⟩
      · exact ⟨first, List.mem_cons_self, of_used? hfirst⟩

end Cache

/-- The keys that were used since the last use of a key are among those that
    come before any use of it. -/
theorem usedSince_append_subset (key : String) (uses earlier : List String) :
    usedSince key (uses ++ key :: earlier) ⊆ uses.toFinset.erase key := by
  intro k hk
  rw [usedSince, List.mem_toFinset] at hk
  -- The search stops at the first use of the key, so it never gets to the earlier ones.
  have hother := List.mem_takeWhile_imp hk
  have hne : k ≠ key := bne_iff_ne.mp hother
  rw [List.takeWhile_append, List.takeWhile_cons, bne_self_eq_false, if_neg Bool.false_ne_true,
    List.append_nil] at hk
  refine Finset.mem_erase.mpr ⟨hne, List.mem_toFinset.mpr ?_⟩
  split at hk
  · exact hk
  · exact (List.takeWhile_prefix _).subset hk

end Calls

variable {σ : Type}

/-- The times of events do not run backwards. -/
def Chronological (events : List (Nat × ResolverEvent σ)) : Prop :=
  events.Pairwise fun e e' => e.1 ≤ e'.1

/-- The different keys that events resolve. -/
def resolvedKeys (events : List (Nat × ResolverEvent σ)) : Finset String :=
  (events.filterMap fun e => match e.2 with
    | .resolve key => some key
    | _ => none).toFinset

theorem mem_resolvedKeys {events : List (Nat × ResolverEvent σ)} {e : Nat × ResolverEvent σ}
    (h : e ∈ events) {key : String} (hkey : e.2 = .resolve key) : key ∈ resolvedKeys events := by
  rw [resolvedKeys, List.mem_toFinset, List.mem_filterMap]
  exact ⟨e, h, by rw [hkey]⟩

namespace Front

variable (lookup : σ → String → Except Fault Tenant × σ)

/-! ### The calls to the cache -/

/-- The calls that an event makes to the cache. -/
def cacheCalls (f : Front σ) (now : Nat) : ResolverEvent σ → List (Nat × CacheCall Resolved)
  | .resolve key =>
    match (f.resolver.probe now key).1 with
    | some _ => [(now, .get key)]
    | none => [(now, .get key), (now, .set key (.ofLookup (lookup f.registry key).1))]
  | .invalidate key => [(now, .deleteMatching (Resolver.sameKey key))]
  | .invalidateTenant t =>
    t.routingKeys.map fun key => (now, .deleteMatching (Resolver.sameKey key))
  | .clear => [(now, .clear)]
  | .change _ => []

/-- The calls that events make to the cache. -/
def calls (f : Front σ) : List (Nat × ResolverEvent σ) → List (Nat × CacheCall Resolved)
  | [] => []
  | e :: rest => f.cacheCalls lookup e.1 e.2 ++ (f.next lookup e.1 e.2).calls rest

variable {lookup}

theorem calls_append (f : Front σ) (before later : List (Nat × ResolverEvent σ)) :
    f.calls lookup (before ++ later) =
      f.calls lookup before ++ (f.after lookup before).calls lookup later := by
  induction before generalizing f with
  | nil => rfl
  | cons e rest ih =>
      rw [List.cons_append, calls, ih, calls, List.append_assoc]
      rfl

theorem calls_concat (f : Front σ) (events : List (Nat × ResolverEvent σ)) (now : Nat)
    (e : ResolverEvent σ) :
    f.calls lookup (events ++ [(now, e)]) =
      f.calls lookup events ++ (f.after lookup events).cacheCalls lookup now e := by
  rw [calls_append, calls, calls, List.append_nil]

/-- An event does to the cache what its calls do. -/
theorem cache_next (f : Front σ) (now : Nat) (e : ResolverEvent σ) :
    (f.next lookup now e).resolver.cache =
      f.resolver.cache.after (f.cacheCalls lookup now e) := by
  cases e with
  | resolve key =>
      rw [next, cacheCalls]
      cases hprobe : (f.resolver.probe now key).1 with
      | some outcome =>
          rw [resolveKey_of_hit hprobe]
          rfl
      | none =>
          rw [resolveKey_of_miss hprobe]
          rfl
  | invalidate key => rfl
  | invalidateTenant t =>
      -- One key is forgotten after the other.
      have hkeys : ∀ (keys : List String) (r : Resolver),
          (keys.foldl Resolver.invalidate r).cache =
            r.cache.after (keys.map fun key => (now, .deleteMatching (Resolver.sameKey key))) := by
        intro keys
        induction keys with
        | nil => exact fun _ => rfl
        | cons key rest ih => exact fun r => ih (r.invalidate key)
      exact hkeys t.routingKeys f.resolver
  | clear => rfl
  | change registry => rfl

/-- The cache is what the calls make of it. -/
theorem cache_after (f : Front σ) (events : List (Nat × ResolverEvent σ)) :
    (f.after lookup events).resolver.cache =
      f.resolver.cache.after (f.calls lookup events) := by
  induction events generalizing f with
  | nil => rfl
  | cons e rest ih =>
      -- The first event makes its calls, and the rest is run on the cache that they leave.
      have hrest := ih (f.next lookup e.1 e.2)
      rw [cache_next] at hrest
      rw [calls, Cache.after_append, ← hrest]
      rfl

/-- A call of a history is one of an event, in the state in which this comes. -/
theorem mem_calls {f : Front σ} {events : List (Nat × ResolverEvent σ)}
    {call : Nat × CacheCall Resolved} (h : call ∈ f.calls lookup events) :
    ∃ (g : Front σ) (e : Nat × ResolverEvent σ), e ∈ events ∧
      call ∈ g.cacheCalls lookup e.1 e.2 := by
  induction events generalizing f with
  | nil => exact absurd h List.not_mem_nil
  | cons e rest ih =>
      -- A call belongs to the first event or to one of the rest.
      rcases List.mem_append.mp h with hfirst | hrest
      · exact ⟨f, e, List.mem_cons_self, hfirst⟩
      · rcases ih hrest with ⟨g, e', he', hcall⟩
        exact ⟨g, e', List.mem_cons_of_mem _ he', hcall⟩

/-- For what an event makes a call: to read a key that is resolved, to write the
    outcome of a look-up, or to remove keys that are to be forgotten. -/
inductive Makes (lookup : σ → String → Except Fault Tenant × σ) (f : Front σ) (now : Nat) :
    ResolverEvent σ → CacheCall Resolved → Prop
  | read {key : String} : Makes lookup f now (.resolve key) (.get key)
  | fill {key : String} (hprobe : (f.resolver.probe now key).1 = none) :
      Makes lookup f now (.resolve key) (.set key (.ofLookup (lookup f.registry key).1))
  | remove {e : ResolverEvent σ} {doomed : String → Bool}
      (hdoomed : ∀ key, doomed key = true → e.forgets key = true) :
      Makes lookup f now e (.deleteMatching doomed)
  | clear : Makes lookup f now .clear .clear

/-- An event makes its calls at its time, each for one of these reasons. -/
theorem makes_of_mem {f : Front σ} {now : Nat} {e : ResolverEvent σ}
    {call : Nat × CacheCall Resolved} (h : call ∈ f.cacheCalls lookup now e) :
    call.1 = now ∧ Makes lookup f now e call.2 := by
  cases e with
  | resolve key =>
      -- A key that is cached is only read; otherwise the answer is written too.
      simp only [cacheCalls] at h
      split at h
      · rw [List.mem_singleton.mp h]
        exact ⟨rfl, .read⟩
      · rename_i hprobe
        rw [List.mem_cons, List.mem_singleton] at h
        rcases h with rfl | rfl
        · exact ⟨rfl, .read⟩
        · exact ⟨rfl, .fill hprobe⟩
  | invalidate key =>
      rw [List.mem_singleton.mp h]
      exact ⟨rfl, .remove fun _ hdoomed => hdoomed⟩
  | invalidateTenant t =>
      -- For a tenant there is one call for each of its keys.
      rcases List.mem_map.mp h with ⟨key, hkey, rfl⟩
      exact ⟨rfl, .remove fun _ hdoomed => List.any_eq_true.mpr ⟨key, hkey, hdoomed⟩⟩
  | clear =>
      rw [List.mem_singleton.mp h]
      exact ⟨rfl, .clear⟩
  | change registry => exact absurd h List.not_mem_nil

theorem le_of_mem_calls {f : Front σ} {events : List (Nat × ResolverEvent σ)} {now : Nat}
    (hpast : ∀ e ∈ events, e.1 ≤ now) {call : Nat × CacheCall Resolved}
    (h : call ∈ f.calls lookup events) : call.1 ≤ now := by
  rcases mem_calls h with ⟨g, e, he, hcall⟩
  rw [(makes_of_mem hcall).1]
  exact hpast e he

/-- A call that reads or writes a key is made to resolve it. -/
theorem Makes.eq_resolve {f : Front σ} {now : Nat} {e : ResolverEvent σ}
    {call : CacheCall Resolved} (h : Makes lookup f now e call) {key : String}
    (hkey : call = .get key ∨ ∃ value, call = .set key value) : e = .resolve key := by
  cases h with
  -- Removals and clearing are calls of another kind.
  | read =>
      simp only [CacheCall.get.injEq, reduceCtorEq, exists_false, or_false] at hkey
      rw [hkey]
  | fill =>
      simp only [CacheCall.set.injEq, reduceCtorEq, exists_and_left, false_or] at hkey
      rw [hkey.1]
  | remove | clear => simp only [reduceCtorEq, exists_false, or_self] at hkey

/-- A key is read or written only to resolve it. -/
theorem mem_resolvedKeys_of_call {f : Front σ} {events : List (Nat × ResolverEvent σ)}
    {call : Nat × CacheCall Resolved} (h : call ∈ f.calls lookup events) {key : String}
    (hkey : call.2 = .get key ∨ ∃ value, call.2 = .set key value) :
    key ∈ resolvedKeys events := by
  rcases mem_calls h with ⟨g, e, he, hcall⟩
  exact mem_resolvedKeys he ((makes_of_mem hcall).2.eq_resolve hkey)

/-! ### Keeping an outcome -/

/-- An event whose call ends a key makes the resolver forget the key, or asks
    for it anew. -/
theorem Makes.of_ends {f : Front σ} {now : Nat} {e : ResolverEvent σ}
    {call : CacheCall Resolved} (h : Makes lookup f now e call) {key : String}
    (hends : call.ends key = true) :
    e.forgets key = true ∨ (e = .resolve key ∧ (f.resolver.probe now key).1 = none) := by
  cases h with
  | read => exact absurd hends Bool.false_ne_true
  | @fill k hprobe =>
      -- A write of the key ends what was stored under it, and it is made after a miss.
      have hk : k = key := eq_of_beq hends
      subst hk
      exact Or.inr ⟨rfl, hprobe⟩
  | remove hdoomed => exact Or.inl (hdoomed key hends)
  | clear => exact Or.inl rfl

/-- Asking for a key leaves the outcome standing. -/
theorem standing_of_miss {f : Front σ} {now : Nat} {key : String}
    (hprobe : (f.resolver.probe now key).1 = none) (calls : List (Nat × CacheCall Resolved)) :
    Standing (calls ++ f.cacheCalls lookup now (.resolve key))
      { key, value := .ofLookup (lookup f.registry key).1, stored := now } := by
  refine ⟨calls ++ [(now, .get key)], [], ?_, fun _ hc => absurd hc List.not_mem_nil⟩
  simp only [cacheCalls, hprobe, List.append_assoc, List.cons_append, List.nil_append]

/-- An event that does not make the resolver forget a key leaves an outcome of
    the key standing, be it the one before or a younger one. -/
theorem standing_next {f : Front σ} {first now : Nat} {event : ResolverEvent σ}
    {calls : List (Nat × CacheCall Resolved)} {e : CacheEntry Resolved} (h : Standing calls e)
    (hstored : first ≤ e.stored) (htime : first ≤ now) (hforgets : event.forgets e.key = false) :
    ∃ e', e'.key = e.key ∧ first ≤ e'.stored ∧
      Standing (calls ++ f.cacheCalls lookup now event) e' := by
  -- If the key is asked for anew, the younger outcome takes the place of the old one.
  by_cases hasks : event = .resolve e.key ∧ (f.resolver.probe now e.key).1 = none
  · rcases hasks with ⟨rfl, hprobe⟩
    refine ⟨_, ?_, ?_, standing_of_miss hprobe calls⟩
    · rfl
    · exact htime
  · refine ⟨e, rfl, hstored, h.append fun call hcall => ?_⟩
    rw [← Bool.not_eq_true]
    intro hends
    rcases (makes_of_mem hcall).2.of_ends hends with hforgotten | hasked
    · rw [hforgotten] at hforgets
      exact absurd hforgets.symm Bool.false_ne_true
    · exact hasks hasked

/-- Once the registry was asked for a key, an outcome at least that young stands
    as long as nobody makes the resolver forget the key. -/
theorem standing_since {f : Front σ} {before : List (Nat × ResolverEvent σ)} {first : Nat}
    {key : String} (hprobe : ((f.after lookup before).resolver.probe first key).1 = none)
    (mid : List (Nat × ResolverEvent σ)) (hlater : ∀ e ∈ mid, first ≤ e.1)
    (hforgets : ∀ e ∈ mid, e.2.forgets key = false) :
    ∃ e, e.key = key ∧ first ≤ e.stored ∧
      Standing (f.calls lookup (before ++ [(first, .resolve key)] ++ mid)) e := by
  -- Something stands after the question, and every later event keeps it or writes it anew.
  induction mid using List.reverseRecOn with
  | nil =>
      rw [List.append_nil, calls_concat]
      exact ⟨_, rfl, Nat.le_refl _, standing_of_miss hprobe _⟩
  | append_singleton mid last ih =>
      have hlast : last ∈ mid ++ [last] := List.mem_append_right _ List.mem_cons_self
      rcases ih (fun e he => hlater e (List.mem_append_left _ he))
        (fun e he => hforgets e (List.mem_append_left _ he)) with ⟨e, rfl, hstored, hstanding⟩
      rw [← List.append_assoc, calls_concat]
      exact standing_next hstanding hstored (hlater last hlast) (hforgets last hlast)

/-- What may push the outcome out is a key that was resolved since. -/
theorem usedSince_subset {f : Front σ} {before : List (Nat × ResolverEvent σ)} {first : Nat}
    {key : String} (hprobe : ((f.after lookup before).resolver.probe first key).1 = none)
    (mid : List (Nat × ResolverEvent σ)) :
    usedSince key (f.resolver.cache.uses
        (f.calls lookup (before ++ [(first, .resolve key)] ++ mid))) ⊆
      (resolvedKeys mid).erase key := by
  -- The write of the outcome is the last call of the event.
  have hwrite : f.calls lookup (before ++ [(first, .resolve key)]) =
      f.calls lookup before ++ [(first, .get key)] ++
        [(first, .set key (.ofLookup (lookup (f.after lookup before).registry key).1))] := by
    rw [calls_concat, List.append_assoc]
    simp only [cacheCalls, hprobe, List.cons_append, List.nil_append]
  have huses := Cache.uses_append f.resolver.cache
    (f.calls lookup (before ++ [(first, .resolve key)]))
    ((f.after lookup (before ++ [(first, .resolve key)])).calls lookup mid)
  rw [calls_append, huses, hwrite, Cache.uses_concat]
  refine (usedSince_append_subset key _ _).trans (Finset.erase_subset_erase key fun k hk => ?_)
  rcases Cache.mem_uses (List.mem_toFinset.mp hk) with ⟨call, hcall, hkey⟩
  exact mem_resolvedKeys_of_call hcall hkey

/-- A resolver that was made to forget nothing of a key, and that has resolved
    fewer other keys than there is room for, still has the outcome of a look-up
    that is younger than the lifetime of entries. -/
theorem probe_ne_none {f : Front σ} {capacity : Nat} {lifetime : Duration}
    (hcache : f.resolver.cache = .empty capacity lifetime) (hlifetime : lifetime ≠ 0)
    {before mid : List (Nat × ResolverEvent σ)} {first second : Nat} {key : String}
    (hprobe : ((f.after lookup before).resolver.probe first key).1 = none)
    (hlater : ∀ e ∈ mid, first ≤ e.1)
    (hpast : ∀ e ∈ before ++ [(first, .resolve key)] ++ mid, e.1 ≤ second)
    (hyoung : second - first < lifetime) (hforgets : ∀ e ∈ mid, e.2.forgets key = false)
    (hfew : ((resolvedKeys mid).erase key).card < max 1 capacity) :
    ((f.after lookup (before ++ [(first, .resolve key)] ++ mid)).resolver.probe second key).1 ≠
      none := by
  have hafter : (f.after lookup (before ++ [(first, .resolve key)] ++ mid)).resolver.cache =
      (Cache.empty capacity lifetime).after
        (f.calls lookup (before ++ [(first, .resolve key)] ++ mid)) := by
    rw [← hcache]
    exact f.cache_after _
  have hlifetime' : (f.after lookup
      (before ++ [(first, .resolve key)] ++ mid)).resolver.cache.lifetime = lifetime := by
    rw [hafter, Cache.lifetime_after]
    rfl
  rcases standing_since hprobe mid hlater hforgets with ⟨e, rfl, hstored, hstanding⟩
  have hlive : second - e.stored < lifetime :=
    Nat.lt_of_le_of_lt (Nat.sub_le_sub_left hstored second) hyoung
  have hfollows := Cache.follows_after capacity hlifetime
    (f.calls lookup (before ++ [(first, .resolve e.key)] ++ mid))
  have hused := Finset.card_le_card (usedSince_subset hprobe mid)
  rw [hcache] at hused
  have hroom : (usedSince e.key ((Cache.empty capacity lifetime).uses
      (f.calls lookup (before ++ [(first, .resolve e.key)] ++ mid)))).card <
      (f.after lookup (before ++ [(first, .resolve e.key)] ++ mid)).resolver.cache.capacity := by
    rw [hafter, Cache.capacity_after]
    exact Nat.lt_of_le_of_lt hused hfew
  have hfresh : (f.after lookup (before ++ [(first, .resolve e.key)] ++ mid)).resolver.cache.isStale
      second e = false := by
    rw [Cache.isStale, hlifetime', decide_eq_false_iff_not, Nat.not_le]
    exact hlive
  rw [← hafter] at hfollows
  -- The entry is there, because too few keys were used to push it out.
  have he := hfollows.kept e second hstanding (fun call hcall => le_of_mem_calls hpast hcall)
    hfresh hroom
  have hget : (((f.after lookup (before ++ [(first, .resolve e.key)] ++ mid)).resolver.cache.get
      second e.key).1) = some e.value := by
    refine (hfollows.tidy.get_eq_some_iff second e.key e.value).mpr ⟨e.stored, he, ?_⟩
    rw [hlifetime']
    exact hlive
  intro hnone
  exact absurd (hget.symm.trans hnone) (Option.some_ne_none e.value)

/-- Look-ups are rationed. If the registry is asked twice for one key, then the
    lifetime of entries has passed in between, or the resolver was made to forget
    the key, or as many other keys as there is room for were resolved. To resolve
    a key the registry is asked once at most, and for no other key; for a request
    in which no strategy finds a key it is not asked, and nothing changes. -/
theorem queries_rationed (lookup : σ → String → Except Fault Tenant × σ) (chain : Chain)
    (capacity : Nat) (lifetime : Duration) (registry : σ) :
    let f : Front σ := { resolver := .new chain capacity lifetime, registry }
    (∀ (before mid : List (Nat × ResolverEvent σ)) (first second : Nat) (key : String)
        (answer answer' : Except Fault Tenant),
      Chronological (before ++ (first, .resolve key) :: mid ++ [(second, .resolve key)]) →
        (f.after lookup before).Asks lookup first key answer →
        (f.after lookup (before ++ (first, .resolve key) :: mid)).Asks lookup second key answer' →
        lifetime ≤ second - first ∨ (∃ e ∈ mid, e.2.forgets key = true) ∨
          max 1 capacity ≤ ((resolvedKeys mid).erase key).card) ∧
      (∀ (g : Front σ) (now : Nat) (key : String),
        (g.resolveKey lookup now key).2.queries = g.queries ∨
          ∃ answer, (g.resolveKey lookup now key).2.queries =
            g.queries ++ [{ time := now, key, answer }]) ∧
      ∀ (g : Front σ) (now : Nat) (request : AppRequest),
        g.resolver.chain.key? request = none → g.resolve lookup now request = (none, g) := by
  intro f
  refine ⟨fun before mid first second key answer answer' hsorted hfirst hsecond => ?_,
    fun g now key => ?_, fun g now request hkey => ?_⟩
  · -- Without any of the reasons the first outcome would still be there.
    by_contra hreason
    rw [not_or, not_or, Nat.not_le, Nat.not_le] at hreason
    rcases hreason with ⟨hyoung, hforgets, hfew⟩
    rw [List.append_cons before] at hsorted hsecond
    rw [asks_iff] at hfirst hsecond
    rw [Chronological] at hsorted
    rcases List.pairwise_append.mp hsorted with ⟨hbefore, _, hlast⟩
    refine probe_ne_none (f := f) rfl (Nat.ne_zero_of_lt hyoung) hfirst.1 (fun e he => ?_)
      (fun e he => hlast e he (second, .resolve key) List.mem_cons_self) hyoung (fun e he => ?_)
      hfew hsecond.1
    · exact (List.pairwise_append.mp hbefore).2.2 (first, .resolve key)
        (List.mem_append_right _ List.mem_cons_self) e he
    · exact Bool.eq_false_iff.mpr fun hforgotten => hforgets ⟨e, he, hforgotten⟩
  · have hasked : _ ∨ ∃ answer, g.Asks lookup now key answer := g.queries_resolveKey now key
    exact hasked.imp_right fun ⟨answer, hasks⟩ => ⟨answer, hasks.2⟩
  · rw [resolve_eq, hkey]

/-- Two keys are resolved. -/
def otherVisits : List (Nat × ResolverEvent Unit) :=
  [(1, .resolve "globex"), (2, .resolve "initech")]

/-- Nothing is ever found. -/
def askNobody (s : Unit) (key : String) : Except Fault Tenant × Unit :=
  (.error (.unknownTenant key), s)

/-- A cache with room for two keys has lost the first one to the others, so the
    registry is asked again before the lifetime of entries is over. -/
theorem queries_rationed_crowded :
    let f : Front Unit := { resolver := .new [] 2 10, registry := () }
    f.Asks askNobody 0 "acme" (.error (.unknownTenant "acme")) ∧
      (f.after askNobody ((0, .resolve "acme") :: otherVisits)).Asks askNobody 3 "acme"
        (.error (.unknownTenant "acme")) ∧
      max 1 2 ≤ ((resolvedKeys otherVisits).erase "acme").card := by
  intro f
  have hfirst : f.Asks askNobody 0 "acme" (.error (.unknownTenant "acme")) :=
    (f.asks_iff 0 "acme" _).mpr ⟨by decide +kernel, rfl⟩
  have hsecond : (f.after askNobody ((0, .resolve "acme") :: otherVisits)).Asks askNobody 3 "acme"
      (.error (.unknownTenant "acme")) := (asks_iff _ 3 "acme" _).mpr ⟨by decide +kernel, rfl⟩
  have hsorted : Chronological ([] ++ ((0, .resolve "acme") :: otherVisits) ++
      [(3, .resolve "acme")]) := by
    simp only [Chronological, otherVisits]
    decide
  -- Of the three excuses only the last one is left: no lifetime is over, and nobody makes the
  -- resolver forget the key.
  rcases (queries_rationed askNobody [] 2 10 ()).1 [] otherVisits 0 3 "acme" _ _ hsorted hfirst
    hsecond with hold | ⟨e, he, hforgets⟩ | hcrowded
  · exact absurd hold (by decide)
  · simp only [otherVisits, List.mem_cons, List.not_mem_nil, or_false] at he
    rcases he with rfl | rfl
    · exact absurd hforgets Bool.false_ne_true
    · exact absurd hforgets Bool.false_ne_true
  · exact ⟨hfirst, hsecond, hcrowded⟩

end Front

end Multitenancy
