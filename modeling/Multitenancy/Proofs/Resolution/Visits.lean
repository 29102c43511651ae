import Multitenancy.Proofs.Resolution.Invalidation
/-!
# A Resolver Between Its Callers and a Registry

Runs of a resolver in front of a registry of which nothing is assumed.

The registry answers as it likes, changes between any two events, and is only
ever looked at through the resolver. So that it can be said when it was asked,
it is put behind a recorder that notes every look-up with its time and its
answer. Resolving a key either finds a live outcome in the cache and leaves the
registry alone, or asks it once.

Events come one after the other, each at its time, and a key is resolved
without anything else in between.

## Main definitions

* `ResolverEvent`: A key is resolved or forgotten, or the registry changes.
* `ResolverEvent.forgets`: An event makes the resolver forget a key.
* `Query`: A look-up that was noted.
* `Front`: A resolver, a registry and the look-ups so far.
* `Front.resolveKey`, `Front.resolve`: Resolving with the look-ups noted.
* `Front.after`: The state after events.
* `Front.Asks`: To resolve a key, the registry is asked.

## Theorems

* `Front.resolveKey_of_hit`, `Front.resolveKey_of_miss`: The two ways in which a
  key is resolved.
* `Front.asks_iff`: The registry is asked when the cache has no live outcome.
* `Front.queries_resolveKey`: It is asked once at most.
* `ResolverEvent.forgets_iff`: Which keys an event makes the resolver forget.
-/

namespace Multitenancy

variable {σ : Type}

/-- What may happen to a resolver in front of a registry. -/
inductive ResolverEvent (σ : Type) where
  | resolve (key : String)
  | invalidate (key : String)
  | invalidateTenant (t : Tenant)
  | clear
  /-- The registry becomes another one, whoever has changed it. -/
  | change (registry : σ)

/-- Whether an event makes the resolver forget the outcome of a key. -/
def ResolverEvent.forgets (key : String) : ResolverEvent σ → Bool
  | .invalidate k => Resolver.sameKey k key
  | .invalidateTenant t => t.routingKeys.any fun k => Resolver.sameKey k key
  | .clear => true
  | .resolve _ | .change _ => false

/-- A look-up that a registry was asked for. -/
structure Query where
  time : Nat
  key : String
  answer : Except Fault Tenant

/-- A resolver, the registry behind it, and the look-ups that this was asked
    for. -/
structure Front (σ : Type) where
  resolver : Resolver
  registry : σ
  queries : List Query := []

namespace Front

/-- A look-up that is noted. -/
def noting (lookup : σ → String → Except Fault Tenant × σ) (now : Nat) (s : σ × List Query)
    (key : String) : Except Fault Tenant × (σ × List Query) :=
  let (answer, registry) := lookup s.1 key
  (answer, registry, s.2 ++ [{ time := now, key, answer }])

variable (lookup : σ → String → Except Fault Tenant × σ)

/-- Resolve a key. -/
def resolveKey (f : Front σ) (now : Nat) (key : String) : Option Tenant × Front σ :=
  let (tenant, resolver, registry, queries) :=
    f.resolver.resolveKey (noting lookup now) (f.registry, f.queries) now key
  (tenant, { resolver, registry, queries })

/-- Resolve a request. -/
def resolve (f : Front σ) (now : Nat) (request : AppRequest) : Option Tenant × Front σ :=
  let (tenant, resolver, registry, queries) :=
    f.resolver.resolve (noting lookup now) (f.registry, f.queries) now request
  (tenant, { resolver, registry, queries })

/-- The state after an event. -/
def next (f : Front σ) (now : Nat) : ResolverEvent σ → Front σ
  | .resolve key => (f.resolveKey lookup now key).2
  | .invalidate key => { f with resolver := f.resolver.invalidate key }
  | .invalidateTenant t => { f with resolver := f.resolver.invalidateTenant t }
  | .clear => { f with resolver := f.resolver.clear }
  | .change registry => { f with registry }

/-- The state after events that come one after the other, each at its time. -/
def after (f : Front σ) (events : List (Nat × ResolverEvent σ)) : Front σ :=
  events.foldl (fun f e => f.next lookup e.1 e.2) f

/-- If a key is resolved now, the registry is asked for it and answers. -/
def Asks (f : Front σ) (now : Nat) (key : String) (answer : Except Fault Tenant) : Prop :=
  answer = (lookup f.registry key).1 ∧
    (f.resolveKey lookup now key).2.queries = f.queries ++ [{ time := now, key, answer }]

variable {lookup}

theorem after_append (f : Front σ) (before later : List (Nat × ResolverEvent σ)) :
    f.after lookup (before ++ later) = (f.after lookup before).after lookup later :=
  List.foldl_append

theorem after_concat (f : Front σ) (events : List (Nat × ResolverEvent σ)) (now : Nat)
    (e : ResolverEvent σ) :
    f.after lookup (events ++ [(now, e)]) = (f.after lookup events).next lookup now e := by
  rw [after_append]
  rfl

/-! ### Resolving -/

/-- With a live outcome in the cache the registry is left alone. -/
theorem resolveKey_of_hit {f : Front σ} {now : Nat} {key : String} {outcome : Resolved}
    (h : (f.resolver.probe now key).1 = some outcome) :
    f.resolveKey lookup now key =
      (outcome.tenant?, { f with resolver := (f.resolver.probe now key).2 }) := by
  rcases hprobe : f.resolver.probe now key with ⟨hit, resolver⟩
  rw [hprobe] at h
  simp only at h
  subst h
  simp only [resolveKey, Resolver.resolveKey, hprobe]

/-- Without one it is asked, and the outcome is cached. -/
theorem resolveKey_of_miss {f : Front σ} {now : Nat} {key : String}
    (h : (f.resolver.probe now key).1 = none) :
    f.resolveKey lookup now key =
      ((Resolved.ofLookup (lookup f.registry key).1).tenant?,
        { resolver := (f.resolver.probe now key).2.fill now key
            (.ofLookup (lookup f.registry key).1)
          registry := (lookup f.registry key).2
          queries := f.queries ++
            [{ time := now, key, answer := (lookup f.registry key).1 }] }) := by
  -- The probe has found nothing, whatever it did to the cache on the way.
  rcases hprobe : f.resolver.probe now key with ⟨hit, resolver⟩
  rw [hprobe] at h
  simp only at h
  subst h
  simp only [resolveKey, Resolver.resolveKey, hprobe, noting]

theorem asks_iff (f : Front σ) (now : Nat) (key : String) (answer : Except Fault Tenant) :
    f.Asks lookup now key answer ↔
      (f.resolver.probe now key).1 = none ∧ answer = (lookup f.registry key).1 := by
  rw [Asks, and_comm]
  refine and_congr_left fun hanswer => ?_
  cases hprobe : (f.resolver.probe now key).1 with
  | none =>
      rw [resolveKey_of_miss hprobe, hanswer]
      exact iff_of_true rfl rfl
  | some outcome =>
      -- The list of look-ups has not become longer.
      rw [resolveKey_of_hit hprobe]
      refine iff_of_false (fun hqueries => ?_) (Option.some_ne_none outcome)
      exact List.cons_ne_nil _ _ (List.self_eq_append_right.mp hqueries)

/-- To resolve a key the registry is asked for this key, and once at most. -/
theorem queries_resolveKey (f : Front σ) (now : Nat) (key : String) :
    (f.resolveKey lookup now key).2.queries = f.queries ∨
      ∃ answer, f.Asks lookup now key answer := by
  cases hprobe : (f.resolver.probe now key).1 with
  | none => exact Or.inr ⟨_, (f.asks_iff now key _).mpr ⟨hprobe, rfl⟩⟩
  | some outcome =>
      rw [resolveKey_of_hit hprobe]
      exact Or.inl rfl

/-- Resolving a request is resolving its key, if it has one. -/
theorem resolve_eq (f : Front σ) (now : Nat) (request : AppRequest) :
    f.resolve lookup now request = match f.resolver.chain.key? request with
      | some (_, key) => f.resolveKey lookup now key
      | none => (none, f) := by
  unfold resolve Resolver.resolve resolveKey
  cases f.resolver.chain.key? request with
  | none => rfl
  | some p => rfl

end Front

/-! ### Forgetting -/

theorem ResolverEvent.forgets_iff (e : ResolverEvent σ) (key : String) :
    e.forgets key = true ↔ match e with
      | .invalidate k => foldKey key = foldKey k
      | .invalidateTenant t => ∃ k ∈ t.routingKeys, foldKey key = foldKey k
      | .clear => True
      | .resolve _ | .change _ => False := by
  -- Only three kinds of event make a resolver forget.
  cases e with
  | invalidate k => exact Resolver.sameKey_iff k key
  | invalidateTenant t => simp only [forgets, List.any_eq_true, Resolver.sameKey_iff]
  | clear => exact iff_of_true rfl trivial
  | resolve k => exact iff_of_false Bool.false_ne_true id
  | change registry => exact iff_of_false Bool.false_ne_true id

end Multitenancy
