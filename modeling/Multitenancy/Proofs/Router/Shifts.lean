import Multitenancy.Proofs.Cache
import Multitenancy.Proofs.Histories
import Multitenancy.Proofs.Outcome
import Multitenancy.Router.Dispatch
/-!
# What an Event Does to the Router

Dispatches, builds, locks and built handlers, from one event to the next.

What a dispatch does depends on a good deal: on the chain of strategies, on
hooks and handlers, on what the cache holds. Most of it is no matter of who
builds what. `Walk` says what is left of a step that touches neither the locks
nor the builds, and `Change` has one case for each of the few events that do.
Everything that is true of dispatches side by side is proved along these cases;
the steps themselves are opened here and nowhere else.

Nothing is said of the environment, since hooks and handlers may do to it what
they like, and little of registered handlers, which come and go by events of
their own.

## Main definitions

* `Router.Steady`: The handlers that are registered stay, and so does what a
  router is set up with.
* `Walk`: A step that touches neither locks nor builds.
* `Change`: What an event does to dispatches, builds and locks.
* `Shift`: What an event does.
* `Move`: What an event does to one dispatch.
* `Shift.OnDispatches`, `Shift.OnBuilds`: What is left of it for the dispatches
  alone and for the builds alone.

## Theorems

* `Router.lookup_eq_some`, `Router.lookup_cases`, `Router.lookup_of_contains`:
  Where a handler that is found comes from, and when one is found.
* `Shift.stage_origin`, `Shift.stage_next`: A dispatch before and after an
  event.
* `Switchboard.next_seek`, `Switchboard.next_enter`, `Switchboard.next_collect`:
  Dispatches that get a handler.
* `Switchboard.next_finish`: A build that ends.
* `Switchboard.step_steady`: A dispatch registers no handler.
* `Switchboard.next_steady`: When registered handlers change.
* `Switchboard.next_lifetime`: Built handlers are kept for the same time.
* `Switchboard.shift_next`: Every event is a shift.
-/

namespace Multitenancy

variable {η : Type}

/-! ### Looking up -/

namespace Router

/-- A handler that is found is registered or, without a registered one, built
    and live. -/
theorem lookup_eq_some {r : Router η} {now : Nat} {id : String} {found : Found η}
    (h : (r.lookup now id).1 = some found) :
    (∃ handler, found = .registered handler ∧ r.handlers.get? id = some handler) ∨
      ∃ b, found = .built b ∧ r.handlers.get? id = none ∧ (r.built.get now id).1 = some b := by
  unfold lookup at h
  -- A registered handler comes first; the cache is asked only without one.
  cases hregistered : r.handlers.get? id with
  | some handler =>
      rw [hregistered, Option.some.injEq] at h
      exact Or.inl ⟨handler, h.symm, rfl⟩
  | none =>
      rw [hregistered] at h
      simp only [Option.map_eq_some_iff] at h
      rcases h with ⟨b, hget, rfl⟩
      exact Or.inr ⟨b, rfl, rfl, hget⟩

/-- A handler that is found is registered, or the value of an entry of a tenant
    that has no registered handler. -/
theorem lookup_cases {r : Router η} {now : Nat} {id : String} {found : Found η}
    (h : (r.lookup now id).1 = some found) :
    (∃ handler, found = .registered handler ∧ r.handlers.get? id = some handler) ∨
      ∃ e ∈ r.built.entries, found = .built e.value ∧ e.key = id := by
  rcases lookup_eq_some h with hregistered | ⟨c, rfl, _, hget⟩
  · exact Or.inl hregistered
  · rcases Cache.mem_of_get_eq_some hget with ⟨e, he, hkey, rfl⟩
    exact Or.inr ⟨e, he, rfl, hkey⟩

theorem lookup_eq_none_iff (r : Router η) (now : Nat) (id : String) :
    (r.lookup now id).1 = none ↔ r.handlers.get? id = none ∧ (r.built.get now id).1 = none := by
  unfold lookup
  cases r.handlers.get? id with
  | some handler => simp only [reduceCtorEq, false_and]
  | none => simp only [Option.map_eq_none_iff, true_and]

/-- A tenant has a handler while a live one is in the cache. -/
theorem lookup_of_contains {r : Router η} {now : Nat} {id : String}
    (h : r.built.contains now id = true) : ∃ found, (r.lookup now id).1 = some found := by
  unfold lookup
  cases r.handlers.get? id with
  | some handler => exact ⟨_, rfl⟩
  | none =>
      rcases Cache.get_of_contains h with ⟨c, hget⟩
      simp only [hget, Option.map_some]
      exact ⟨_, rfl⟩

/-- A look-up changes nothing but the order and the number of cached
    handlers. -/
theorem lookup_snd (r : Router η) (now : Nat) (id : String) :
    ∃ built : Cache (Built η), (r.lookup now id).2 = { r with built } ∧
      built.entries ⊆ r.built.entries := by
  unfold lookup
  cases r.handlers.get? id with
  | some handler => exact ⟨r.built, rfl, List.Subset.refl _⟩
  | none => exact ⟨_, rfl, fun e he => Cache.mem_of_mem_get he⟩

/-- A look-up in one equation: what it finds, and the router that it leaves. -/
theorem exists_lookup_eq {r : Router η} {now : Nat} {id : String} {found : Option (Found η)}
    (h : (r.lookup now id).1 = found) : ∃ built, r.lookup now id = (found, { r with built }) := by
  rcases r.lookup_snd now id with ⟨built, hsnd, _⟩
  exact ⟨built, Prod.ext h hsnd⟩

/-- A handler that is not found is not found again. -/
theorem lookup_again {r : Router η} {now : Nat} {id : String} (h : (r.lookup now id).1 = none) :
    ((r.lookup now id).2.lookup now id).1 = none := by
  rcases (r.lookup_eq_none_iff now id).mp h with ⟨hnone, hdead⟩
  rw [lookup_eq_none_iff]
  unfold lookup
  rw [hnone]
  exact ⟨hnone, Cache.get_get_of_none hdead⟩

/-- The locks have no part in a look-up. -/
theorem lookup_locks (r : Router η) (locks : Locks Party) (now : Nat) (id : String) :
    (({ r with locks } : Router η).lookup now id).1 = (r.lookup now id).1 := by
  unfold lookup
  simp only
  cases r.handlers.get? id with
  | some handler => rfl
  | none => rfl

end Router

/-- Registered handlers are as before, and so are the time for which built ones
    are kept and the default cookie. -/
structure Router.Steady (r r' : Router η) : Prop where
  handlers : r'.handlers = r.handlers
  lifetime : r'.built.lifetime = r.built.lifetime
  sessionCookie : r'.sessionCookie = r.sessionCookie

theorem Router.steady_lookup (r : Router η) (now : Nat) (id : String) :
    r.Steady (r.lookup now id).2 := by
  unfold lookup
  cases r.handlers.get? id with
  | some handler => exact ⟨rfl, rfl, rfl⟩
  | none => exact ⟨rfl, Cache.lifetime_get _ _ _, rfl⟩

/-- A handler that is registered replaces any other of the tenant, registered
    or built. -/
theorem Router.register_eq_ok [TenantHandler η] {r r' : Router η} {id : String} {handler : η}
    (h : r.register id handler = .ok r') :
    r' = { r with
      built := (r.built.delete id).2
      handlers := r.handlers.insert id handler } := by
  rcases bind_eq_ok_iff.mp h with ⟨_, _, hr⟩
  exact (Except.ok.inj hr).symm

/-! ### Shifts -/

/-- A step of a dispatch that touches neither locks nor builds. -/
inductive Walk (now : Nat) (s : Switchboard η) : Dispatch η → Dispatch η → Prop where
  | resolve {request request' : AppRequest} {t : Tenant} :
      Walk now s (.arrived request) (.resolved t request')
  /-- There is a handler. -/
  | seek {request : AppRequest} {t : Tenant} {found : Found η} {hooks : List TenantHook}
      (hfound : (s.router.lookup now t.id).1 = some found) :
      Walk now s (.resolved t request) (.equipped t request found hooks)
  /-- The build that the dispatch waits for has given a handler. -/
  | collect {request : AppRequest} {t : Tenant} {build : Nat} {handler : η}
      {hooks : List TenantHook} (houtcome : s.outcome? build = some (.ok handler)) :
      Walk now s (.building t request build)
        (.equipped t request (.built { build, handler }) hooks)
  | tell {request : AppRequest} {t : Tenant} {found : Found η} {hooks hooks' : List TenantHook} :
      Walk now s (.equipped t request found hooks) (.equipped t request found hooks')
  | stay {stage : Dispatch η} : Walk now s stage stage
  /-- The request has no tenant. -/
  | astray {request : AppRequest} {outcome : Outcome} :
      Walk now s (.arrived request) (.done outcome)
  /-- There is no handler, and none can be built. -/
  | unable {request : AppRequest} {t : Tenant} {outcome : Outcome}
      (hunable : s.router.builds = false) : Walk now s (.resolved t request) (.done outcome)
  /-- The build that the dispatch waits for has failed. -/
  | fail {request : AppRequest} {t : Tenant} {build : Nat} {f : Fault} {outcome : Outcome}
      (houtcome : s.outcome? build = some (.error f)) :
      Walk now s (.building t request build) (.done outcome)
  /-- A hook or the handler has ended the dispatch. -/
  | handled {request : AppRequest} {t : Tenant} {found : Found η} {hooks : List TenantHook}
      {outcome : Outcome} : Walk now s (.equipped t request found hooks) (.done outcome)

/-- What an event does to dispatches, builds and locks. -/
inductive Change (now : Nat) (s s' : Switchboard η) : RouterEvent η → Prop where
  /-- Nothing. -/
  | rest {e : RouterEvent η} (hdispatches : s'.dispatches = s.dispatches)
      (hbuilds : s'.builds = s.builds) (hlocks : s'.router.locks = s.router.locks) :
      Change now s s' e
  | arrive {request : AppRequest} (hdispatches : s'.dispatches = s.dispatches ++ [.arrived request])
      (hbuilds : s'.builds = s.builds) (hlocks : s'.router.locks = s.router.locks) :
      Change now s s' (.arrive request)
  | walk {n : Nat} {stage stage' : Dispatch η} (hstage : s.dispatches[n]? = some stage)
      (hwalk : Walk now s stage stage') (hdispatches : s'.dispatches = s.dispatches.set n stage')
      (hbuilds : s'.builds = s.builds) (hlocks : s'.router.locks = s.router.locks) :
      Change now s s' (.step n)
  /-- A dispatch without a handler takes up a claim. -/
  | wait {n : Nat} {request : AppRequest} {t : Tenant}
      (hstage : s.dispatches[n]? = some (.resolved t request)) (hable : s.router.builds = true)
      (hmissed : (s.router.lookup now t.id).1 = none)
      (hdispatches : s'.dispatches = s.dispatches.set n (.waiting t request))
      (hbuilds : s'.builds = s.builds)
      (hlocks : s'.router.locks = s.router.locks.request (.dispatch n) t.id) :
      Change now s s' (.step n)
  /-- A dispatch that is granted its lock finds a handler and gives it up. -/
  | meet {n : Nat} {request : AppRequest} {t : Tenant} {found : Found η} {hooks : List TenantHook}
      {locks : Locks Party} (hstage : s.dispatches[n]? = some (.waiting t request))
      (hgrant : s.router.locks.grant? (.dispatch n) = some locks)
      (hfound : (s.router.lookup now t.id).1 = some found)
      (hdispatches : s'.dispatches = s.dispatches.set n (.equipped t request found hooks))
      (hbuilds : s'.builds = s.builds) (hlocks : s'.router.locks = locks.drop (.dispatch n)) :
      Change now s s' (.step n)
  /-- A dispatch that is granted its lock finds none and passes it on to a
      build. -/
  | build {n : Nat} {request : AppRequest} {t : Tenant} {locks : Locks Party}
      (hstage : s.dispatches[n]? = some (.waiting t request))
      (hgrant : s.router.locks.grant? (.dispatch n) = some locks)
      (hmissed : (s.router.lookup now t.id).1 = none)
      (hdispatches : s'.dispatches = s.dispatches.set n (.building t request s.builds.length))
      (hbuilds : s'.builds = s.builds ++ [{ tenant := t }])
      (hlocks : s'.router.locks = locks.handOver (.dispatch n) (.build s.builds.length)) :
      Change now s s' (.step n)
  /-- A dispatch is dropped. -/
  | leave {n : Nat} {stage : Dispatch η} (hstage : s.dispatches[n]? = some stage)
      (hdispatches : s'.dispatches = s.dispatches.set n .dropped)
      (hbuilds : s'.builds = s.builds)
      (hlocks : s'.router.locks = s.router.locks.drop (.dispatch n)) : Change now s s' (.cancel n)
  /-- A build ends. -/
  | finish {b : Nat} {t : Tenant} {outcome : Except Fault η}
      (hbuild : s.builds[b]? = some { tenant := t, outcome := none })
      (hdispatches : s'.dispatches = s.dispatches)
      (hbuilds : s'.builds = s.builds.set b { tenant := t, outcome := some outcome })
      (hlocks : s'.router.locks = s.router.locks.drop (.build b)) :
      Change now s s' (.finish b outcome)

/-- What an event does. Built handlers are added by builds that end and by
    nobody else, and whether handlers can be built stays as it is. -/
structure Shift (now : Nat) (s s' : Switchboard η) (e : RouterEvent η) : Prop where
  able : s'.router.builds = s.router.builds
  entries : ∀ entry ∈ s'.router.built.entries, entry ∈ s.router.built.entries ∨
    ∃ b t handler, e = .finish b (.ok handler) ∧
      s'.builds[b]? = some { tenant := t, outcome := some (.ok handler) } ∧
        entry.key = t.id ∧ entry.value = { build := b, handler }
  change : Change now s s' e

/-- An event that adds no built handler. -/
theorem Shift.of_subset {now : Nat} {s s' : Switchboard η} {e : RouterEvent η}
    (hable : s'.router.builds = s.router.builds)
    (hentries : s'.router.built.entries ⊆ s.router.built.entries) (hchange : Change now s s' e) :
    Shift now s s' e :=
  ⟨hable, fun _ h => Or.inl (hentries h), hchange⟩

/-! ### Parts of a shift -/

/-- What an event does to the stage of dispatch `n` if it changes it. -/
inductive Move (now : Nat) (s : Switchboard η) (n : Nat) :
    RouterEvent η → Dispatch η → Dispatch η → Prop where
  | walk {stage stage' : Dispatch η} (hwalk : Walk now s stage stage') :
      Move now s n (.step n) stage stage'
  | wait {request : AppRequest} {t : Tenant} :
      Move now s n (.step n) (.resolved t request) (.waiting t request)
  /-- There is a handler by now. -/
  | meet {request : AppRequest} {t : Tenant} {found : Found η} {hooks : List TenantHook}
      (hfound : (s.router.lookup now t.id).1 = some found) :
      Move now s n (.step n) (.waiting t request) (.equipped t request found hooks)
  /-- There still is none, and the dispatch starts a build. -/
  | build {request : AppRequest} {t : Tenant} :
      Move now s n (.step n) (.waiting t request) (.building t request s.builds.length)
  | leave {stage : Dispatch η} : Move now s n (.cancel n) stage .dropped

namespace Shift

/-- What is left of an event if only the dispatches are looked at. -/
inductive OnDispatches (now : Nat) (s s' : Switchboard η) (e : RouterEvent η) : Prop where
  | same (hdispatches : s'.dispatches = s.dispatches)
  | arrived {request : AppRequest}
      (hdispatches : s'.dispatches = s.dispatches ++ [.arrived request])
  | moved {n : Nat} {stage stage' : Dispatch η} (hstage : s.dispatches[n]? = some stage)
      (hmove : Move now s n e stage stage')
      (hdispatches : s'.dispatches = s.dispatches.set n stage')

/-- What is left of an event if only the builds are looked at. -/
inductive OnBuilds (now : Nat) (s s' : Switchboard η) (e : RouterEvent η) : Prop where
  | same (hbuilds : s'.builds = s.builds)
  /-- A build is started for a tenant without a handler. -/
  | started {t : Tenant} (hmissed : (s.router.lookup now t.id).1 = none)
      (hbuilds : s'.builds = s.builds ++ [{ tenant := t }])
  /-- A build that was under way has its outcome. -/
  | ended {b : Nat} {t : Tenant} {outcome : Except Fault η} (he : e = .finish b outcome)
      (hbuild : s.builds[b]? = some { tenant := t, outcome := none })
      (hbuilds : s'.builds = s.builds.set b { tenant := t, outcome := some outcome })

variable {now : Nat} {s s' : Switchboard η} {e : RouterEvent η}

theorem onDispatches (h : Shift now s s' e) : OnDispatches now s s' e := by
  cases h.change with
  | rest hdispatches _ _ => exact .same hdispatches
  | arrive hdispatches _ _ => exact .arrived hdispatches
  | walk hstage hwalk hdispatches _ _ => exact .moved hstage (.walk hwalk) hdispatches
  | wait hstage _ _ hdispatches _ _ => exact .moved hstage .wait hdispatches
  | meet hstage _ hfound hdispatches _ _ => exact .moved hstage (.meet hfound) hdispatches
  | build hstage _ _ hdispatches _ _ => exact .moved hstage .build hdispatches
  | leave hstage hdispatches _ _ => exact .moved hstage .leave hdispatches
  | finish _ hdispatches _ _ => exact .same hdispatches

theorem onBuilds (h : Shift now s s' e) : OnBuilds now s s' e := by
  cases h.change with
  | rest _ hbuilds _ => exact .same hbuilds
  | arrive _ hbuilds _ => exact .same hbuilds
  | walk _ _ _ hbuilds _ => exact .same hbuilds
  | wait _ _ _ _ hbuilds _ => exact .same hbuilds
  | meet _ _ _ _ hbuilds _ => exact .same hbuilds
  | leave _ _ hbuilds _ => exact .same hbuilds
  | build _ _ hmissed _ hbuilds _ => exact .started hmissed hbuilds
  | finish hbuild _ hbuilds _ => exact .ended rfl hbuild hbuilds

/-- A dispatch is at a stage from before, has just arrived, or has moved. -/
theorem stage_origin (h : Shift now s s' e) {n : Nat} {stage' : Dispatch η}
    (hn : s'.dispatches[n]? = some stage') :
    s.dispatches[n]? = some stage' ∨ (∃ request, stage' = .arrived request) ∨
      ∃ stage, s.dispatches[n]? = some stage ∧ Move now s n e stage stage' := by
  cases h.onDispatches with
  | same hdispatches =>
      rw [hdispatches] at hn
      exact Or.inl hn
  | arrived hdispatches =>
      rw [hdispatches, getElem?_concat_some_iff] at hn
      rcases hn with hold | ⟨_, hnew⟩
      · exact Or.inl hold
      · exact Or.inr (Or.inl ⟨_, hnew⟩)
  | moved hstage hmove hdispatches =>
      rw [hdispatches, getElem?_set_some_iff hstage] at hn
      rcases hn with ⟨_, hold⟩ | ⟨rfl, rfl⟩
      · exact Or.inl hold
      · exact Or.inr (Or.inr ⟨_, hstage, hmove⟩)

/-- A dispatch stays at its stage, or it moves. -/
theorem stage_next (h : Shift now s s' e) {n : Nat} {stage : Dispatch η}
    (hn : s.dispatches[n]? = some stage) :
    s'.dispatches[n]? = some stage ∨
      ∃ stage', s'.dispatches[n]? = some stage' ∧ Move now s n e stage stage' := by
  cases h.onDispatches with
  | same hdispatches => exact Or.inl (hdispatches ▸ hn)
  | arrived hdispatches =>
      rw [hdispatches, getElem?_concat_some_iff]
      exact Or.inl (Or.inl hn)
  | @moved m old stage' hstage hmove hdispatches =>
      by_cases hnm : n = m
      · subst hnm
        rw [hn, Option.some.injEq] at hstage
        subst hstage
        refine Or.inr ⟨stage', ?_, hmove⟩
        rw [hdispatches, getElem?_set_some_iff hn]
        exact Or.inr ⟨rfl, rfl⟩
      · refine Or.inl ?_
        rw [hdispatches, getElem?_set_some_iff hstage]
        exact Or.inl ⟨hnm, hn⟩

end Shift

namespace Switchboard

variable [TenantHandler η] {env : Env} {s : Switchboard η} {n : Nat}

/-- The state after a step of one dispatch. -/
theorem next_step {stage : Dispatch η} (h : s.dispatches[n]? = some stage) :
    (s.next env (.step n)).2 = { (stage.step env s n).2.1 with
      dispatches := (stage.step env s n).2.1.dispatches.set n (stage.step env s n).2.2 } := by
  simp only [next, h]

/-- The first step: the tenant of the request is found, or there is none. -/
theorem shift_resolve (env : Env) {request : AppRequest}
    (h : s.dispatches[n]? = some (.arrived request)) :
    Shift env.clock s (s.next env (.step n)).2 (.step n) := by
  have hrefl := List.Subset.refl s.router.built.entries
  rw [next_step h, Dispatch.step, resolve]
  rcases henv : env.resolve request with ⟨tenant, env'⟩
  -- Without a tenant the dispatch goes astray, fallback or not.
  cases tenant with
  | some t => exact .of_subset rfl hrefl (.walk h .resolve rfl rfl rfl)
  | none =>
      cases hfallback : s.router.fallback with
      | some handler => exact .of_subset rfl hrefl (.walk h .astray rfl rfl rfl)
      | none => exact .of_subset rfl hrefl (.walk h .astray rfl rfl rfl)

/-- The step at which a handler is looked for. -/
theorem shift_seek (env : Env) {t : Tenant} {request : AppRequest}
    (h : s.dispatches[n]? = some (.resolved t request)) :
    Shift env.clock s (s.next env (.step n)).2 (.step n) := by
  -- A lookup may drop an expired entry, and that is all that it does to the router.
  rcases s.router.lookup_snd env.clock t.id with ⟨built, hsnd, hentries⟩
  rw [next_step h, Dispatch.step, seek]
  rcases hlookup : s.router.lookup env.clock t.id with ⟨found, router⟩
  rw [hlookup] at hsnd
  simp only at hsnd
  subst hsnd
  cases found with
  | some found =>
      have hfound : (s.router.lookup env.clock t.id).1 = some found := by
        rw [hlookup]
      exact .of_subset rfl hentries (.walk h (.seek hfound) rfl rfl rfl)
  | none =>
      by_cases hable : s.router.builds = true
      · simp only [hable, if_true]
        have hmissed : (s.router.lookup env.clock t.id).1 = none := by
          rw [hlookup]
        exact .of_subset hable.symm hentries (.wait h hable hmissed rfl rfl rfl)
      · simp only [hable, Bool.false_eq_true, if_false]
        rw [Bool.not_eq_true] at hable
        exact .of_subset hable.symm hentries (.walk h (.unable hable) rfl rfl rfl)

/-- The step at which a handler is looked for again. -/
theorem shift_enter (env : Env) {t : Tenant} {request : AppRequest}
    (h : s.dispatches[n]? = some (.waiting t request)) :
    Shift env.clock s (s.next env (.step n)).2 (.step n) := by
  rw [next_step h, Dispatch.step]
  cases hgrant : s.router.locks.grant? (.dispatch n) with
  | none => exact .of_subset rfl (List.Subset.refl _) (.walk h .stay rfl rfl rfl)
  | some locks =>
      -- No lookup reads the locks, so what it finds under the lock was there for `s` as well.
      have hfst := s.router.lookup_locks locks env.clock t.id
      rcases ({ s.router with locks } : Router η).lookup_snd env.clock t.id with
        ⟨built, hsnd, hentries⟩
      simp only [enter]
      rcases hlookup : ({ s.router with locks } : Router η).lookup env.clock t.id with
        ⟨found, router⟩
      rw [hlookup] at hsnd hfst
      simp only at hsnd hfst
      subst hsnd
      cases found with
      | some found => exact .of_subset rfl hentries (.meet h hgrant hfst.symm rfl rfl rfl)
      | none => exact .of_subset rfl hentries (.build h hgrant hfst.symm rfl rfl rfl)

/-- The step at which the handler of a build is collected. -/
theorem shift_collect (env : Env) {t : Tenant} {request : AppRequest} {build : Nat}
    (h : s.dispatches[n]? = some (.building t request build)) :
    Shift env.clock s (s.next env (.step n)).2 (.step n) := by
  have hrefl := List.Subset.refl s.router.built.entries
  rw [next_step h, Dispatch.step, collect]
  cases houtcome : s.outcome? build with
  | none => exact .of_subset rfl hrefl (.walk h .stay rfl rfl rfl)
  | some outcome =>
      cases outcome with
      | ok handler => exact .of_subset rfl hrefl (.walk h (.collect houtcome) rfl rfl rfl)
      | error f => exact .of_subset rfl hrefl (.walk h (.fail houtcome) rfl rfl rfl)

/-- The steps at which hooks are told and the handler runs. -/
theorem shift_equipped (env : Env) {t : Tenant} {request : AppRequest} {found : Found η}
    {hooks : List TenantHook} (h : s.dispatches[n]? = some (.equipped t request found hooks)) :
    Shift env.clock s (s.next env (.step n)).2 (.step n) := by
  have hrefl := List.Subset.refl s.router.built.entries
  rw [next_step h]
  cases hooks with
  | nil => exact .of_subset rfl hrefl (.walk h .handled rfl rfl rfl)
  | cons hook rest =>
      rw [Dispatch.step, tell]
      rcases (hook t request).run env with ⟨result, env'⟩
      cases result with
      | ok u => exact .of_subset rfl hrefl (.walk h .tell rfl rfl rfl)
      | error e => exact .of_subset rfl hrefl (.walk h .handled rfl rfl rfl)

theorem shift_step (env : Env) (s : Switchboard η) (n : Nat) :
    Shift env.clock s (s.next env (.step n)).2 (.step n) := by
  have hrefl := List.Subset.refl s.router.built.entries
  cases h : s.dispatches[n]? with
  | none =>
      have hsame : (s.next env (.step n)).2 = s := by
        simp only [next, h]
      rw [hsame]
      exact .of_subset rfl hrefl (.rest rfl rfl rfl)
  | some stage =>
      cases stage with
      | arrived request => exact shift_resolve env h
      | resolved t request => exact shift_seek env h
      | waiting t request => exact shift_enter env h
      | building t request build => exact shift_collect env h
      | equipped t request found hooks => exact shift_equipped env h
      | done outcome =>
          rw [next_step h]
          exact .of_subset rfl hrefl (.walk h .stay rfl rfl rfl)
      | dropped =>
          rw [next_step h]
          exact .of_subset rfl hrefl (.walk h .stay rfl rfl rfl)

theorem shift_cancel (env : Env) (s : Switchboard η) (n : Nat) :
    Shift env.clock s (s.next env (.cancel n)).2 (.cancel n) := by
  have hrefl := List.Subset.refl s.router.built.entries
  cases h : s.dispatches[n]? with
  | none =>
      have hsame : (s.next env (.cancel n)).2 = s := by
        simp only [next, h]
      rw [hsame]
      exact .of_subset rfl hrefl (.rest rfl rfl rfl)
  | some stage =>
      simp only [next, h]
      -- Whoever is done is not dropped any more.
      cases stage with
      | done outcome =>
          exact .of_subset rfl hrefl (.rest (set_eq_self h) rfl rfl)
      | _ => exact .of_subset rfl hrefl (.leave h rfl rfl rfl)

theorem shift_finish (env : Env) (s : Switchboard η) (b : Nat) (outcome : Except Fault η) :
    Shift env.clock s (s.next env (.finish b outcome)).2 (.finish b outcome) := by
  have hrefl := List.Subset.refl s.router.built.entries
  simp only [next, finish]
  split
  · rename_i t hbuild
    cases outcome with
    | error f => exact .of_subset rfl hrefl (.finish hbuild rfl rfl rfl)
    | ok handler =>
        refine ⟨rfl, fun e he => ?_, .finish hbuild rfl rfl rfl⟩
        -- An entry is an old one or that of the build which has just ended.
        rcases Cache.mem_of_mem_set he with hold | ⟨hkey, hvalue⟩
        · exact Or.inl hold
        · have hlt : b < s.builds.length := (List.getElem?_eq_some_iff.mp hbuild).1
          exact Or.inr ⟨b, t, handler, rfl, List.getElem?_set_self hlt, hkey, hvalue⟩
  · exact .of_subset rfl hrefl (.rest rfl rfl rfl)

/-! ### What stays -/

/-- Dispatches leave registered handlers alone. -/
theorem step_steady (env : Env) (s : Switchboard η) (n : Nat) (stage : Dispatch η) :
    s.router.Steady (stage.step env s n).2.1.router := by
  cases stage with
  | arrived request =>
      rw [Dispatch.step, resolve]
      split
      · exact ⟨rfl, rfl, rfl⟩
      · split <;> exact ⟨rfl, rfl, rfl⟩
  | resolved t request =>
      -- Both outcomes of the lookup leave all but the cache as it was.
      have hkept := s.router.steady_lookup env.clock t.id
      rw [Dispatch.step, seek]
      split
      · rename_i hfound
        rw [hfound] at hkept
        exact hkept
      · rename_i hmissed
        rw [hmissed] at hkept
        split <;> exact ⟨hkept.handlers, hkept.lifetime, hkept.sessionCookie⟩
  | waiting t request =>
      rw [Dispatch.step]
      split
      · rename_i locks _
        have hkept := ({ s.router with locks } : Router η).steady_lookup env.clock t.id
        rw [enter]
        split
        · rename_i hfound
          rw [hfound] at hkept
          exact ⟨hkept.handlers, hkept.lifetime, hkept.sessionCookie⟩
        · rename_i hmissed
          rw [hmissed] at hkept
          exact ⟨hkept.handlers, hkept.lifetime, hkept.sessionCookie⟩
      · exact ⟨rfl, rfl, rfl⟩
  | building t request build =>
      rw [Dispatch.step, collect]
      split <;> exact ⟨rfl, rfl, rfl⟩
  | equipped t request found hooks =>
      cases hooks with
      | nil => exact ⟨rfl, rfl, rfl⟩
      | cons hook rest => exact ⟨rfl, rfl, rfl⟩
  | done outcome => exact ⟨rfl, rfl, rfl⟩
  | dropped => exact ⟨rfl, rfl, rfl⟩

omit [TenantHandler η] in
theorem cancel_steady (s : Switchboard η) (n : Nat) (stage : Dispatch η) :
    s.router.Steady (stage.cancel s n).1.router := by
  cases stage <;> exact ⟨rfl, rfl, rfl⟩

omit [TenantHandler η] in
theorem finish_steady (env : Env) (s : Switchboard η) (b : Nat) (outcome : Except Fault η) :
    s.router.Steady (s.finish env b outcome).router := by
  rw [finish]
  split
  · cases outcome with
    | ok handler => exact ⟨rfl, Cache.lifetime_set _ _ _ _, rfl⟩
    | error f => exact ⟨rfl, rfl, rfl⟩
  · exact ⟨rfl, rfl, rfl⟩

/-- Registered handlers change when one is let in or taken out, and at no other
    time. -/
theorem next_steady (env : Env) (s : Switchboard η) (e : RouterEvent η) :
    s.router.Steady (s.next env e).2.router ∨
      (∃ id handler, e = .register id handler ∧
        s.router.register id handler = .ok (s.next env e).2.router) ∨
      ∃ id, e = .unregister id ∧ (s.next env e).2.router = (s.router.unregister id).2 := by
  cases e with
  | arrive request => exact Or.inl ⟨rfl, rfl, rfl⟩
  | step n =>
      simp only [next]
      split
      · exact Or.inl ⟨rfl, rfl, rfl⟩
      · exact Or.inl (step_steady env s n _)
  | cancel n =>
      simp only [next]
      split
      · exact Or.inl ⟨rfl, rfl, rfl⟩
      · exact Or.inl (cancel_steady s n _)
  | finish b outcome => exact Or.inl (finish_steady env s b outcome)
  | register id handler =>
      simp only [next]
      cases hregister : s.router.register id handler with
      | ok router => exact Or.inr (Or.inl ⟨id, handler, rfl, hregister⟩)
      | error f => exact Or.inl ⟨rfl, rfl, rfl⟩
  | unregister id => exact Or.inr (Or.inr ⟨id, rfl, rfl⟩)
  | invalidate id => exact Or.inl ⟨rfl, rfl, rfl⟩
  | pass elapsed => exact Or.inl ⟨rfl, rfl, rfl⟩

/-- How long built handlers are kept is settled once and for all. -/
theorem next_lifetime (env : Env) (s : Switchboard η) (e : RouterEvent η) :
    (s.next env e).2.router.built.lifetime = s.router.built.lifetime := by
  rcases next_steady env s e with hsteady | ⟨id, handler, _, hregister⟩ | ⟨id, _, hunregister⟩
  · exact hsteady.lifetime
  · rw [Router.register_eq_ok hregister]
    rfl
  · rw [hunregister]
    rfl

/-! ### Dispatches that get a handler -/

/-- A dispatch that looks for a handler while there is one has it. -/
theorem next_seek (env : Env) {t : Tenant} {request : AppRequest} {found : Found η}
    (h : s.dispatches[n]? = some (.resolved t request))
    (hfound : (s.router.lookup env.clock t.id).1 = some found) :
    (s.next env (.step n)).2.dispatches[n]? =
      some (.equipped t request found s.router.hooks) := by
  have hlt : n < s.dispatches.length := (List.getElem?_eq_some_iff.mp h).1
  rcases s.router.lookup_snd env.clock t.id with ⟨built, hsnd, _⟩
  rw [next_step h, Dispatch.step, seek]
  rcases hlookup : s.router.lookup env.clock t.id with ⟨found', router⟩
  rw [hlookup] at hfound hsnd
  simp only at hfound hsnd
  subst hfound hsnd
  exact List.getElem?_set_self hlt

/-- A dispatch that looks again while there is a handler has it. -/
theorem next_enter (env : Env) {t : Tenant} {request : AppRequest} {found : Found η}
    {locks : Locks Party} (h : s.dispatches[n]? = some (.waiting t request))
    (hgrant : s.router.locks.grant? (.dispatch n) = some locks)
    (hfound : (s.router.lookup env.clock t.id).1 = some found) :
    (s.next env (.step n)).2.dispatches[n]? =
      some (.equipped t request found s.router.hooks) := by
  have hlt : n < s.dispatches.length := (List.getElem?_eq_some_iff.mp h).1
  rcases ({ s.router with locks } : Router η).lookup_snd env.clock t.id with ⟨built, hsnd, _⟩
  rw [next_step h, Dispatch.step, hgrant]
  simp only [enter]
  -- The lookup under the lock is the one of `hfound`, since no lookup reads the locks.
  rw [← s.router.lookup_locks locks] at hfound
  rcases hlookup : ({ s.router with locks } : Router η).lookup env.clock t.id with
    ⟨found', router⟩
  rw [hlookup] at hfound hsnd
  simp only at hfound hsnd
  subst hfound hsnd
  exact List.getElem?_set_self hlt

/-- A dispatch whose build has given a handler has it. -/
theorem next_collect (env : Env) {t : Tenant} {request : AppRequest} {build : Nat} {handler : η}
    (h : s.dispatches[n]? = some (.building t request build))
    (houtcome : s.outcome? build = some (.ok handler)) :
    (s.next env (.step n)).2.dispatches[n]? =
      some (.equipped t request (.built { build, handler }) s.router.hooks) := by
  have hlt : n < s.dispatches.length := (List.getElem?_eq_some_iff.mp h).1
  rw [next_step h, Dispatch.step, collect, houtcome]
  exact List.getElem?_set_self hlt

/-- A build that ends has its outcome. -/
theorem next_finish (env : Env) {b : Nat} {t : Tenant} (outcome : Except Fault η)
    (h : s.builds[b]? = some { tenant := t, outcome := none }) :
    (s.next env (.finish b outcome)).2.builds =
      s.builds.set b { tenant := t, outcome := some outcome } := by
  simp only [next, finish, h]

/-! ### All events -/

/-- Every event is a shift. -/
theorem shift_next (env : Env) (s : Switchboard η) (e : RouterEvent η) :
    Shift env.clock s (s.next env e).2 e := by
  have hrefl := List.Subset.refl s.router.built.entries
  -- Letting a handler in and invalidating delete an entry and add none.
  have hdelete : ∀ id, (s.router.built.delete id).2.entries ⊆ s.router.built.entries :=
    fun _ _ he => (List.mem_filter.mp he).1
  cases e with
  | arrive request => exact .of_subset rfl hrefl (.arrive rfl rfl rfl)
  | step n => exact shift_step env s n
  | cancel n => exact shift_cancel env s n
  | finish b outcome => exact shift_finish env s b outcome
  | register id handler =>
      simp only [next]
      unfold Router.register
      cases Session.check s.router.sessionCookie (Router.cookies (s.router.handlers.erase id) ++
        [(id, TenantHandler.sessionCookie? handler)]) with
      | ok u => exact .of_subset rfl (hdelete id) (.rest rfl rfl rfl)
      | error f => exact .of_subset rfl hrefl (.rest rfl rfl rfl)
  | unregister id => exact .of_subset rfl hrefl (.rest rfl rfl rfl)
  | invalidate id => exact .of_subset rfl (hdelete id) (.rest rfl rfl rfl)
  | pass elapsed => exact .of_subset rfl hrefl (.rest rfl rfl rfl)

end Switchboard

end Multitenancy
