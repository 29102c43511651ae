import Multitenancy.Proofs.Histories
import Multitenancy.Proofs.Locks
import Multitenancy.Proofs.Outcome
import Multitenancy.Proofs.Router.Shifts
/-!
# Who Builds

At most one build of a tenant is under way at any moment.

The lock of a tenant is taken by the dispatch that is about to look a second
time, and it is handed to the build that this dispatch starts. So the claims
on the locks can be read off the dispatches and builds: a dispatch has a claim
while it waits, and does not hold it between two events; a build has a claim
while it runs, and always holds it. Two builds of one tenant that both run
would hold one key.

The other half of the bookkeeping is where handlers come from. A cached
handler, and one that a dispatch has obtained without its being registered, is
the outcome of a build of that tenant which has ended, and a build that has
ended keeps its outcome.

## Main definitions

* `Switchboard.Waits`, `Switchboard.Runs`: A dispatch waits for a lock, a build
  is under way.
* `Switchboard.Gave`: A build has given a handler.
* `Linked`: The claims are those of dispatches that wait and builds that run.
* `Sourced`: Handlers are the outcomes of builds.
* `Router.run`: The state after a history that begins with a new router.

## Theorems

* `Shift.build_kept`, `Shift.build_origin`, `Shift.ended`: Builds before and
  after an event. One that has ended keeps its outcome.
* `Shift.equipped`: Where the handler of a dispatch comes from.
* `Linked.shift`, `Sourced.shift`: Every event keeps both.
* `Linked.runs_unique`: A tenant has one build under way at most.
* `Router.linked_run`, `Router.sourced_run`: Both hold after every history.
-/

namespace Multitenancy

variable {η : Type}

namespace Switchboard

/-- A dispatch waits for the lock of a tenant. -/
def Waits (s : Switchboard η) (n : Nat) (id : String) : Prop :=
  ∃ t request, s.dispatches[n]? = some (.waiting t request) ∧ t.id = id

/-- A build for a tenant is under way. -/
def Runs (s : Switchboard η) (k : Nat) (id : String) : Prop :=
  ∃ t, s.builds[k]? = some { tenant := t, outcome := none } ∧ t.id = id

/-- A build for a tenant has given a handler. -/
def Gave (s : Switchboard η) (k : Nat) (id : String) (handler : η) : Prop :=
  ∃ t, s.builds[k]? = some { tenant := t, outcome := some (.ok handler) } ∧ t.id = id

end Switchboard

/-- Locks, dispatches and builds fit together. -/
structure Linked (s : Switchboard η) : Prop where
  sound : s.router.locks.Sound
  waits : ∀ {n : Nat} {key : String} {held : Bool},
    s.router.locks.Claims (.dispatch n) key held ↔ held = false ∧ s.Waits n key
  runs : ∀ {k : Nat} {key : String} {held : Bool},
    s.router.locks.Claims (.build k) key held ↔ held = true ∧ s.Runs k key
  /-- A dispatch waits for a build of its own tenant. -/
  building : ∀ {n : Nat} {t : Tenant} {request : AppRequest} {k : Nat},
    s.dispatches[n]? = some (.building t request k) →
      ∃ outcome, s.builds[k]? = some { tenant := t, outcome }
  /-- Nobody waits or builds unless handlers can be built. -/
  able_waits : ∀ {n : Nat} {key : String}, s.Waits n key → s.router.builds = true
  able_builds : s.builds ≠ [] → s.router.builds = true

/-- Built handlers, cached or with a dispatch, come from builds. -/
structure Sourced (s : Switchboard η) : Prop where
  cached : ∀ e ∈ s.router.built.entries, s.Gave e.value.build e.key e.value.handler
  equipped : ∀ {n : Nat} {t : Tenant} {request : AppRequest} {c : Built η}
    {hooks : List TenantHook},
    s.dispatches[n]? = some (.equipped t request (.built c) hooks) → s.Gave c.build t.id c.handler

/-! ### Walks -/

section Walks

variable {now : Nat} {s : Switchboard η} {stage stage' : Dispatch η} {t : Tenant}
  {request : AppRequest} {k : Nat}

/-- A walk does not lead to waiting or building. -/
theorem Walk.of_waiting (h : Walk now s stage stage') (hstage' : stage' = .waiting t request) :
    stage = .waiting t request := by
  cases h <;> first | exact hstage' | exact absurd hstage' (by simp only [reduceCtorEq,
    not_false_eq_true])

theorem Walk.of_building (h : Walk now s stage stage')
    (hstage' : stage' = .building t request k) : stage = .building t request k := by
  cases h <;> first | exact hstage' | exact absurd hstage' (by simp only [reduceCtorEq,
    not_false_eq_true])

/-- A walk does not lead away from waiting. -/
theorem Walk.to_waiting (h : Walk now s stage stage') (hstage : stage = .waiting t request) :
    stage' = .waiting t request := by
  cases h <;> first | exact hstage | exact absurd hstage (by simp only [reduceCtorEq,
    not_false_eq_true])

end Walks

/-! ### Builds that have ended -/

section Ended

variable {now : Nat} {s s' : Switchboard η} {e : RouterEvent η}

/-- A build keeps its tenant, and its outcome once it has one. -/
theorem Shift.build_kept (h : Shift now s s' e) {k : Nat} {t : Tenant}
    {outcome : Option (Except Fault η)} (hk : s.builds[k]? = some { tenant := t, outcome }) :
    ∃ outcome', s'.builds[k]? = some { tenant := t, outcome := outcome' } ∧
      (outcome ≠ none → outcome' = outcome) := by
  cases h.onBuilds with
  | same hbuilds => exact ⟨outcome, hbuilds ▸ hk, fun _ => rfl⟩
  | started _ hbuilds =>
      refine ⟨outcome, ?_, fun _ => rfl⟩
      rw [hbuilds, getElem?_concat_some_iff]
      exact Or.inl hk
  | @ended b u ended _ hbuild hbuilds =>
      by_cases hkb : k = b
      · -- The build that ends had no outcome before.
        subst hkb
        rw [hk, Option.some.injEq, Build.mk.injEq] at hbuild
        rcases hbuild with ⟨rfl, rfl⟩
        refine ⟨some ended, ?_, fun hne => absurd rfl hne⟩
        rw [hbuilds, getElem?_set_some_iff hk]
        exact Or.inr ⟨rfl, rfl⟩
      · refine ⟨outcome, ?_, fun _ => rfl⟩
        rw [hbuilds, getElem?_set_some_iff hbuild]
        exact Or.inl ⟨hkb, hk⟩

theorem Shift.ended (h : Shift now s s' e) {k : Nat} {id : String} {handler : η}
    (hgave : s.Gave k id handler) : s'.Gave k id handler := by
  rcases hgave with ⟨t, hk, hid⟩
  rcases h.build_kept hk with ⟨outcome', hk', hsame⟩
  rw [hsame (by simp only [ne_eq, reduceCtorEq, not_false_eq_true])] at hk'
  exact ⟨t, hk', hid⟩

/-- A build was there before, as it is or still under way, or it has just been
    started for a tenant without a handler. -/
theorem Shift.build_origin (h : Shift now s s' e) {k : Nat} {t : Tenant}
    {outcome : Option (Except Fault η)} (hk : s'.builds[k]? = some { tenant := t, outcome }) :
    s.builds[k]? = some { tenant := t, outcome } ∨ s.Runs k t.id ∨
      (s.router.lookup now t.id).1 = none := by
  cases h.onBuilds with
  | same hbuilds => exact Or.inl (hbuilds ▸ hk)
  | started hmissed hbuilds =>
      rw [hbuilds, getElem?_concat_some_iff] at hk
      rcases hk with hk | ⟨_, hk⟩
      · exact Or.inl hk
      · rw [Build.mk.injEq] at hk
        rw [hk.1]
        exact Or.inr (Or.inr hmissed)
  | ended _ hbuild hbuilds =>
      rw [hbuilds, getElem?_set_some_iff hbuild] at hk
      rcases hk with ⟨_, hk⟩ | ⟨rfl, hk⟩
      · exact Or.inl hk
      · rw [Build.mk.injEq] at hk
        exact Or.inr (Or.inl ⟨t, hk.1 ▸ hbuild, rfl⟩)

end Ended

/-! ### Claims, dispatches and builds -/

namespace Linked

variable {now : Nat} {s s' : Switchboard η} {e : RouterEvent η}

/-- A tenant has one build under way at most. -/
theorem runs_unique (h : Linked s) {j k : Nat} {id : String} (hj : s.Runs j id)
    (hk : s.Runs k id) : j = k := by
  have hsame := h.sound.holder_unique (h.runs.mpr ⟨rfl, hj⟩) (h.runs.mpr ⟨rfl, hk⟩)
  exact Party.build.inj hsame

/-- A dispatch that goes from one stage to another, with the locks as they
    are. -/
theorem of_set (h : Linked s) {n : Nat} {stage stage' : Dispatch η}
    (hstage : s.dispatches[n]? = some stage)
    (hdispatches : s'.dispatches = s.dispatches.set n stage') (hbuilds : s'.builds = s.builds)
    (hable : s'.router.builds = s.router.builds) (hsound : s'.router.locks.Sound)
    (hclaims : ∀ {p key held}, s'.router.locks.Claims p key held ↔
      (p ≠ .dispatch n ∧ s.router.locks.Claims p key held) ∨
        (p = .dispatch n ∧ held = false ∧ ∃ t request, stage' = .waiting t request ∧ t.id = key))
    (hbuilding : ∀ {t request k}, stage' = .building t request k → stage = .building t request k)
    (hwaiting : ∀ {t request}, stage' = .waiting t request → s.router.builds = true) :
    Linked s' := by
  -- Only the stage of `n` changes, so who waits changes at `n` alone.
  have hwaits : ∀ {m key}, s'.Waits m key ↔ (m ≠ n ∧ s.Waits m key) ∨
      (m = n ∧ ∃ t request, stage' = .waiting t request ∧ t.id = key) := by
    intro m key
    unfold Switchboard.Waits
    simp only [hdispatches, getElem?_set_some_iff hstage]
    constructor
    · rintro ⟨t, request, ⟨hmn, hm⟩ | ⟨rfl, hm⟩, hid⟩
      · exact Or.inl ⟨hmn, t, request, hm, hid⟩
      · exact Or.inr ⟨rfl, t, request, hm.symm, hid⟩
    · rintro (⟨hmn, t, request, hm, hid⟩ | ⟨rfl, t, request, hm, hid⟩)
      · exact ⟨t, request, Or.inl ⟨hmn, hm⟩, hid⟩
      · exact ⟨t, request, Or.inr ⟨rfl, hm.symm⟩, hid⟩
  have hruns : ∀ {k key}, s'.Runs k key ↔ s.Runs k key := by
    intro k key
    unfold Switchboard.Runs
    rw [hbuilds]
  refine ⟨hsound, fun {m key held} => ?_, fun {k key held} => ?_, fun {m t request k} hm => ?_,
    fun {m key} hm => ?_, fun hne => ?_⟩
  · rw [hclaims, hwaits]
    by_cases hmn : m = n
    · subst hmn
      simp only [ne_eq, not_true_eq_false, false_and, true_and, false_or]
    · have hparty : Party.dispatch m ≠ .dispatch n := fun he => hmn (Party.dispatch.inj he)
      simp only [ne_eq, hparty, not_false_eq_true, true_and, false_and, or_false, hmn]
      exact h.waits
  · rw [hclaims, hruns]
    simp only [ne_eq, reduceCtorEq, not_false_eq_true, true_and, false_and, or_false]
    exact h.runs
  · rw [hdispatches, getElem?_set_some_iff hstage] at hm
    rw [hbuilds]
    rcases hm with ⟨_, hm⟩ | ⟨rfl, hm⟩
    · exact h.building hm
    · exact h.building (hstage.trans (congrArg some (hbuilding hm.symm)))
  · rw [hable]
    rcases hwaits.mp hm with ⟨_, hm⟩ | ⟨_, t, request, hm, _⟩
    · exact h.able_waits hm
    · exact hwaiting hm
  · rw [hbuilds] at hne
    rw [hable]
    exact h.able_builds hne

/-- A dispatch that does not wait has no claim. -/
theorem not_claims (h : Linked s) {n : Nat} {stage : Dispatch η}
    (hstage : s.dispatches[n]? = some stage) (hwaiting : ∀ t request, stage ≠ .waiting t request)
    (key : String) (held : Bool) : ¬s.router.locks.Claims (.dispatch n) key held := by
  rw [h.waits]
  rintro ⟨_, t, request, hn, _⟩
  rw [hstage, Option.some.injEq] at hn
  exact hwaiting t request hn

/-- A dispatch that waits has the claim of its tenant and no other. -/
theorem claims_iff (h : Linked s) {n : Nat} {t : Tenant} {request : AppRequest}
    (hstage : s.dispatches[n]? = some (.waiting t request)) {key : String} {held : Bool} :
    s.router.locks.Claims (.dispatch n) key held ↔ held = false ∧ key = t.id := by
  rw [h.waits]
  constructor
  · rintro ⟨hheld, u, request', hn, hid⟩
    rw [hstage, Option.some.injEq, Dispatch.waiting.injEq] at hn
    rw [hn.1]
    exact ⟨hheld, hid.symm⟩
  · rintro ⟨hheld, rfl⟩
    exact ⟨hheld, t, request, hstage, rfl⟩

/-- A build is started by a dispatch that gives its claim away. -/
theorem of_build (h : Linked s) {n : Nat} {t : Tenant} {request : AppRequest}
    {locks : Locks Party} (hstage : s.dispatches[n]? = some (.waiting t request))
    (hgrant : s.router.locks.grant? (.dispatch n) = some locks)
    (hdispatches : s'.dispatches = s.dispatches.set n (.building t request s.builds.length))
    (hbuilds : s'.builds = s.builds ++ [{ tenant := t }])
    (hable : s'.router.builds = s.router.builds)
    (hlocks : s'.router.locks = locks.handOver (.dispatch n) (.build s.builds.length)) :
    Linked s' := by
  have hgranted := h.sound.grant? hgrant
  -- No build has the number of the new one.
  have hfresh : ∀ key held, ¬locks.Claims (.build s.builds.length) key held := by
    intro key held hclaim
    rcases (h.sound.claims_grant?_iff hgrant).mp hclaim with ⟨_, hclaim⟩ | ⟨he, _⟩
    · rcases h.runs.mp hclaim with ⟨_, u, hk, _⟩
      rw [List.getElem?_eq_none (Nat.le_refl _)] at hk
      exact absurd hk (by simp only [reduceCtorEq, not_false_eq_true])
    · exact absurd he (by simp only [reduceCtorEq, not_false_eq_true])
  have hclaims : ∀ {p key held}, s'.router.locks.Claims p key held ↔
      (p ≠ .dispatch n ∧ s.router.locks.Claims p key held) ∨
        (p = .build s.builds.length ∧ held = true ∧ key = t.id) := by
    intro p key held
    rw [hlocks, Locks.claims_handOver_iff, h.sound.claims_grant?_iff hgrant,
      h.sound.claims_grant?_iff hgrant, h.claims_iff hstage]
    simp only [ne_eq, not_true_eq_false, false_and, true_and, false_or]
    constructor
    · rintro (⟨hp, ⟨_, hclaim⟩ | ⟨he, _⟩⟩ | hnew)
      · exact Or.inl ⟨hp, hclaim⟩
      · exact absurd he hp
      · exact Or.inr hnew
    · rintro (⟨hp, hclaim⟩ | hnew)
      · exact Or.inl ⟨hp, Or.inl ⟨hp, hclaim⟩⟩
      · exact Or.inr hnew
  have hflag : s'.router.builds = true := by
    rw [hable]
    exact h.able_waits ⟨t, request, hstage, rfl⟩
  refine ⟨hlocks ▸ hgranted.handOver hfresh, fun {m key held} => ?_, fun {k key held} => ?_,
    fun {m u request' k} hm => ?_, fun _ => hflag, fun _ => hflag⟩
  · -- The dispatch that starts the build has no claim any more; it waits for the build.
    unfold Switchboard.Waits
    rw [hclaims]
    simp only [hdispatches, getElem?_set_some_iff hstage]
    constructor
    · rintro (⟨hp, hclaim⟩ | ⟨he, _⟩)
      · rcases h.waits.mp hclaim with ⟨hheld, u, request', hm, hid⟩
        exact ⟨hheld, u, request', Or.inl ⟨fun hmn => hp (congrArg _ hmn), hm⟩, hid⟩
      · exact absurd he (by simp only [reduceCtorEq, not_false_eq_true])
    · rintro ⟨hheld, u, request', ⟨hmn, hm⟩ | ⟨_, hm⟩, hid⟩
      · exact Or.inl ⟨fun he => hmn (Party.dispatch.inj he),
          h.waits.mpr ⟨hheld, u, request', hm, hid⟩⟩
      · exact absurd hm (by simp only [reduceCtorEq, not_false_eq_true])
  · -- The claim that was handed over is the one of the new build.
    unfold Switchboard.Runs
    rw [hclaims]
    simp only [hbuilds, getElem?_concat_some_iff]
    constructor
    · rintro (⟨_, hclaim⟩ | ⟨he, hheld, hkey⟩)
      · rcases h.runs.mp hclaim with ⟨hheld, u, hk, hid⟩
        exact ⟨hheld, u, Or.inl hk, hid⟩
      · exact ⟨hheld, t, Or.inr ⟨Party.build.inj he, rfl⟩, hkey.symm⟩
    · rintro ⟨hheld, u, hk | ⟨rfl, hk⟩, hid⟩
      · exact Or.inl ⟨by simp only [ne_eq, reduceCtorEq, not_false_eq_true],
          h.runs.mpr ⟨hheld, u, hk, hid⟩⟩
      · rw [Build.mk.injEq] at hk
        exact Or.inr ⟨rfl, hheld, by rw [← hid, hk.1]⟩
  · rw [hdispatches, getElem?_set_some_iff hstage] at hm
    rw [hbuilds]
    simp only [getElem?_concat_some_iff]
    rcases hm with ⟨_, hm⟩ | ⟨_, hm⟩
    · rcases h.building hm with ⟨outcome, hk⟩
      exact ⟨outcome, Or.inl hk⟩
    · rw [Dispatch.building.injEq] at hm
      rcases hm with ⟨rfl, rfl, rfl⟩
      exact ⟨none, Or.inr ⟨rfl, rfl⟩⟩

/-- A build that ends gives up its claim. -/
theorem of_finish (h : Linked s) {b : Nat} {t : Tenant} {outcome : Except Fault η}
    (hbuild : s.builds[b]? = some { tenant := t, outcome := none })
    (hdispatches : s'.dispatches = s.dispatches)
    (hbuilds : s'.builds = s.builds.set b { tenant := t, outcome := some outcome })
    (hable : s'.router.builds = s.router.builds)
    (hlocks : s'.router.locks = s.router.locks.drop (.build b)) : Linked s' := by
  have hwaits : ∀ {m key}, s'.Waits m key ↔ s.Waits m key := by
    intro m key
    unfold Switchboard.Waits
    rw [hdispatches]
  refine ⟨hlocks ▸ h.sound.drop _, fun {m key held} => ?_, fun {k key held} => ?_,
    fun {m u request k} hm => ?_, fun {m key} hm => ?_, fun hne => ?_⟩
  · rw [hlocks, Locks.claims_drop_iff, hwaits]
    simp only [ne_eq, reduceCtorEq, not_false_eq_true, true_and]
    exact h.waits
  · unfold Switchboard.Runs
    rw [hlocks, Locks.claims_drop_iff, h.runs]
    simp only [hbuilds, getElem?_set_some_iff hbuild]
    constructor
    · rintro ⟨hp, hheld, u, hk, hid⟩
      exact ⟨hheld, u, Or.inl ⟨fun hkb => hp (congrArg _ hkb), hk⟩, hid⟩
    · rintro ⟨hheld, u, ⟨hkb, hk⟩ | ⟨_, hk⟩, hid⟩
      · exact ⟨fun he => hkb (Party.build.inj he), hheld, u, hk, hid⟩
      · rw [Build.mk.injEq] at hk
        exact absurd hk.2 (by simp only [reduceCtorEq, not_false_eq_true])
  · rw [hdispatches] at hm
    rw [hbuilds]
    simp only [getElem?_set_some_iff hbuild]
    rcases h.building hm with ⟨ended, hk⟩
    -- A dispatch goes on waiting for a build that has ended, until it collects.
    by_cases hkb : k = b
    · subst hkb
      rw [hbuild, Option.some.injEq, Build.mk.injEq] at hk
      exact ⟨some outcome, Or.inr ⟨rfl, by rw [hk.1]⟩⟩
    · exact ⟨ended, Or.inl ⟨hkb, hk⟩⟩
  · rw [hable]
    exact h.able_waits (hwaits.mp hm)
  · rw [hable]
    refine h.able_builds fun hnil => ?_
    rw [hnil] at hbuild
    exact absurd hbuild (by simp only [List.getElem?_nil, reduceCtorEq, not_false_eq_true])

/-- A dispatch that has just arrived neither waits nor builds. -/
theorem of_arrive (h : Linked s) {request : AppRequest}
    (hdispatches : s'.dispatches = s.dispatches ++ [.arrived request])
    (hbuilds : s'.builds = s.builds) (hable : s'.router.builds = s.router.builds)
    (hlocks : s'.router.locks = s.router.locks) : Linked s' := by
  have hwaits : ∀ {m key}, s'.Waits m key ↔ s.Waits m key := by
    intro m key
    unfold Switchboard.Waits
    simp only [hdispatches, getElem?_concat_some_iff, reduceCtorEq, and_false, or_false]
  have hruns : ∀ {k key}, s'.Runs k key ↔ s.Runs k key := by
    intro k key
    unfold Switchboard.Runs
    rw [hbuilds]
  refine ⟨hlocks ▸ h.sound, ?_, ?_, fun {m t request k} hm => ?_, ?_, ?_⟩
  · simp only [hlocks, hwaits]
    exact h.waits
  · simp only [hlocks, hruns]
    exact h.runs
  · rw [hdispatches, getElem?_concat_some_iff] at hm
    rw [hbuilds]
    rcases hm with hm | ⟨_, hm⟩
    · exact h.building hm
    · exact absurd hm (by simp only [reduceCtorEq, not_false_eq_true])
  · simp only [hwaits, hable]
    exact h.able_waits
  · rw [hbuilds, hable]
    exact h.able_builds

/-- A dispatch that walks waits afterwards if it has waited before. -/
theorem of_walk (h : Linked s) {n : Nat} {stage stage' : Dispatch η}
    (hstage : s.dispatches[n]? = some stage) (hwalk : Walk now s stage stage')
    (hdispatches : s'.dispatches = s.dispatches.set n stage') (hbuilds : s'.builds = s.builds)
    (hable : s'.router.builds = s.router.builds)
    (hlocks : s'.router.locks = s.router.locks) : Linked s' := by
  -- No walk leads to a wait, so a dispatch that waits after it has not moved.
  have hback : ∀ {t request}, stage' = .waiting t request →
      s.dispatches[n]? = some (.waiting t request) := fun hwaiting =>
    hstage.trans (congrArg some (hwalk.of_waiting hwaiting))
  refine h.of_set hstage hdispatches hbuilds hable (hlocks ▸ h.sound) ?_ hwalk.of_building
    fun hwaiting => h.able_waits ⟨_, _, hback hwaiting, rfl⟩
  -- The claims are the old ones, and those of `n` are of a wait that goes on.
  intro p key held
  rw [hlocks]
  by_cases hp : p = .dispatch n
  · subst hp
    simp only [ne_eq, not_true_eq_false, false_and, true_and, false_or]
    rw [h.waits]
    refine and_congr_right fun _ => ?_
    constructor
    · rintro ⟨t, request, hn, hid⟩
      rw [hstage, Option.some.injEq] at hn
      exact ⟨t, request, hwalk.to_waiting hn, hid⟩
    · rintro ⟨t, request, hn, hid⟩
      exact ⟨t, request, hback hn, hid⟩
  · simp only [ne_eq, hp, not_false_eq_true, true_and, false_and, or_false]

/-- A dispatch that takes up a claim waits. -/
theorem of_wait (h : Linked s) {n : Nat} {t : Tenant} {request : AppRequest}
    (hstage : s.dispatches[n]? = some (.resolved t request)) (hbuildable : s.router.builds = true)
    (hdispatches : s'.dispatches = s.dispatches.set n (.waiting t request))
    (hbuilds : s'.builds = s.builds) (hable : s'.router.builds = s.router.builds)
    (hlocks : s'.router.locks = s.router.locks.request (.dispatch n) t.id) : Linked s' := by
  -- A dispatch that does not wait yet has no claim, so the new claim is its first.
  have hnone := h.not_claims hstage (by simp only [ne_eq, reduceCtorEq, not_false_eq_true,
    implies_true])
  refine h.of_set hstage hdispatches hbuilds hable (hlocks ▸ h.sound.request hnone) ?_
    (fun he => absurd he (by simp only [reduceCtorEq, not_false_eq_true])) fun _ => hbuildable
  intro p key held
  rw [hlocks, Locks.claims_request_iff]
  simp only [Dispatch.waiting.injEq]
  constructor
  · rintro (hclaim | ⟨rfl, rfl, rfl⟩)
    · refine Or.inl ⟨?_, hclaim⟩
      rintro rfl
      exact hnone key held hclaim
    · exact Or.inr ⟨rfl, rfl, t, request, ⟨rfl, rfl⟩, rfl⟩
  · rintro (⟨_, hclaim⟩ | ⟨rfl, rfl, u, request', ⟨rfl, rfl⟩, rfl⟩)
    · exact Or.inl hclaim
    · exact Or.inr ⟨rfl, rfl, rfl⟩

/-- A dispatch that neither waits nor builds any more has no claim. -/
theorem of_release (h : Linked s) {n : Nat} {stage stage' : Dispatch η}
    (hstage : s.dispatches[n]? = some stage)
    (hdispatches : s'.dispatches = s.dispatches.set n stage') (hbuilds : s'.builds = s.builds)
    (hable : s'.router.builds = s.router.builds) (hsound : s'.router.locks.Sound)
    (hclaims : ∀ {p key held}, s'.router.locks.Claims p key held ↔
      p ≠ .dispatch n ∧ s.router.locks.Claims p key held)
    (hwaiting : ∀ t request, stage' ≠ .waiting t request)
    (hbuilding : ∀ t request k, stage' ≠ .building t request k) : Linked s' := by
  refine h.of_set hstage hdispatches hbuilds hable hsound ?_
    (fun he => absurd he (hbuilding _ _ _)) fun he => absurd he (hwaiting _ _)
  intro p key held
  rw [hclaims]
  constructor
  · exact Or.inl
  · rintro (hother | ⟨_, _, t, request, he, _⟩)
    · exact hother
    · exact absurd he (hwaiting t request)

/-- Every event keeps locks, dispatches and builds linked. -/
theorem shift (h : Linked s) (hshift : Shift now s s' e) : Linked s' := by
  have hable := hshift.able
  cases hshift.change with
  | rest hdispatches hbuilds hlocks =>
      refine ⟨hlocks ▸ h.sound, ?_, ?_, ?_, ?_, ?_⟩ <;>
        simp only [Switchboard.Waits, Switchboard.Runs, hdispatches, hbuilds, hlocks, hable]
      · exact h.waits
      · exact h.runs
      · exact h.building
      · exact h.able_waits
      · exact h.able_builds
  | arrive hdispatches hbuilds hlocks => exact h.of_arrive hdispatches hbuilds hable hlocks
  | walk hstage hwalk hdispatches hbuilds hlocks =>
      exact h.of_walk hstage hwalk hdispatches hbuilds hable hlocks
  | wait hstage hbuildable _ hdispatches hbuilds hlocks =>
      exact h.of_wait hstage hbuildable hdispatches hbuilds hable hlocks
  | @meet n request t found hooks locks hstage hgrant _ hdispatches hbuilds hlocks =>
      -- What was granted is given up at once.
      have hclaims : ∀ {p key held}, s'.router.locks.Claims p key held ↔
          p ≠ .dispatch n ∧ s.router.locks.Claims p key held := by
        intro p key held
        rw [hlocks, Locks.claims_drop_iff, h.sound.claims_grant?_iff hgrant]
        constructor
        · rintro ⟨hp, ⟨_, hclaim⟩ | ⟨he, _⟩⟩
          · exact ⟨hp, hclaim⟩
          · exact absurd he hp
        · rintro ⟨hp, hclaim⟩
          exact ⟨hp, Or.inl ⟨hp, hclaim⟩⟩
      exact h.of_release hstage hdispatches hbuilds hable
        (hlocks ▸ (h.sound.grant? hgrant).drop _) hclaims
        (by simp only [ne_eq, reduceCtorEq, not_false_eq_true, implies_true])
        (by simp only [ne_eq, reduceCtorEq, not_false_eq_true, implies_true])
  | build hstage hgrant _ hdispatches hbuilds hlocks =>
      exact h.of_build hstage hgrant hdispatches hbuilds hable hlocks
  | leave hstage hdispatches hbuilds hlocks =>
      refine h.of_release hstage hdispatches hbuilds hable (hlocks ▸ h.sound.drop _) ?_
        (by simp only [ne_eq, reduceCtorEq, not_false_eq_true, implies_true])
        (by simp only [ne_eq, reduceCtorEq, not_false_eq_true, implies_true])
      intro p key held
      rw [hlocks, Locks.claims_drop_iff]
  | finish hbuild hdispatches hbuilds hlocks =>
      exact h.of_finish hbuild hdispatches hbuilds hable hlocks

end Linked

/-! ### Where handlers come from -/

section Handlers

variable {now : Nat} {s s' : Switchboard η} {e : RouterEvent η}

/-- A dispatch that has a handler had it before, has just found it, or got it
    from the build that it waited for. -/
theorem Shift.equipped (h : Shift now s s' e) {n : Nat} {t : Tenant} {request : AppRequest}
    {found : Found η} {hooks : List TenantHook}
    (hn : s'.dispatches[n]? = some (.equipped t request found hooks)) :
    (∃ hooks', s.dispatches[n]? = some (.equipped t request found hooks')) ∨
      (s.router.lookup now t.id).1 = some found ∨
        ∃ k handler, found = .built { build := k, handler } ∧
          s.dispatches[n]? = some (.building t request k) ∧
            s.outcome? k = some (.ok handler) := by
  rcases h.stage_origin hn with hold | ⟨_, hnew⟩ | ⟨stage, hstage, hmove⟩
  · exact Or.inl ⟨hooks, hold⟩
  · exact nomatch hnew
  · -- The other moves lead to stages without a handler.
    cases hmove with
    | walk hwalk =>
        cases hwalk with
        | seek hfound => exact Or.inr (Or.inl hfound)
        | collect houtcome => exact Or.inr (Or.inr ⟨_, _, rfl, hstage, houtcome⟩)
        | tell => exact Or.inl ⟨_, hstage⟩
        | stay => exact Or.inl ⟨_, hstage⟩
    | meet hfound => exact Or.inr (Or.inl hfound)

namespace Sourced

/-- A built handler that is found was given by a build. -/
theorem of_lookup (h : Sourced s) {id : String} {c : Built η}
    (hfound : (s.router.lookup now id).1 = some (.built c)) : s.Gave c.build id c.handler := by
  rcases Router.lookup_cases hfound with ⟨handler, hregistered, _⟩ | ⟨entry, hentry, hvalue, rfl⟩
  · exact absurd hregistered (by simp only [reduceCtorEq, not_false_eq_true])
  · rw [Found.built.injEq] at hvalue
    rw [hvalue]
    exact h.cached entry hentry

/-- Every event keeps built handlers those of builds. -/
theorem shift (h : Sourced s) (hlinked : Linked s) (hshift : Shift now s s' e) : Sourced s' := by
  constructor
  · intro entry hentry
    -- A new entry holds what its build gave, and that build has ended with it.
    rcases hshift.entries entry hentry with hold | ⟨b, t, handler, _, hbuild, hkey, hvalue⟩
    · exact hshift.ended (h.cached entry hold)
    · rw [hkey, hvalue]
      exact ⟨t, hbuild, rfl⟩
  · intro n t request c hooks hn
    -- A handler that a dispatch has just got was found by a lookup or collected from a build.
    rcases hshift.equipped hn with ⟨hooks', hold⟩ | hfound | ⟨k, handler, hc, hstage, houtcome⟩
    · exact hshift.ended (h.equipped hold)
    · exact hshift.ended (h.of_lookup hfound)
    · rw [Found.built.injEq] at hc
      rcases hlinked.building hstage with ⟨outcome, hk⟩
      rw [Switchboard.outcome?, hk, Option.bind_some] at houtcome
      simp only at houtcome
      rw [houtcome] at hk
      rw [hc]
      exact hshift.ended ⟨t, hk, rfl⟩

end Sourced

end Handlers

/-! ### Histories -/

namespace Router

variable [TenantHandler η]

/-- Clocks and state after a history that begins with a new router. -/
def run (r : Router η) (env : Env) (history : List (RouterEvent η)) : Env × Switchboard η :=
  ({ router := r } : Switchboard η).run env history

/-- A new router has no claims and no built handlers. -/
theorem new_eq_ok {settings : RouterSettings η} {r : Router η} (h : new settings = .ok r) :
    r.locks = {} ∧ r.built.entries = [] := by
  rcases bind_eq_ok_iff.mp h with ⟨_, _, hnew⟩
  rw [← Except.ok.inj hnew]
  exact ⟨rfl, rfl⟩

section Runs

variable {settings : RouterSettings η} {r : Router η}

theorem run_concat (r : Router η) (env : Env) (history : List (RouterEvent η))
    (e : RouterEvent η) :
    r.run env (history ++ [e]) = (r.run env history).2.next (r.run env history).1 e := by
  unfold run Switchboard.run
  rw [List.foldl_append]
  rfl

theorem shift_concat (r : Router η) (env : Env) (history : List (RouterEvent η))
    (e : RouterEvent η) :
    Shift (r.run env history).1.clock (r.run env history).2 (r.run env (history ++ [e])).2 e := by
  rw [run_concat]
  exact Switchboard.shift_next _ _ _

/-- There is no dispatch and no build at first. -/
theorem getElem?_dispatches_nil (r : Router η) (env : Env) (n : Nat) (stage : Dispatch η) :
    (r.run env []).2.dispatches[n]? ≠ some stage := by
  simp only [run, Switchboard.run, List.foldl_nil, List.getElem?_nil, ne_eq, reduceCtorEq,
    not_false_eq_true]

theorem builds_nil (r : Router η) (env : Env) : (r.run env []).2.builds = [] := rfl

theorem linked_run (hnew : new settings = .ok r) (env : Env) (history : List (RouterEvent η)) :
    Linked (r.run env history).2 := by
  refine prefix_induction (P := fun h => Linked (r.run env h).2) List.nil_prefix ?_
    fun h e _ _ hlinked => hlinked.shift (shift_concat r env h e)
  -- Nobody has a claim, waits or builds.
  have hlocks : (r.run env []).2.router.locks = {} := (new_eq_ok hnew).1
  have hstages := getElem?_dispatches_nil r env
  refine ⟨hlocks ▸ Locks.Sound.empty, ?_, ?_, fun hn => absurd hn (hstages _ _), ?_,
    fun hne => absurd (builds_nil r env) hne⟩
  · intro n key held
    refine iff_of_false (fun hclaim => ?_) fun ⟨_, _, _, hn, _⟩ => hstages _ _ hn
    exact Locks.not_claims_empty _ _ _ (hlocks ▸ hclaim)
  · intro k key held
    refine iff_of_false (fun hclaim => ?_) fun ⟨_, _, hk, _⟩ => ?_
    · exact Locks.not_claims_empty _ _ _ (hlocks ▸ hclaim)
    · rw [builds_nil] at hk
      exact absurd hk (by simp only [List.getElem?_nil, reduceCtorEq, not_false_eq_true])
  · rintro n key ⟨_, _, hn, _⟩
    exact absurd hn (hstages _ _)

theorem sourced_run (hnew : new settings = .ok r) (env : Env) (history : List (RouterEvent η)) :
    Sourced (r.run env history).2 := by
  refine prefix_induction (P := fun h => Sourced (r.run env h).2) List.nil_prefix ?_
    fun h e _ _ hsourced => hsourced.shift (linked_run hnew env h) (shift_concat r env h e)
  have hentries : (r.run env []).2.router.built.entries = [] := (new_eq_ok hnew).2
  refine ⟨fun entry hentry => ?_, fun hn => absurd hn (getElem?_dispatches_nil r env _ _)⟩
  rw [hentries] at hentry
  exact absurd hentry List.not_mem_nil

/-- Whether handlers can be built is settled once and for all. -/
theorem able_run (r : Router η) (env : Env) (history : List (RouterEvent η)) :
    (r.run env history).2.router.builds = r.builds :=
  prefix_induction (P := fun h => (r.run env h).2.router.builds = r.builds) List.nil_prefix rfl
    fun h e _ _ hable => (shift_concat r env h e).able.trans hable

/-- What a build has given it has given for good. -/
theorem gave_run {env : Env} {p q : List (RouterEvent η)} (hpq : p <+: q) {k : Nat} {id : String}
    {handler : η} (hgave : (r.run env p).2.Gave k id handler) :
    (r.run env q).2.Gave k id handler :=
  prefix_induction (P := fun h => (r.run env h).2.Gave k id handler) hpq hgave
    fun h e _ _ hgave => (shift_concat r env h e).ended hgave

end Runs

end Router

end Multitenancy
