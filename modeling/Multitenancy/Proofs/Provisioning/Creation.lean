import Multitenancy.Proofs.Provisioning.Dependence
import Multitenancy.Proofs.Storage.Preparing
/-!
# Creation Is All or Nothing

A creation that fails leaves the registry and the resolver as they were, and
one that succeeds has done all that belongs to it.

There are seven places where a creation can fail, and on the way to the last
of them a store is opened, prepared and migrated. The registry is written in
one step only, the one that makes the record visible. Before that step nothing
can be seen of the creation, and after it the creation cannot fail any more;
so a creation that fails has not been seen at any of its steps, wherever it
fails.

Stores are not undone. A store that a failed creation has made may be in the
way of a store that a later creation wants, because its directory now stands
where that one wants a file. That is the only trace: as long as the same later
creations succeed as would have without the failed one, everybody who asks for
a tenant gets the same answer.

## Main definitions

* `Stage.isUnstored`, `Stage.isStored`: The two halves of a creation.
* `Registry.Gained`: A registry has gained a record.
* `Office.creationSteps`: How far a creation has come after some steps.
* `Office.Untouched`: What a creation that fails leaves.
* `Office.Completed`: What a creation that succeeds leaves.

## Theorems

* `Stage.step_isUnstored`, `Stage.step_isStored`: What one step of a creation
  does to the environment.
* `Office.env_creationSteps`: Nothing can be seen of a creation whose record
  is not stored.
* `Registry.gained_of_keeps`: A record that is appended to the roster is
  gained.
* `Office.creationSteps_five`: How far a creation has come before its record is
  stored.
* `Office.create_all_or_nothing`: A creation fails and is untouched, or
  succeeds and is complete.
* `Office.leftover_in_the_way`: What a failed creation has made can keep a
  later one from succeeding.
-/

namespace Multitenancy

namespace Stage

/-- A creation whose record is not stored, or one that has failed. -/
def isUnstored : Stage → Bool
  | .begun (.create _) | .queued _ | .entered _ | .free _ | .prepared _ _ | .migrated _ _ => true
  | .done (.record (.error _)) => true
  | _ => false

/-- A creation whose record is stored. -/
def isStored : Stage → Bool
  | .stored _ | .done (.record (.ok _)) => true
  | _ => false

theorem eq_done_of_reply? {stage : Stage} {r : Reply} (h : stage.reply? = some r) :
    stage = .done r := by
  unfold reply? at h
  split at h
  · rw [Option.some.inj h]
  · exact absurd h (by simp only [reduceCtorEq, not_false_eq_true])

section Steps

variable (svc : Service) (o : Office) (task : Nat)

/-- What a creation does before its record is stored cannot be seen. -/
theorem step_isUnstored {stage : Stage} (h : stage.isUnstored = true) :
    (stage.step svc o task).1.env = o.env ∧ (stage.step svc o task).2.isUnstored = true ∨
      (stage.step svc o task).2.isStored = true := by
  cases stage with
  | begun c =>
      cases c with
      | create t =>
          refine Or.inl ?_
          simp only [step, Office.start]
          cases t.check with
          | ok u => exact ⟨rfl, rfl⟩
          | error f => exact ⟨rfl, rfl⟩
      | update id patch => exact absurd h Bool.false_ne_true
      | delete id => exact absurd h Bool.false_ne_true
      | resolve key => exact absurd h Bool.false_ne_true
  | queued t =>
      -- Where the lock is held the creation stays as it is.
      refine Or.inl ?_
      simp only [step]
      cases o.creating.grant? task with
      | some creating => exact ⟨rfl, rfl⟩
      | none => exact ⟨rfl, rfl⟩
  | entered t =>
      refine Or.inl ?_
      simp only [step]
      cases o.env.registry.findById t.id with
      | ok u => exact ⟨rfl, rfl⟩
      | error f =>
          cases hkind : f.isNotFound with
          | true => simp only [hkind, if_true, isUnstored, and_self]
          | false =>
              simp only [hkind, Bool.false_eq_true, if_false]
              exact ⟨rfl, rfl⟩
  | free t =>
      refine Or.inl ?_
      rw [step, Office.openFor]
      -- Which record it is does not matter: all that changes is about stores.
      generalize o.place svc t = p
      by_cases hblank : Text.blankText p.storeLocator = true
      · rw [if_pos hblank]
        exact ⟨rfl, rfl⟩
      · rw [if_neg hblank]
        simp only
        rcases (o.did (.opening p.id p.storeLocator)).stores.provision svc.pool p.storeLocator with
          ⟨result, stores⟩
        cases result with
        | ok handle => exact ⟨rfl, rfl⟩
        | error f => exact ⟨rfl, rfl⟩
  | prepared t handle =>
      refine Or.inl ?_
      rw [step, Office.migrate]
      cases svc.migration with
      | none => exact ⟨rfl, rfl⟩
      | some run =>
          simp only
          rcases run (o.did (.migrating t.id)).stores handle t with ⟨result, stores⟩
          cases result with
          | ok u => exact ⟨rfl, rfl⟩
          | error f => exact ⟨rfl, rfl⟩
  | migrated t handle =>
      -- Here the record is stored, unless the registry refuses it.
      cases hstore : o.env.registry.store.create t with
      | ok store =>
          refine Or.inr ?_
          simp only [step, Office.store, Registry.create, hstore, Registry.wrote, isStored]
      | error f =>
          refine Or.inl ?_
          simp only [step, Office.store, Registry.create, hstore, Registry.wrote]
          exact ⟨rfl, rfl⟩
  | done r =>
      cases r with
      | record result => exact Or.inl ⟨rfl, h⟩
      | deleted result => exact absurd h Bool.false_ne_true
      | resolved t => exact absurd h Bool.false_ne_true
  | stored t => exact absurd h Bool.false_ne_true
  | read previous new => exact absurd h Bool.false_ne_true
  | written previous new => exact absurd h Bool.false_ne_true
  | known t => exact absurd h Bool.false_ne_true
  | marked t => exact absurd h Bool.false_ne_true
  | missed key => exact absurd h Bool.false_ne_true
  | answered key outcome => exact absurd h Bool.false_ne_true
  | dropped => exact absurd h Bool.false_ne_true

/-- A creation whose record is stored does not fail any more. -/
theorem step_isStored {stage : Stage} (h : stage.isStored = true) :
    (stage.step svc o task).2.isStored = true := by
  unfold isStored at h
  split at h
  · rfl
  · exact rfl
  · exact absurd h Bool.false_ne_true

end Steps

end Stage

/-! ### A registry that gains a record -/

/-- A registry has gained a record. -/
structure Registry.Gained (before after : Registry) (new : Tenant) : Prop where
  /-- The record comes last, and the others are as they were. -/
  listed : ∃ ts, before.store.listAll = .ok ts ∧ after.store.listAll = .ok (ts ++ [new])
  /-- Other ids lead to the records to which they led. -/
  others : ∀ id, id ≠ new.id → after.findById id = before.findById id
  /-- So do the keys to which the new record does not answer. -/
  keys : ∀ key, new.answersTo key = false → (after.find key).1 = (before.find key).1

theorem Registry.gained_of_keeps {before : Registry} {ts : Roster} {store : Store} {new : Tenant}
    (h : before.store.KeepsSound ts) (h' : store.KeepsSound (ts ++ [new])) :
    before.Gained { before with store } new where
  listed := ⟨ts, Store.keeps_simulates.listAll h, Store.keeps_simulates.listAll h'⟩
  others id hne := by
    -- Both registries answer as their rosters do, and the new roster is the old one with the record
    -- at its end.
    have hbefore : before.store.findById id = ts.findById id :=
      Store.keeps_simulates.findById h id
    have hafter : store.findById id = Roster.findById (ts ++ [new]) id :=
      Store.keeps_simulates.findById h' id
    rw [findById, findById, hbefore, hafter, Roster.findById_append hne]
    rfl
  keys key hkey := by
    -- For keys the two rosters must be sound, or the new record could hide one that answers.
    have hbefore : before.store.find key = ts.find key := Store.keeps_simulates.find h key
    have hafter : store.find key = Roster.find (ts ++ [new]) key :=
      Store.keeps_simulates.find h' key
    rw [find, find, hbefore, hafter, h.2.find_append h'.2 hkey]
    rfl

namespace Office

/-! ### The two halves of a creation -/

theorem runSteps_add (svc : Service) (task m n : Nat) (o : Office) (stage : Stage) :
    runSteps svc task (m + n) o stage =
      runSteps svc task n (runSteps svc task m o stage).1 (runSteps svc task m o stage).2 := by
  induction m generalizing o stage with
  | zero => rw [Nat.zero_add, runSteps]
  | succ m ih => rw [Nat.succ_add, runSteps_succ, runSteps_succ, ih]

theorem isStored_runSteps (svc : Service) (o : Office) (task n : Nat) {stage : Stage}
    (h : stage.isStored = true) : (runSteps svc task n o stage).2.isStored = true := by
  induction n generalizing o stage with
  | zero => exact h
  | succ n ih => exact ih _ (stage.step_isStored svc o task h)

/-- Nothing can be seen of a creation whose record is not stored. -/
theorem env_of_not_isStored (svc : Service) (o : Office) (task n : Nat) {stage : Stage}
    (h : stage.isUnstored = true) (hn : (runSteps svc task n o stage).2.isStored = false) :
    (runSteps svc task n o stage).1.env = o.env := by
  -- By induction on the steps: as long as nothing is stored, no step touches the environment.
  induction n generalizing o stage with
  | zero => rfl
  | succ n ih =>
      rcases stage.step_isUnstored svc o task h with ⟨henv, hnext⟩ | hstored
      · rw [← henv]
        exact ih _ hnext hn
      · -- Once the record is stored it stays so, against the hypothesis.
        rw [runSteps_succ, isStored_runSteps svc _ task n hstored] at hn
        exact absurd hn.symm Bool.false_ne_true

/-- The office and the stage after some steps of a creation that runs alone. -/
def creationSteps (svc : Service) (o : Office) (t : Tenant) (n : Nat) : Office × Stage :=
  runSteps svc o.freshTask n o (.begun (.create t))

/-- As long as its record is not stored, nothing can be seen of a creation, nor
    could be before. -/
theorem env_creationSteps (svc : Service) (o : Office) (t : Tenant) {m n : Nat} (hmn : n ≤ m)
    (h : (o.creationSteps svc t m).2.isStored = false) :
    (o.creationSteps svc t n).1.env = o.env := by
  have hbegun : (Stage.begun (.create t)).isUnstored = true := rfl
  refine env_of_not_isStored svc o o.freshTask n hbegun ?_
  -- If the record were stored after `n` steps, it would be after `m` steps too.
  rw [← Bool.not_eq_true]
  intro hstored
  have hlater := isStored_runSteps svc
    (runSteps svc o.freshTask n o (.begun (.create t))).1 o.freshTask (m - n) hstored
  rw [← runSteps_add, Nat.add_sub_cancel' hmn] at hlater
  rw [creationSteps, hlater] at h
  exact absurd h.symm Bool.false_ne_true

/-! ### What a creation leaves -/

/-- A record that is about to be placed: active and stamped. -/
def stamped (o : Office) (t : Tenant) : Tenant :=
  { t with status := .active, createdAt := o.env.wall, updatedAt := o.env.wall }

/-- What a creation that fails leaves. -/
structure Untouched (svc : Service) (o : Office) (t : Tenant) (o' : Office) : Prop where
  /-- Registry, resolver and clocks are as they were. -/
  env : o'.env = o.env
  /-- So they were at every step on the way. -/
  unseen : ∀ n, (o.creationSteps svc t n).1.env = o.env
  /-- Whatever happens later, every key resolves to what it would resolve to
      without the creation, as long as the same creations succeed. -/
  later : ∀ events, SameCreations svc o' o events → ∀ key,
    ((o'.afterwards svc events).run svc (.resolve key)).2 =
      ((o.afterwards svc events).run svc (.resolve key)).2

/-- What a creation that succeeds leaves. -/
structure Completed (svc : Service) (o : Office) (t : Tenant) (o' : Office) : Prop where
  gained : o.env.registry.Gained o'.env.registry (o.place svc t).normalised
  active : (o.place svc t).normalised.isActive = true
  id : (o.place svc t).normalised.id = t.id
  locator : (o.place svc t).normalised.storeLocator =
    if Text.blankText t.storeLocator then svc.generate (o.stamped t) else t.storeLocator
  located : Text.blankText (o.place svc t).normalised.storeLocator = false
  /-- The store at the locator was made with the first version recorded. -/
  bootstrapped : ∃ handle opened recorded,
    o.stores.provision svc.pool (o.place svc t).storeLocator = (.ok handle, opened) ∧
      opened.migrations handle = .ok recorded ∧ bootstrapVersion ∈ recorded
  /-- After five steps the migration, if there is one, has succeeded on it. -/
  prepared : ∃ handle,
    Provisioned svc o.stores (o.place svc t) handle (o.creationSteps svc t 5).1.stores ∧
      (o.creationSteps svc t 5).2 = .migrated (o.place svc t) handle
  /-- Until then nothing can be seen of the record. -/
  unseen : ∀ n ≤ 5, (o.creationSteps svc t n).1.env = o.env
  /-- All that was done to stores was done until then, and each thing once. -/
  once : (o.creationSteps svc t 5).1.effects = o.effects ++ storeEffects svc (o.place svc t) ∧
    o'.effects = (o.creationSteps svc t 5).1.effects

section Creating

variable {svc : Service} {o o' : Office} {t : Tenant}

theorem place_eq (svc : Service) (o : Office) (t : Tenant) :
    o.place svc t =
      if Text.blankText t.storeLocator then
        { o.stamped t with storeLocator := svc.generate (o.stamped t) }
      else o.stamped t := rfl

theorem status_place (svc : Service) (o : Office) (t : Tenant) :
    (o.place svc t).status = .active := by
  rw [place_eq]
  split
  · rfl
  · rfl

theorem storeLocator_place (svc : Service) (o : Office) (t : Tenant) :
    (o.place svc t).storeLocator =
      if Text.blankText t.storeLocator then svc.generate (o.stamped t) else t.storeLocator := by
  rw [place_eq]
  split
  · rfl
  · rfl

/-- A store that gets ready has a locator. -/
theorem located_of_prepareAlone {handle : Nat} {stores : Stores} {effects : List Effect}
    (h : o.prepareAlone svc t = (.ok handle, stores, effects)) :
    Text.blankText t.storeLocator = false := by
  rw [← Bool.not_eq_true]
  intro hblank
  rw [prepareAlone, if_pos hblank] at h
  exact absurd (Prod.mk.inj h).1 (by simp only [reduceCtorEq, not_false_eq_true])

/-- After five steps a creation whose store gets ready has done everything but
    to store the record. -/
theorem creationSteps_five {f : Fault} {handle : Nat} {stores : Stores} {effects : List Effect}
    (hidle : o.Idle) (hcheck : t.check = .ok ())
    (hid : o.env.registry.findById t.id = .error f) (hkind : f.isNotFound = true)
    (hprepare : o.prepareAlone svc (o.place svc t) = (.ok handle, stores, effects)) :
    ∃ creating, o.creationSteps svc t 5 =
      ({ o with stores, effects }.locked creating, .migrated (o.place svc t) handle) := by
  -- Two of the five steps take the lock, one checks that the id is free, and two prepare the store.
  rcases runSteps_enter hidle svc hcheck 3 with ⟨creating, mutex, _, henter⟩
  have hregistry : (o.locked creating).env.registry = o.env.registry := rfl
  have hentered : (Stage.entered t).step svc (o.locked creating) 0 =
      (o.locked creating, .free t) := by
    simp only [Stage.step, hregistry, hid, hkind, if_true]
  refine ⟨creating, ?_⟩
  rw [creationSteps, freshTask_idle hidle, henter, runSteps_succ, hentered, runSteps_free, hprepare]
  rfl

/-- At no step can anything be seen of a creation that fails. -/
theorem env_creationSteps_of_error {f : Fault}
    (hreply : (o.run svc (.create t)).2 = some (.record (.error f))) (n : Nat) :
    (o.creationSteps svc t n).1.env = o.env := by
  rw [run] at hreply
  have hdone := Stage.eq_done_of_reply? hreply
  -- What has ended stays as it is, so the run may be taken to be longer than it is.
  have hlast : (o.creationSteps svc t (maxSteps + n)).2 = .done (.record (.error f)) := by
    rw [creationSteps, runSteps_add, hdone, runSteps_done]
  refine env_creationSteps svc o t (Nat.le_add_left n maxSteps) ?_
  rw [hlast]
  rfl

/-- A creation that fails has left nothing to be seen. -/
theorem untouched_of_error (hidle : o.Idle) (hidle' : o'.Idle) {f : Fault}
    (hrun : o.run svc (.create t) = (o', some (.record (.error f)))) (henv : o'.env = o.env) :
    Untouched svc o t o' where
  env := henv
  unseen := env_creationSteps_of_error (congrArg Prod.snd hrun)
  later _ hsame _ := (run_congr (env_afterwards_congr hidle' hidle henv hsame) rfl).2

/-- A creation that succeeds has done all that belongs to it. -/
theorem completed_of_stored (hidle : o.Idle) {ts : Roster}
    (hkeeps : o.env.registry.store.KeepsSound ts) {f : Fault} {handle : Nat} {stores : Stores}
    {effects : List Effect} {store : Store} (hcheck : t.check = .ok ())
    (hid : o.env.registry.findById t.id = .error f) (hkind : f.isNotFound = true)
    (hprepare : o.prepareAlone svc (o.place svc t) = (.ok handle, stores, effects))
    (hstore : o.env.registry.store.create (o.place svc t) = .ok store)
    (hregistry : o'.env.registry = { o.env.registry with store })
    (heffects : o'.effects = effects) : Completed svc o t o' := by
  rcases (Store.keeps_simulates.create hkeeps (o.place svc t)).ok_left hstore with
    ⟨us, hus, hkeeps'⟩
  -- The roster grew by the record as it is stored.
  rcases (Roster.create_eq_ok_iff ts us _).mp hus with ⟨_, _, _, rfl⟩
  rcases prepareAlone_eq_ok hprepare with ⟨hprovisioned, hdone⟩
  rcases creationSteps_five hidle hcheck hid hkind hprepare with ⟨creating, hfive⟩
  constructor
  case gained =>
    rw [hregistry]
    exact Registry.gained_of_keeps hkeeps hkeeps'
  case active => rw [Tenant.isActive, Tenant.normalised, status_place, beq_self_eq_true]
  case id => rw [Tenant.normalised, id_place]
  case locator => rw [Tenant.normalised, storeLocator_place]
  case located => rw [Tenant.normalised, located_of_prepareAlone hprepare]
  case bootstrapped =>
    rcases hprovisioned with ⟨opened, hopen, _⟩
    rcases Stores.bootstrapped_of_provision hopen with ⟨recorded, hrecorded, hmem⟩
    exact ⟨handle, opened, recorded, hopen, hrecorded, hmem⟩
  case prepared =>
    rw [hfive]
    exact ⟨handle, hprovisioned, rfl⟩
  case unseen =>
    intro n hn
    refine env_creationSteps svc o t hn ?_
    rw [hfive]
    rfl
  case once =>
    rw [hfive, heffects]
    exact ⟨hdone, rfl⟩

/-- A creation that runs alone has an answer. If it fails, then registry and
    resolver are as they were, and were so at every step; and whatever happens
    later, every key resolves to what it would resolve to without the
    creation, as long as the same creations succeed. If it succeeds, then the
    registry has gained one record, which is active and comes last; its store
    was provisioned, and the migration had run on it once and succeeded before
    anything could be seen of the record. -/
theorem create_all_or_nothing (svc : Service) (o : Office) (hidle : o.Idle)
    (hreachable : o.env.registry.store.Reachable) (t : Tenant) :
    ∃ o' result, o.run svc (.create t) = (o', some (.record result)) ∧
      match result with
      | .error _ => Untouched svc o t o'
      | .ok r => r = o.place svc t ∧ Completed svc o t o' := by
  rcases hreachable.keepsSound with ⟨ts, hkeeps⟩
  rcases run_create hidle svc t with ⟨o', result, hrun, hidle', hc⟩
  refine ⟨o', result, hrun, ?_⟩
  cases result with
  | error f => exact untouched_of_error hidle hidle' hrun hc.env_eq
  | ok r =>
      rcases o' with ⟨env, stores, creating, effects⟩
      -- Only one of the ways in which a creation can end answers with a record.
      cases hc with
      | @stored _ handle _ _ store hcheck hid hkind hprepare hstore =>
          refine ⟨rfl, completed_of_stored hidle hkeeps hcheck hid hkind hprepare hstore ?_ rfl⟩
          exact registry_forget svc (o.withStore store) (o.place svc t)

end Creating

/-- A service whose migration fails for the tenant `b`. -/
def pickyService : Service where
  generate := (LocatorPlan.fixed "sqlite://<id>.db?mode=rwc").generate
  pool := .tenant
  migration := some (MigrationPlan.run { failFor := ["b"], fault := .reported .storage "no" })

/-- A tenant with a locator of its own. -/
def housedTenant (id locator : String) : Tenant :=
  { Tenant.new id id ⟨0, 0⟩ with storeLocator := locator }

theorem idle_newOffice : newOffice.Idle := rfl

theorem reachable_newOffice : newOffice.env.registry.store.Reachable :=
  ⟨.indexed .empty, Or.inl rfl, [], rfl⟩

/-- The migration fails for `b`, whose store has made the directory `pub` by
    then. Then `c` wants its store in a file of that name, and is refused; so
    its key resolves to nobody, while it would resolve to `c` if `b` had never
    been tried. -/
theorem leftover_in_the_way :
    let refused := newOffice.run pickyService (.create (housedTenant "b" "sqlite://pub/b.db"))
    let events := [LaterEvent.call (.create (housedTenant "c" "sqlite://pub"))]
    newOffice.Idle ∧ newOffice.env.registry.store.Reachable ∧
      refused.2 = some (.record (.error (.migrationFailed "b" (.reported .storage "no")))) ∧
      ((refused.1.afterwards pickyService events).run pickyService (.resolve "c")).2 =
        some (.resolved none) ∧
      ((newOffice.afterwards pickyService events).run pickyService (.resolve "c")).2 =
        some (.resolved (some (newOffice.place pickyService (housedTenant "c" "sqlite://pub")))) :=
  ⟨idle_newOffice, reachable_newOffice, by decide +kernel⟩

/-- The creation of a second tenant with the domain `shop` is nothing, and that
    of one without a domain is all. -/
theorem create_all_or_nothing_shop :
    Untouched fileService shopOffice (shopTenant "b")
        (shopOffice.run fileService (.create (shopTenant "b"))).1 ∧
      Completed fileService shopOffice (Tenant.new "c" "c" ⟨0, 0⟩)
        (shopOffice.run fileService (.create (Tenant.new "c" "c" ⟨0, 0⟩))).1 := by
  have hrefused : (shopOffice.run fileService (.create (shopTenant "b"))).2 =
      some (.record (.error (.keyTaken "shop" "acme"))) := by decide +kernel
  have haccepted : (shopOffice.run fileService (.create (Tenant.new "c" "c" ⟨0, 0⟩))).2 =
      some (.record (.ok (shopOffice.place fileService (Tenant.new "c" "c" ⟨0, 0⟩)))) := by
    decide +kernel
  -- The one creation is refused for the domain, the other succeeds.
  constructor
  · rcases create_all_or_nothing fileService shopOffice idle_shopOffice reachable_shopOffice
      (shopTenant "b") with ⟨o', result, hrun, hcase⟩
    rw [hrun] at hrefused
    rw [hrun]
    have hresult : result = .error (.keyTaken "shop" "acme") := by
      simpa only [Option.some.injEq, Reply.record.injEq] using hrefused
    subst hresult
    exact hcase
  · rcases create_all_or_nothing fileService shopOffice idle_shopOffice reachable_shopOffice
      (Tenant.new "c" "c" ⟨0, 0⟩) with ⟨o', result, hrun, hcase⟩
    rw [hrun] at haccepted
    rw [hrun]
    have hresult : result = .ok (shopOffice.place fileService (Tenant.new "c" "c" ⟨0, 0⟩)) := by
      simpa only [Option.some.injEq, Reply.record.injEq] using haccepted
    subst hresult
    exact hcase.2

end Office

end Multitenancy
