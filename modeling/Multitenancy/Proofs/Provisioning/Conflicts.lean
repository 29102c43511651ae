import Multitenancy.Proofs.Resolution.Transparency
import Multitenancy.Provisioning.Plan
/-!
# Creations That Conflict

What a creation leaves behind when it ends in a conflict.

A migration is meant to run once on a new store. For that, a record that cannot
be registered would have to be refused before its store is touched, and with
ids it is so: whether the id is free is seen first, and a creation of an id that
is taken leaves nothing.

With routing keys it is not so. Whether they are free is seen by the registry
only when it is handed the record, and by then the store of the tenant was
opened, prepared and migrated. Nothing of that is undone. The store is closed
and stays where it is, with everything that the migration recorded on it, and
when the record is corrected and created again, its store is no longer new but
the migration runs on it a second time. How far the defect goes is settled here:
every creation that conflicts although its id is free leaves such a store, and
no creation that conflicts for its id does.

No other step can end in a conflict. What goes wrong with a store is a fault of
provisioning whatever its cause was, even if a migration reports a conflict.

## Main definitions

* `Office.storeEffects`: What provisioning a record does to stores.
* `Office.Provisioned`: A store was opened, prepared and migrated.
* `Office.Conflicted`: The two ways in which a creation can conflict.

## Theorems

* `Stores.kind_of_provision`, `Office.kind_of_prepareAlone`: Faults of stores
  are faults of provisioning.
* `Office.prepareAlone_eq_ok`: What was done when a store is ready.
* `Office.idle_history`: Operations that run alone leave no lock behind.
* `Office.create_conflict_trace`: A creation that conflicts leaves nothing if
  its id was taken, and a migrated store if it was not.
* `Office.conflict_opens_store`: One store is migrated twice.
-/

namespace Multitenancy

namespace Stores

/-- The versions that are recorded on the store at a locator, in the order in
    which they were, if there is such a store. -/
def versionsAt? (s : Stores) (locator : String) : Option (List String) :=
  match s.openStore .tenant locator false with
  | (.ok handle, s) => do
    let h ← (s.live handle).toOption
    let d ← (s.tables h).toOption
    d.migrations
  | (.error _, _) => none

theorem kind_refused (locator : String) (f : Fault) :
    (refused locator f).kind = .provisioning := by
  unfold refused
  by_cases hkind : f.kind = .provisioning
  · rw [if_pos (by rw [hkind, beq_self_eq_true])]
    exact hkind
  · rw [if_neg (by rw [beq_iff_eq]; exact hkind), Fault.kind]

/-- A store that cannot be provisioned is a fault of provisioning. -/
theorem kind_of_provision {s after : Stores} {pool : PoolSettings} {locator : String} {f : Fault}
    (h : s.provision pool locator = (.error f, after)) : f.kind = .provisioning := by
  unfold provision at h
  rcases hopen : s.openStore pool locator true with ⟨result, opened⟩
  rw [hopen] at h
  -- Opening, the check of its health and the preparation can fail, in this order.
  cases result with
  | error g =>
      rw [← Except.error.inj (Prod.mk.inj h).1]
      exact kind_refused locator g
  | ok handle =>
      simp only at h
      cases hhealth : opened.health handle with
      | some g =>
          rw [hhealth] at h
          rw [← Except.error.inj (Prod.mk.inj h).1, Fault.kind]
      | none =>
          rw [hhealth] at h
          cases hprepare : opened.prepare handle with
          | error g =>
              rw [hprepare] at h
              rw [← Except.error.inj (Prod.mk.inj h).1]
              exact kind_refused locator _
          -- A store that passes all three is not a failure.
          | ok prepared =>
              rw [hprepare] at h
              exact absurd (Prod.mk.inj h).1 (by simp only [reduceCtorEq, not_false_eq_true])

end Stores

namespace Office

/-- What is done outside the registry when the store of a placed record is
    provisioned: it is opened, and the migration runs on it if there is one. -/
def storeEffects (svc : Service) (t : Tenant) : List Effect :=
  .opening t.id t.storeLocator :: if svc.migration.isSome then [.migrating t.id] else []

/-- The store of a placed record was opened and prepared, and the migration, if
    there is one, succeeded on it. -/
def Provisioned (svc : Service) (before : Stores) (t : Tenant) (handle : Nat) (after : Stores) :
    Prop :=
  ∃ opened, before.provision svc.pool t.storeLocator = (.ok handle, opened) ∧
    match svc.migration with
    | none => after = opened
    | some run => run opened handle t = (.ok (), after)

/-- The ways in which a creation can conflict, with the stores and the effects
    that it leaves. -/
inductive Conflicted (svc : Service) (o : Office) (t : Tenant) :
    Fault → Stores → List Effect → Prop where
  /-- There is a tenant with the id, perhaps a deleted one. No store was
      touched. -/
  | id {u : Tenant} (hid : o.env.registry.findById t.id = .ok u) :
      Conflicted svc o t (.idTaken t.id) o.stores o.effects
  /-- The id is free, but another active tenant answers to a key of the record.
      This is seen too late: the store was provisioned, and is left behind. -/
  | key {f : Fault} {key : String} {owner : Tenant} {ts : List Tenant} {handle : Nat}
      {stores : Stores} (hid : o.env.registry.findById t.id = .error f)
      (hkind : f.isNotFound = true) (hlist : o.env.registry.store.list = .ok ts)
      (howner : owner ∈ ts) (hother : owner.id ≠ t.id) (hkey : key ∈ t.id :: t.secondaryKeys)
      (hanswers : owner.id = key ∨ owner.holds (Text.lowerText key) = true)
      (hstore : Provisioned svc o.stores (o.place svc t) handle stores) :
      Conflicted svc o t (.keyTaken key owner.id) (stores.close handle)
        (o.effects ++ storeEffects svc (o.place svc t))

/-! ### The store of a placed record -/

section Preparing

variable {svc : Service} {o : Office} {t : Tenant} {stores : Stores} {effects : List Effect}

theorem kind_migrationFault (t : Tenant) (f : Fault) :
    (migrationFault t f).kind = .provisioning := by
  unfold migrationFault
  by_cases hkind : f.kind = .provisioning
  · rw [if_pos (by rw [hkind, beq_self_eq_true])]
    exact hkind
  · rw [if_neg (by rw [beq_iff_eq]; exact hkind), Fault.kind]

/-- A store that does not get ready is a fault of provisioning, whatever the
    migration has reported. -/
theorem kind_of_prepareAlone {f : Fault}
    (h : o.prepareAlone svc t = (.error f, stores, effects)) : f.kind = .provisioning := by
  unfold prepareAlone at h
  -- A blank locator is refused before any store is opened.
  by_cases hblank : Text.blankText t.storeLocator = true
  · rw [if_pos hblank] at h
    rw [← Except.error.inj (Prod.mk.inj h).1, Fault.kind]
  · rw [if_neg hblank] at h
    rcases hopen : o.stores.provision svc.pool t.storeLocator with ⟨result, opened⟩
    rw [hopen] at h
    cases result with
    | error g =>
        rw [← Except.error.inj (Prod.mk.inj h).1]
        exact Stores.kind_of_provision hopen
    | ok handle =>
        cases hrun : svc.migration with
        | none =>
            rw [hrun] at h
            exact absurd (Prod.mk.inj h).1 (by simp only [reduceCtorEq, not_false_eq_true])
        | some run =>
            rw [hrun] at h
            simp only at h
            rcases hmigrate : run opened handle t with ⟨outcome, migrated⟩
            rw [hmigrate] at h
            -- Whatever the migration reports is turned into a fault of provisioning.
            cases outcome with
            | ok u =>
                exact absurd (Prod.mk.inj h).1 (by simp only [reduceCtorEq, not_false_eq_true])
            | error g =>
                rw [← Except.error.inj (Prod.mk.inj h).1]
                exact kind_migrationFault t g

/-- When a store gets ready, it was provisioned, and each thing was done
    once. -/
theorem prepareAlone_eq_ok {handle : Nat}
    (h : o.prepareAlone svc t = (.ok handle, stores, effects)) :
    Provisioned svc o.stores t handle stores ∧ effects = o.effects ++ storeEffects svc t := by
  unfold prepareAlone at h
  by_cases hblank : Text.blankText t.storeLocator = true
  · rw [if_pos hblank] at h
    exact absurd (Prod.mk.inj h).1 (by simp only [reduceCtorEq, not_false_eq_true])
  · rw [if_neg hblank] at h
    rcases hopen : o.stores.provision svc.pool t.storeLocator with ⟨result, opened⟩
    rw [hopen] at h
    -- The store was opened, so the locator is not blank and the first effect is on record.
    unfold Provisioned storeEffects
    cases result with
    | error g => exact absurd (Prod.mk.inj h).1 (by simp only [reduceCtorEq, not_false_eq_true])
    | ok handle' =>
        cases hrun : svc.migration with
        | none =>
            rw [hrun] at h
            simp only [Prod.mk.injEq, Except.ok.injEq] at h
            rcases h with ⟨rfl, rfl, rfl⟩
            exact ⟨⟨opened, hopen, rfl⟩, rfl⟩
        | some run =>
            rw [hrun] at h
            simp only at h
            rcases hmigrate : run opened handle' t with ⟨outcome, migrated⟩
            rw [hmigrate] at h
            -- Only a migration that succeeds leaves the store as it is then.
            cases outcome with
            | error g =>
                exact absurd (Prod.mk.inj h).1 (by simp only [reduceCtorEq, not_false_eq_true])
            | ok u =>
                simp only [Prod.mk.injEq, Except.ok.injEq] at h
                rcases h with ⟨rfl, rfl, rfl⟩
                refine ⟨⟨opened, hopen, hmigrate⟩, ?_⟩
                rw [List.append_assoc]
                rfl

end Preparing

/-! ### Creations that conflict, and later ones -/

section Creating

variable {svc : Service} {o : Office} {t : Tenant}

/-- Nobody with the id is on the roster of a registry that says so. -/
theorem byId?_of_findById {ts : Roster} {id : String} {f : Fault}
    (hkeeps : o.env.registry.store.KeepsSound ts) (hid : o.env.registry.findById id = .error f)
    (hkind : f.isNotFound = true) : ts.byId? id = none := by
  rw [Registry.findById, Registry.guarded] at hid
  split at hid
  · -- A registry that is switched off does not say that there is nobody.
    rw [← Except.error.inj hid] at hkind
    exact absurd hkind (by decide)
  · have hstore : o.env.registry.store.findById id = ts.findById id :=
      Store.keeps_simulates.findById hkeeps id
    rw [hstore, Roster.findById] at hid
    cases hfound : ts.byId? id with
    | none => rfl
    | some u =>
        rw [hfound] at hid
        exact absurd hid (by simp only [reduceCtorEq, not_false_eq_true])

/-- A registry that cannot tell whether there is a tenant has no conflict. -/
theorem kind_of_findById {ts : Roster} {id : String} {f : Fault}
    (hkeeps : o.env.registry.store.KeepsSound ts)
    (hid : o.env.registry.findById id = .error f) : f.kind ≠ .conflict := by
  rw [Registry.findById, Registry.guarded] at hid
  split at hid
  · -- A registry that is switched off is unavailable, which is no conflict.
    rw [← Except.error.inj hid]
    decide
  · have hstore : o.env.registry.store.findById id = ts.findById id :=
      Store.keeps_simulates.findById hkeeps id
    rw [hstore, Roster.findById] at hid
    split at hid
    · -- A roster that has the id gives the record, and otherwise says that it is not found.
      exact absurd hid (by simp only [reduceCtorEq, not_false_eq_true])
    · rw [← Except.error.inj hid, Fault.kind]
      simp only [ne_eq, reduceCtorEq, not_false_eq_true]

/-- Placing a record leaves its keys as they are. -/
theorem secondaryKeys_place (svc : Service) (o : Office) (t : Tenant) :
    (o.place svc t).secondaryKeys = t.secondaryKeys := by
  unfold place
  simp only
  split
  · rfl
  · rfl

/-- A creation that conflicts leaves the environment as it was, and conflicts
    in one of the two ways. -/
theorem Created.conflicted {ts : Roster} (hkeeps : o.env.registry.store.KeepsSound ts) {f : Fault}
    {env : Env} {stores : Stores} {effects : List Effect}
    (hc : Created svc o t (.error f) env stores effects) (hkind : f.kind = .conflict) :
    env = o.env ∧ Conflicted svc o t f stores effects := by
  cases hc with
  | invalid hcheck =>
      rw [Tenant.kind_of_check hcheck] at hkind
      exact absurd hkind (by simp only [reduceCtorEq, not_false_eq_true])
  | taken _ hid => exact ⟨rfl, .id hid⟩
  | unread _ hid _ => exact absurd hkind (kind_of_findById hkeeps hid)
  | unprepared _ _ _ hprepare =>
      rw [kind_of_prepareAlone hprepare] at hkind
      exact absurd hkind (by simp only [reduceCtorEq, not_false_eq_true])
  | unstored hcheck hid hfree hprepare hstore =>
      rcases prepareAlone_eq_ok hprepare with ⟨hprovisioned, rfl⟩
      -- The registry refuses the record as its roster does: for one of its keys.
      have hrefused := Store.keeps_simulates.create hkeeps (o.place svc t)
      have hstored : Store.operations.create o.env.registry.store (o.place svc t) = .error f :=
        hstore
      have hplaced : (o.place svc t).check = .ok () := by
        rw [Tenant.check_congr (id_place svc o t)]
        exact hcheck
      have hnobody : Roster.byId? ts (o.place svc t).id = none := by
        rw [id_place]
        exact byId?_of_findById hkeeps hid hfree
      cases hcreate : Roster.operations.create ts (o.place svc t) with
      | ok us =>
          rcases hrefused.ok_right hcreate with ⟨store, hok, _⟩
          rw [hstored] at hok
          exact absurd hok (by simp only [reduceCtorEq, not_false_eq_true])
      | error g =>
          have hsame := hrefused.error_right hcreate
          rw [hstored, Except.error.injEq] at hsame
          subst hsame
          have hkeys := Roster.checkKeys_eq_error_of_create hplaced hnobody hcreate
          rcases Roster.exists_claim_of_checkKeys hkeys with ⟨key, hkey, owner, howner, hclaim, rfl⟩
          rw [id_place] at hclaim
          rw [id_place, secondaryKeys_place] at hkey
          rcases (Roster.claims_iff key t.id owner).mp hclaim with ⟨hactive, hother, hanswers⟩
          have hlist : o.env.registry.store.list = .ok ts.active :=
            Store.keeps_simulates.list hkeeps
          exact ⟨rfl, .key hid hfree hlist (List.mem_filter.mpr ⟨howner, hactive⟩) hother hkey
            hanswers hprovisioned⟩

/-- A creation that succeeds has provisioned a store. -/
theorem Created.effects_eq {r : Tenant} {env : Env} {stores : Stores} {effects : List Effect}
    (hc : Created svc o t (.ok r) env stores effects) :
    effects = o.effects ++ storeEffects svc (o.place svc t) := by
  cases hc with
  | stored _ _ _ hprepare _ => exact (prepareAlone_eq_ok hprepare).2

theorem idle_happen (h : o.Idle) (svc : Service) (event : DeskEvent) :
    (o.happen svc event).Idle := by
  cases event with
  | call c =>
      -- Every call of the desk runs alone, and gives back the lock that it takes.
      cases c with
      | create t =>
          rcases run_create h svc t with ⟨o', r, hrun, hidle, _⟩
          rw [happen, hrun]
          exact hidle
      | update id patch =>
          rcases run_update h svc id patch with ⟨o', r, hrun, hidle, _⟩
          rw [happen, hrun]
          exact hidle
      | delete id =>
          rcases run_delete h svc id with ⟨o', r, hrun, hidle, _⟩
          rw [happen, hrun]
          exact hidle
      | resolve key =>
          rcases run_resolve h svc key with ⟨o', r, hrun, hidle, _⟩
          rw [happen, hrun]
          exact hidle
  | invalidate key => exact h
  | clear => exact h
  | pass elapsed wall => exact h

theorem idle_history (h : o.Idle) (svc : Service) (events : List DeskEvent) :
    (o.history svc events).Idle := by
  induction events generalizing o with
  | nil => exact h
  | cons event rest ih => exact ih (idle_happen h svc event)

/-- A creation that runs alone and conflicts leaves the registry, the resolver
    and the log as they were. If the id was taken, it has touched no store, as
    it should be. If it was free, another active tenant answers to a key of the
    record, which is noticed when the store has been opened, prepared and
    migrated, each once, and the store stays. Whatever happens after that, a
    creation of the id that succeeds opens its store and runs the migration
    without asking whether it has run there before. -/
theorem create_conflict_trace (svc : Service) (o : Office) (hidle : o.Idle)
    (hreachable : o.env.registry.store.Reachable) (t : Tenant) (f : Fault)
    (hreply : (o.run svc (.create t)).2 = some (.record (.error f)))
    (hkind : f.kind = .conflict) :
    (o.run svc (.create t)).1.env = o.env ∧
      Conflicted svc o t f (o.run svc (.create t)).1.stores (o.run svc (.create t)).1.effects ∧
      ∀ (events : List DeskEvent) (again r : Tenant), again.id = t.id →
        let later := (o.run svc (.create t)).1.history svc events
        (later.run svc (.create again)).2 = some (.record (.ok r)) →
          (later.run svc (.create again)).1.effects =
            later.effects ++ storeEffects svc (later.place svc again) := by
  rcases hreachable.keepsSound with ⟨ts, hkeeps⟩
  rcases run_create hidle svc t with ⟨o', result, hrun, hidle', hc⟩
  have hresult : result = .error f := by
    rw [hrun] at hreply
    simpa only [Option.some.injEq, Reply.record.injEq] using hreply
  subst hresult
  rw [hrun]
  rcases hc.conflicted hkeeps hkind with ⟨henv, hconflict⟩
  refine ⟨henv, hconflict, fun events again r _ hagain => ?_⟩
  -- The later creation runs alone too, so it ends in one of the known ways.
  rcases run_create (idle_history hidle' svc events) svc again with ⟨last, result, hrun', _, hc'⟩
  have hresult' : result = .ok r := by
    rw [hrun'] at hagain
    simpa only [Option.some.injEq, Reply.record.injEq] using hagain
  subst hresult'
  rw [hrun']
  exact hc'.effects_eq

end Creating

/-- A service that keeps the store of every tenant in a file of its own, and
    migrates it to a first version. -/
def fileService : Service where
  generate := (LocatorPlan.fixed "sqlite://<id>.db?mode=rwc").generate
  pool := .tenant
  migration := some (MigrationPlan.run { versions := ["0001"], fault := .buildAborted })

/-- A tenant with the domain `shop`. -/
def shopTenant (id : String) : Tenant :=
  (Tenant.new id id ⟨0, 0⟩).withDomain "shop"

/-- An office in which the tenant `acme` has the domain `shop`. -/
def shopOffice : Office :=
  (newOffice.run fileService (.create (shopTenant "acme"))).1

theorem idle_shopOffice : shopOffice.Idle := by
  unfold Idle
  decide +kernel

theorem reachable_shopOffice : shopOffice.env.registry.store.Reachable :=
  ⟨.indexed .empty, Or.inl rfl,
    [(⟨0, 0⟩, .create (newOffice.place fileService (shopTenant "acme")))], by decide +kernel⟩

/-- A second tenant asks for the domain. The creation conflicts, but only after
    its store was made and migrated, and the corrected creation of the same id
    migrates that store again: the migration, which is for new stores only, has
    run twice on one store. -/
theorem conflict_opens_store :
    shopOffice.Idle ∧ shopOffice.env.registry.store.Reachable ∧
      (Fault.keyTaken "shop" "acme").kind = .conflict ∧
      let refused := shopOffice.run fileService (.create (shopTenant "b"))
      let corrected := refused.1.run fileService (.create (Tenant.new "b" "b" ⟨0, 0⟩))
      refused.2 = some (.record (.error (.keyTaken "shop" "acme"))) ∧
        shopOffice.stores.versionsAt? "sqlite://b.db" = none ∧
        refused.1.stores.versionsAt? "sqlite://b.db" = some [bootstrapVersion, "0001"] ∧
        refused.1.effects = shopOffice.effects ++
          [.opening "b" "sqlite://b.db?mode=rwc", .migrating "b"] ∧
        corrected.1.effects = refused.1.effects ++
          [.opening "b" "sqlite://b.db?mode=rwc", .migrating "b"] :=
  ⟨idle_shopOffice, reachable_shopOffice, rfl, by decide +kernel⟩

/-- The migrated store that it leaves, and the second migration by the corrected
    creation. -/
theorem create_conflict_trace_shop :
    let refused := shopOffice.run fileService (.create (shopTenant "b"))
    let again := Tenant.new "b" "b" ⟨0, 0⟩
    let corrected := refused.1.run fileService (.create again)
    refused.2 = some (.record (.error (.keyTaken "shop" "acme"))) ∧
      refused.1.env = shopOffice.env ∧
      Conflicted fileService shopOffice (shopTenant "b") (.keyTaken "shop" "acme")
        refused.1.stores refused.1.effects ∧
      corrected.2 = some (.record (.ok (refused.1.place fileService again))) ∧
      corrected.1.effects =
        refused.1.effects ++ storeEffects fileService (refused.1.place fileService again) := by
  -- Both answers are computed; what is left on the stores is read off the theorem.
  have hreply : (shopOffice.run fileService (.create (shopTenant "b"))).2 =
      some (.record (.error (.keyTaken "shop" "acme"))) := by decide +kernel
  have hagain : ((shopOffice.run fileService (.create (shopTenant "b"))).1.run fileService
      (.create (Tenant.new "b" "b" ⟨0, 0⟩))).2 = some (.record (.ok
        ((shopOffice.run fileService (.create (shopTenant "b"))).1.place fileService
          (Tenant.new "b" "b" ⟨0, 0⟩)))) := by decide +kernel
  rcases create_conflict_trace fileService shopOffice idle_shopOffice reachable_shopOffice
    (shopTenant "b") (.keyTaken "shop" "acme") hreply rfl with ⟨henv, hconflict, hlater⟩
  exact ⟨hreply, henv, hconflict, hagain, hlater [] _ _ rfl hagain⟩

end Office

end Multitenancy
