import Multitenancy.Proofs.Provisioning.Creation
import Multitenancy.Proofs.Provisioning.Traffic
import Multitenancy.Proofs.Registry.Serving
/-!
# The Life of a Record

A record is created active, may be replaced while it is active, may be deleted,
and stays as it is from then on. Its id is never given to another record, and
its locator and the time of its creation never change.

No one part of the program sees to all of this. The registry keeps a record
under its id for good, replaces no deleted one, and keeps status and creation
time when it replaces one. It does not keep the locator: it stores whichever
one a new record brings. That this is the old one is known by the operation
that brings it, which has made it from the record it read, so it has to be
followed through the time between reading and writing. There the record may be
replaced by others, and none of them changes its locator. Equally, that a
record has a locator is known by the creation that opened a store at it.

Operations may be interleaved and dropped at any step.

## Main definitions

* `Tenant.Persists`: What one record and a later one of the tenant have in
  common.
* `Roster.Lives`: What one event does to the records.
* `Roster.Continues`: What any number of events do.
* `Stage.Informed`: What an operation under way knows about locators.
* `Traffic.Recorded`: The invariant.

## Theorems

* `Roster.Lives.continues`, `Roster.Continues.trans`: From one event to any
  number of them.
* `Stage.lives_step`: What a step does to the records.
* `Traffic.Recorded.next`, `Traffic.Recorded.run`: What an event does to them,
  and what a history does.
* `Office.run_update_inactive`, `Office.run_delete_inactive`: A deleted record
  is not updated, and is not deleted again.
* `Office.lifecycle`: The life of a record.
-/

namespace Multitenancy

/-- What a record and a later one of the same tenant have in common. -/
structure Tenant.Persists (t u : Tenant) : Prop where
  id : u.id = t.id
  storeLocator : u.storeLocator = t.storeLocator
  createdAt : u.createdAt = t.createdAt
  /-- A deleted record does not change any more, nor does it come back. -/
  inactive : t.isActive = false → u = t

theorem Tenant.Persists.refl (t : Tenant) : t.Persists t :=
  ⟨rfl, rfl, rfl, fun _ => rfl⟩

theorem Tenant.Persists.trans {t u v : Tenant} (h : t.Persists u) (h' : u.Persists v) :
    t.Persists v where
  id := h'.id.trans h.id
  storeLocator := h'.storeLocator.trans h.storeLocator
  createdAt := h'.createdAt.trans h.createdAt
  inactive := fun hinactive => by
    have hsame := h.inactive hinactive
    subst hsame
    exact h'.inactive hinactive

namespace Roster

/-- What one event does to the records. -/
inductive Lives (ts : Roster) : Roster → Prop where
  | same : Lives ts ts
  /-- An active record with a locator and a new id comes last. -/
  | born {t : Tenant} (hactive : t.isActive = true)
      (hlocated : Text.blankText t.storeLocator = false) (hfresh : t.id ∉ ts.map Tenant.id) :
      Lives ts (ts ++ [t])
  /-- An active record is replaced. -/
  | changed {t u : Tenant} (ht : t ∈ ts) (hactive : t.isActive = true) (hid : u.id = t.id)
      (hlocator : u.storeLocator = t.storeLocator) (hcreated : u.createdAt = t.createdAt) :
      Lives ts (ts.replace t.id u)

/-- What any number of events do to the records: each is still there in its
    place, in some form, and new ones come last. -/
structure Continues (ts us : Roster) : Prop where
  ids : ts.map Tenant.id <+: us.map Tenant.id
  persists : ∀ t ∈ ts, ∃ u ∈ us, t.Persists u

theorem Continues.refl (ts : Roster) : ts.Continues ts :=
  ⟨List.prefix_refl _, fun t ht => ⟨t, ht, .refl t⟩⟩

theorem Continues.trans {ts us vs : Roster} (h : ts.Continues us) (h' : us.Continues vs) :
    ts.Continues vs where
  ids := h.ids.trans h'.ids
  persists := by
    intro t ht
    rcases h.persists t ht with ⟨u, hu, htu⟩
    rcases h'.persists u hu with ⟨v, hv, huv⟩
    exact ⟨v, hv, htu.trans huv⟩

variable {ts us : Roster}

theorem Lives.continues (h : ts.Lives us) (hs : ts.Sound) : ts.Continues us := by
  cases h with
  | same => exact .refl ts
  | @born t _ _ _ =>
      -- The others stay where they are, before the new record.
      refine ⟨?_, fun u hu => ⟨u, List.mem_append_left _ hu, .refl u⟩⟩
      rw [List.map_append]
      exact List.prefix_append _ _
  | @changed t u ht hactive hid hlocator hcreated =>
      refine ⟨?_, fun v hv => ?_⟩
      · exact ⟨[], by rw [List.append_nil, map_id_replace ts hid]⟩
      · by_cases hvid : v.id = t.id
        · -- The record that is replaced is the only one with its id.
          have hvt : v = t := hs.eq_of_id hv ht hvid
          subst hvt
          exact ⟨u, (mem_replace_iff ts v.id u u).mpr (Or.inr ⟨rfl, v, hv, rfl⟩), hid, hlocator,
            hcreated, fun hinactive => absurd (hactive.symm.trans hinactive) Bool.noConfusion⟩
        · exact ⟨v, (mem_replace_iff ts t.id u v).mpr (Or.inl ⟨hv, hvid⟩), .refl v⟩

/-- Records keep having locators. -/
theorem Lives.located (h : ts.Lives us) (hts : ∀ t ∈ ts, Text.blankText t.storeLocator = false) :
    ∀ u ∈ us, Text.blankText u.storeLocator = false := by
  intro v hv
  cases h with
  | same => exact hts v hv
  -- A new record is stored with the locator that it was placed with.
  | born _ hlocated _ =>
      rcases List.mem_append.mp hv with hold | hnew
      · exact hts v hold
      · rw [List.mem_singleton.mp hnew]
        exact hlocated
  | @changed t u ht _ _ hlocator _ =>
      -- A change puts another record in the place of one, with the same locator.
      rcases (mem_replace_iff ts t.id u v).mp hv with ⟨hold, _⟩ | ⟨rfl, _⟩
      · exact hts v hold
      · rw [hlocator]
        exact hts t ht

/-! ### Writes -/

theorem lives_create {t : Tenant} (hc : ts.create t = .ok us) (hactive : t.isActive = true)
    (hlocated : Text.blankText t.storeLocator = false) : ts.Lives us := by
  rcases (create_eq_ok_iff ts us t).mp hc with ⟨_, hfresh, _, rfl⟩
  refine .born hactive hlocated fun hmem => ?_
  rcases List.mem_map.mp hmem with ⟨u, hu, hid⟩
  exact (byId?_eq_none_iff ts t.id).mp hfresh u hu hid

/-- An update that brings the locator of the record it replaces. -/
theorem lives_update {t : Tenant} (hs : ts.Sound) (hc : ts.update t = .ok us)
    (hlocator : ∃ u ∈ ts, u.id = t.id ∧ u.storeLocator = t.storeLocator) : ts.Lives us := by
  rcases (update_eq_ok_iff ts us t).mp hc with ⟨existing, hex, _, rfl⟩
  rcases mem_of_activeById? hex with ⟨hmem, hid, hactive⟩
  rcases hlocator with ⟨u, hu, huid, hulocator⟩
  -- The record with the locator and the one that is replaced have one id.
  have hu : u = existing := hs.eq_of_id hu hmem (huid.trans hid.symm)
  subst hu
  rw [← hid]
  exact .changed hmem hactive hid.symm hulocator.symm rfl

theorem lives_softDelete {id : String} {now : Timestamp} (hc : ts.softDelete id now = .ok us) :
    ts.Lives us := by
  rcases (softDelete_eq_ok_iff ts us id now).mp hc with ⟨existing, hex, rfl⟩
  rcases mem_of_byId? hex with ⟨hmem, hid⟩
  split
  · rename_i hactive
    rw [← hid]
    exact .changed hmem hactive rfl rfl rfl
  · -- It is deleted already, and stays as it is.
    exact .same

end Roster

/-! ### Steps -/

/-- What an operation under way knows about locators: a creation whose store is
    open, that its record has one; an update that has read a record, that it
    brings the same one. -/
def Stage.Informed (ts : Roster) : Stage → Prop
  | .prepared t _ | .migrated t _ =>
    t.isActive = true ∧ Text.blankText t.storeLocator = false
  | .read _ new => ∃ t ∈ ts, t.id = new.id ∧ t.storeLocator = new.storeLocator
  | _ => True

/-- What an operation knows stays true whatever others do. -/
theorem Roster.Continues.informed {ts us : Roster} (h : ts.Continues us) {stage : Stage}
    (hstage : stage.Informed ts) : stage.Informed us := by
  -- Three stages know something of the registry; what the others know is in their own hands.
  cases stage with
  | read previous new =>
      rcases hstage with ⟨t, ht, hid, hlocator⟩
      -- The record that was read is still there, changed perhaps, but with its id and locator.
      rcases h.persists t ht with ⟨u, hu, htu⟩
      exact ⟨u, hu, htu.id.trans hid, htu.storeLocator.trans hlocator⟩
  | prepared t handle => exact hstage
  | migrated t handle => exact hstage
  | begun _ => trivial
  | queued _ => trivial
  | entered _ => trivial
  | free _ => trivial
  | stored _ => trivial
  | written _ _ => trivial
  | known _ => trivial
  | marked _ => trivial
  | missed _ => trivial
  | answered _ _ => trivial
  | done _ => trivial
  | dropped => trivial

namespace Stage

/-- A step leads from some records to others and to a stage that is informed
    about these. -/
structure Leads (ts us : Roster) (after : Office × Stage) : Prop where
  keeps : after.1.env.registry.store.KeepsSound us
  lives : ts.Lives us
  informed : after.2.Informed us

variable {svc : Service} {o : Office} {ts : Roster}

/-- A step that does not write. -/
theorem Leads.of_registry (h : o.env.registry.store.KeepsSound ts) {after : Office × Stage}
    (hregistry : after.1.env.registry = o.env.registry) (hinformed : after.2.Informed ts) :
    Leads ts ts after :=
  ⟨by rwa [hregistry], .same, hinformed⟩

/-- The first step. -/
theorem leads_start (h : o.env.registry.store.KeepsSound ts) (task : Nat) (c : Call) :
    Leads ts ts (o.start task c) := by
  cases c with
  | create t =>
      rw [Office.start]
      cases t.check <;> exact .of_registry h rfl trivial
  | update id patch =>
      rw [Office.start]
      cases hid : o.activeById id with
      | error f => exact .of_registry h rfl trivial
      | ok t =>
          -- A patch has neither id nor locator.
          exact .of_registry h rfl ⟨t, (Office.mem_of_activeById h hid).1, rfl, rfl⟩
  | delete id =>
      rw [Office.start]
      cases o.env.registry.findById id <;> exact .of_registry h rfl trivial
  | resolve key =>
      rw [Office.start]
      rcases o.env.resolver.probe o.env.clock key with ⟨_ | outcome, resolver⟩ <;>
        exact .of_registry h rfl trivial

/-- The step at which a creation opens its store. -/
theorem leads_openFor (h : o.env.registry.store.KeepsSound ts) (task : Nat) {t : Tenant}
    (hactive : t.isActive = true) : Leads ts ts (o.openFor svc task t) := by
  rw [Office.openFor]
  split
  · exact .of_registry h rfl trivial
  · rename_i hlocated
    rw [Bool.not_eq_true] at hlocated
    simp only
    -- Opening touches the stores alone, and what is known of the record is passed on.
    rcases (o.did (.opening t.id t.storeLocator)).stores.provision svc.pool t.storeLocator with
      ⟨_ | handle, stores⟩
    · exact .of_registry h rfl trivial
    · exact .of_registry h rfl ⟨hactive, hlocated⟩

/-- The step at which a creation runs the migration. -/
theorem leads_migrate (h : o.env.registry.store.KeepsSound ts) (task : Nat) {t : Tenant}
    {handle : Nat} (hinformed : (Stage.prepared t handle).Informed ts) :
    Leads ts ts (o.migrate svc task t handle) := by
  rw [Office.migrate]
  cases svc.migration with
  | none => exact .of_registry h rfl hinformed
  | some run =>
      simp only
      -- Nor does the migration touch the registry, whether it succeeds or not.
      rcases run (o.did (.migrating t.id)).stores handle t with ⟨_ | _, stores⟩
      · exact .of_registry h rfl trivial
      · exact .of_registry h rfl hinformed

/-- The step at which a creation writes. -/
theorem leads_store (h : o.env.registry.store.KeepsSound ts) (task : Nat) {t : Tenant}
    {handle : Nat} (hinformed : (Stage.migrated t handle).Informed ts) :
    ∃ us, Leads ts us (o.store task t handle) := by
  rw [Office.store]
  simp only
  -- Either the record is the last one from now on, or nothing has changed.
  rcases Registry.create_of_keeps h t with ⟨us, hus, hok, hkeeps⟩ | ⟨f, _, herror⟩
  · rcases hcreate : o.env.registry.create t with ⟨result, registry⟩
    rw [hcreate] at hok hkeeps
    simp only at hok hkeeps
    subst hok
    exact ⟨us, hkeeps, Roster.lives_create hus hinformed.1 hinformed.2, trivial⟩
  · rw [herror]
    exact ⟨ts, .of_registry h rfl trivial⟩

/-- Every step of an operation that knows what it has to know does one of the
    three things to the records. -/
theorem lives_step (svc : Service) (h : o.env.registry.store.KeepsSound ts) (task : Nat)
    {stage : Stage} (hinformed : stage.Informed ts) :
    ∃ us, Leads ts us (stage.step svc o task) := by
  cases stage with
  | begun c => exact ⟨ts, leads_start h task c⟩
  | queued t =>
      rw [step]
      cases o.creating.grant? task <;> exact ⟨ts, .of_registry h rfl trivial⟩
  | entered t =>
      rw [step]
      cases o.env.registry.findById t.id with
      | ok u => exact ⟨ts, .of_registry h rfl trivial⟩
      | error f =>
          simp only
          split <;> exact ⟨ts, .of_registry h rfl trivial⟩
  | free t =>
      -- Whatever status the record came with, it is placed as an active one.
      have hactive : (o.place svc t).isActive = true := by
        rw [Tenant.isActive, Office.status_place, beq_self_eq_true]
      exact ⟨ts, leads_openFor h task hactive⟩
  | prepared t handle => exact ⟨ts, leads_migrate h task hinformed⟩
  | migrated t handle => exact leads_store h task hinformed
  | stored t => exact ⟨ts, .of_registry h (Office.registry_forget svc o t) trivial⟩
  | read previous new =>
      -- Whoever else has written since the record was read, its locator is still
      -- the same.
      rw [step]
      rcases Registry.update_of_keeps h new with ⟨us, hus, hok, hkeeps⟩ | ⟨f, _, herror⟩
      · rcases hupdate : o.env.registry.update new with ⟨result, registry⟩
        rw [hupdate] at hok hkeeps
        simp only at hok hkeeps
        subst hok
        exact ⟨us, hkeeps, Roster.lives_update h.2 hus hinformed, trivial⟩
      · rw [herror]
        exact ⟨ts, .of_registry h rfl trivial⟩
  | written previous new =>
      refine ⟨ts, .of_registry h ?_ trivial⟩
      exact (Office.registry_forget svc _ new).trans (Office.registry_forget svc o previous)
  | known t =>
      rw [step]
      rcases Registry.softDelete_of_keeps h t.id o.env.wall with
        ⟨us, hus, hok, hkeeps⟩ | ⟨f, _, herror⟩
      · rcases hdelete : o.env.registry.softDelete t.id o.env.wall with ⟨result, registry⟩
        rw [hdelete] at hok hkeeps
        simp only at hok hkeeps
        subst hok
        exact ⟨us, hkeeps, Roster.lives_softDelete hus, trivial⟩
      · rw [herror]
        exact ⟨ts, .of_registry h rfl trivial⟩
  | marked t => exact ⟨ts, .of_registry h (Office.registry_forget svc o t) trivial⟩
  | missed key => exact ⟨ts, h, .same, trivial⟩
  | answered key outcome => exact ⟨ts, .of_registry h rfl trivial⟩
  | done r => exact ⟨ts, .of_registry h rfl trivial⟩
  | dropped => exact ⟨ts, .of_registry h rfl trivial⟩

end Stage

/-! ### Histories -/

namespace Traffic

/-- The registry has some records, every one of them with a locator, and the
    operations under way know what they have to know. -/
structure Recorded (ts : Roster) (w : Traffic) : Prop where
  keeps : w.office.env.registry.store.KeepsSound ts
  located : ∀ t ∈ ts, Text.blankText t.storeLocator = false
  informed : ∀ (n : Nat) (stage : Stage), w.stages[n]? = some stage → stage.Informed ts

namespace Recorded

variable {svc : Service} {ts : Roster} {w : Traffic}

/-- One operation does something. -/
theorem act (h : Recorded ts w) {n : Nat} {f : Office → Nat → Stage → Office × Stage}
    (hf : ∀ stage, w.stages[n]? = some stage → ∃ us, Stage.Leads ts us (f w.office n stage)) :
    ∃ us, ts.Lives us ∧ Recorded us (w.act n f) := by
  cases hn : w.stages[n]? with
  | none =>
      rw [act_of_none hn]
      exact ⟨ts, .same, h⟩
  | some stage =>
      -- What the operation does is one of the three things, and the office after it keeps a roster
      -- with it.
      rcases hf stage hn with ⟨us, hkeeps, hlives, hinformed⟩
      refine ⟨us, hlives, ?_, hlives.located h.located, fun k stage' hk => ?_⟩
      · rw [office_act hn]
        exact hkeeps
      · by_cases hkn : k = n
        · subst hkn
          rw [getElem?_act_self hn, Option.some.injEq] at hk
          rw [← hk]
          exact hinformed
        · -- The others have not moved, and what they know is still true.
          rw [getElem?_act_of_ne hkn] at hk
          exact (hlives.continues h.keeps.2).informed (h.informed k stage' hk)

/-- An event does one of the three things to the records, and keeps the
    invariant. -/
theorem next (svc : Service) (h : Recorded ts w) (e : TrafficEvent) :
    ∃ us, ts.Lives us ∧ Recorded us (w.next svc e) := by
  cases e with
  | start c =>
      refine ⟨ts, .same, h.keeps, h.located, fun n stage hn => ?_⟩
      have hstages : (w.next svc (.start c)).stages = w.stages ++ [.begun c] := rfl
      rcases getElem?_start hstages hn with hold | rfl
      · exact h.informed n stage hold
      · -- Who has just begun has to know nothing.
        trivial
  | step n =>
      rw [next_step]
      exact h.act fun stage hn => Stage.lives_step svc h.keeps n (h.informed n stage hn)
  | cancel n =>
      rw [next_cancel]
      refine h.act fun stage hn => ⟨ts, ?_⟩
      -- Who is dropped knows nothing more, and has given up a lock at most.
      cases stage with
      | done r => exact .of_registry h.keeps rfl trivial
      | _ => exact .of_registry h.keeps rfl trivial
  | pass elapsed wall => exact ⟨ts, .same, h.keeps, h.located, h.informed⟩

/-- Every history continues the records. -/
theorem run (svc : Service) (h : Recorded ts w) (history : List TrafficEvent) :
    ∃ us, ts.Continues us ∧ Recorded us (w.run svc history) := by
  induction history generalizing ts w with
  | nil => exact ⟨ts, .refl ts, h⟩
  | cons e rest ih =>
      rcases h.next svc e with ⟨us, hlives, hnext⟩
      rcases ih hnext with ⟨vs, hcontinues, hrun⟩
      exact ⟨vs, (hlives.continues h.keeps.2).trans hcontinues, hrun⟩

end Recorded

end Traffic

/-! ### Deleted records -/

namespace Office

variable {o : Office} {ts : Roster} {t : Tenant}

/-- There is no deleted record to update. -/
theorem run_update_inactive (h : o.env.registry.Serves ts) (ht : t ∈ ts)
    (hinactive : t.isActive = false) (svc : Service) (patch : Patch) :
    o.run svc (.update t.id patch) = (o, some (.record (.error (.unknownTenant t.id)))) := by
  have hid := (h.findById_eq_ok_iff t.id t).mpr ⟨ht, rfl⟩
  have hstep : (Stage.begun (.update t.id patch)).step svc o o.freshTask =
      (o, .done (.record (.error (.unknownTenant t.id)))) := by
    simp only [Stage.step, start, activeById, hid, hinactive, Bool.false_eq_true, if_false]
  rw [run, maxSteps, runSteps_succ, hstep, runSteps_done]
  rfl

/-- To delete a deleted record is fine, and makes the resolver forget its keys
    again. -/
theorem run_delete_inactive (h : o.env.registry.Serves ts) (ht : t ∈ ts)
    (hinactive : t.isActive = false) (svc : Service) :
    o.run svc (.delete t.id) = (o.forget svc t, some (.deleted (.ok ()))) := by
  -- Deleted records are found by their id, so the call goes all the way.
  have hid := (h.findById_eq_ok_iff t.id t).mpr ⟨ht, rfl⟩
  have hbegun : (Stage.begun (.delete t.id)).step svc o o.freshTask = (o, .known t) := by
    simp only [Stage.step, start, hid]
  have hknown : (Stage.known t).step svc o o.freshTask = (o, .marked t) := by
    simp only [Stage.step, Registry.softDelete_inactive h.keeps ht hinactive]
  have hmarked : (Stage.marked t).step svc o o.freshTask =
      (o.forget svc t, .done (.deleted (.ok ()))) := rfl
  rw [run, maxSteps, runSteps_succ, hbegun, runSteps_succ, hknown, runSteps_succ, hmarked,
    runSteps_done]
  rfl

end Office

namespace Office

/-- The office amid operations that were started there and have come some way. -/
def amid (svc : Service) (o : Office) (history : List TrafficEvent) : Office :=
  (({ office := o } : Traffic).run svc history).office

/-- The life of a record, for any operations on a registry without tenants at
    first, at two moments of any history. The ids of the first moment are the
    first ids of the second one, in the same order, and no id occurs twice.
    Every record of the first moment is at the second one a record with the
    same id, the same locator and the same time of creation; a deleted one is
    the same record. Every record has a locator.

    One event after the first moment leaves the records as they are, adds an
    active one with a new id, or replaces an active one.

    At the second moment, who updates a record that was deleted at the first one
    is told that there is no such tenant, and who deletes it succeeds and
    changes nothing but what the resolver remembers, as long as the registry can
    be read at all. -/
theorem lifecycle (svc : Service) (o : Office) (hnew : o.env.registry.store.IsNew)
    (before later : List TrafficEvent) :
    ∃ ts us : Roster,
      (o.amid svc before).env.registry.store.listAll = .ok ts ∧
      (o.amid svc (before ++ later)).env.registry.store.listAll = .ok us ∧
      ts.Continues us ∧ (us.map Tenant.id).Nodup ∧
      (∀ u ∈ us, Text.blankText u.storeLocator = false) ∧
      (∀ e, ∃ vs, (o.amid svc (before ++ [e])).env.registry.store.listAll = .ok vs ∧
        ts.Lives vs) ∧
      ∀ t ∈ ts, t.isActive = false →
        (o.amid svc (before ++ later)).env.registry.offline = false →
        (∀ patch, (o.amid svc (before ++ later)).run svc (.update t.id patch) =
          (o.amid svc (before ++ later), some (.record (.error (.unknownTenant t.id))))) ∧
        (o.amid svc (before ++ later)).run svc (.delete t.id) =
          ((o.amid svc (before ++ later)).forget svc t, some (.deleted (.ok ()))) := by
  have hfirst : Traffic.Recorded [] { office := o } :=
    ⟨hnew.keepsSound, fun t ht => absurd ht List.not_mem_nil,
      fun n stage hn => absurd hn (by simp only [List.getElem?_nil, reduceCtorEq,
        not_false_eq_true])⟩
  have hlist : ∀ {w : Traffic} {vs : Roster}, Traffic.Recorded vs w →
      w.office.env.registry.store.listAll = .ok vs :=
    fun hvs => Store.keeps_simulates.listAll hvs.keeps
  -- The second moment is a history after the first one.
  rcases hfirst.run svc before with ⟨ts, _, hts⟩
  rcases hts.run svc later with ⟨us, hcontinues, hus⟩
  rw [← Traffic.run_append] at hus
  refine ⟨ts, us, hlist hts, hlist hus, hcontinues, hus.keeps.2.ids, hus.located, fun e => ?_,
    fun t ht hinactive honline => ?_⟩
  · rcases hts.next svc e with ⟨vs, hlives, hvs⟩
    rw [← Traffic.run_concat] at hvs
    exact ⟨vs, hlist hvs, hlives⟩
  · -- A deleted record is the same record later.
    rcases hcontinues.persists t ht with ⟨u, hu, hpersists⟩
    rw [hpersists.inactive hinactive] at hu
    have hserves : (o.amid svc (before ++ later)).env.registry.Serves us := ⟨hus.keeps, honline⟩
    exact ⟨run_update_inactive hserves hu hinactive svc,
      run_delete_inactive hserves hu hinactive svc⟩

/-- A tenant is created and deleted. -/
def shortLife : List TrafficEvent :=
  .start (.create (Tenant.new "acme" "Acme" ⟨0, 0⟩)) :: List.replicate 7 (.step 0) ++
    .start (.delete "acme") :: List.replicate 3 (.step 1)

/-- Then it is created once more. -/
def secondBirth : List TrafficEvent :=
  .start (.create (Tenant.new "acme" "Acme" ⟨0, 0⟩)) :: List.replicate 7 (.step 2)

/-- The record that is left. -/
def leftRecord : Tenant :=
  { Tenant.new "acme" "Acme" ⟨0, 0⟩ with storeLocator := "sqlite::memory:", status := .deleted }

/-- There is no second birth: the record of the deleted tenant is the only one,
    before and after, and it cannot be updated. -/
theorem lifecycle_short :
    newOffice.env.registry.store.IsNew ∧
      (newOffice.amid memoryService shortLife).env.registry.store.listAll = .ok [leftRecord] ∧
      (newOffice.amid memoryService (shortLife ++ secondBirth)).env.registry.store.listAll =
        .ok [leftRecord] ∧
      ((newOffice.amid memoryService (shortLife ++ secondBirth)).run memoryService
        (.update "acme" { name := some "Acme Corp" })).2 =
          some (.record (.error (.unknownTenant "acme"))) := by
  have hnew : newOffice.env.registry.store.IsNew := Or.inl rfl
  have hbefore : (newOffice.amid memoryService shortLife).env.registry.store.listAll =
      .ok [leftRecord] := by decide +kernel
  have hafter : (newOffice.amid memoryService
      (shortLife ++ secondBirth)).env.registry.store.listAll = .ok [leftRecord] ∧
      (newOffice.amid memoryService (shortLife ++ secondBirth)).env.registry.offline = false := by
    decide +kernel
  rcases lifecycle memoryService newOffice hnew shortLife secondBirth with
    ⟨ts, us, hts, _, _, _, _, _, hdeleted⟩
  -- The one record before is the deleted one, and the theorem is about its updates.
  rw [hbefore, Except.ok.injEq] at hts
  have hleft : leftRecord ∈ ts := hts ▸ List.mem_singleton_self _
  have hupdate := (hdeleted leftRecord hleft rfl hafter.2).1 { name := some "Acme Corp" }
  exact ⟨hnew, hbefore, hafter.1, congrArg Prod.snd hupdate⟩

end Office

end Multitenancy
