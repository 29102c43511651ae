import Multitenancy.Proofs.Outcome
import Multitenancy.Proofs.Text.Assoc
import Multitenancy.Storage.Stores
/-!
# A Prepared Store

What provisioning a store leaves in it.

The tables of a store are kept in one of two places, in a file or with the
handle, and a handle is led to them by its target. `tables_writeTables` says
that whatever is written through an open handle is read back through it,
wherever it is kept; nothing after that asks where. Preparing a store is two
writes of this kind, the second of which records the first version. So a store
that was provisioned has the version, be it one that was just made or one that
had been there.

## Theorems

* `FileSystem.at?_put`: What was put somewhere is there.
* `Stores.tables_writeTables`: What was written is read back.
* `Stores.migrations_recordMigration`: A recorded version is recorded.
* `Stores.provision_eq_ok`: What was done when a store was provisioned.
* `Stores.bootstrapped_of_provision`: A provisioned store has the first
  version.
-/

namespace Multitenancy

theorem Text.mem_sorted_iff (texts : List String) (text : String) :
    text ∈ Text.sorted texts ↔ text ∈ texts :=
  (List.mergeSort_perm texts Text.notAfter).mem_iff

/-- What was put somewhere is there. Nothing can be put in the place of the
    working directory. -/
theorem FileSystem.at?_put {fs : FileSystem} {location : Location} (hne : location ≠ [])
    (node : FileNode) : (fs.put location node).at? location = some node := by
  cases location with
  | nil => exact absurd rfl hne
  | cons name rest =>
      rw [put, at?, Assoc.get?_insert, if_pos (beq_self_eq_true _)]
      exact fun hnil => absurd hnil hne

namespace Stores

variable {s after : Stores} {id : Nat} {h : Handle} {d : Database}

theorem live_eq_ok_iff : s.live id = .ok h ↔ s.handles[id]? = some h ∧ h.closed = false := by
  rw [live]
  cases s.handles[id]? with
  | none => simp only [reduceCtorEq, false_and]
  | some g =>
      dsimp only
      -- A closed handle is still listed, but it is not live.
      by_cases hclosed : g.closed = true
      · rw [if_pos hclosed, Option.some.injEq]
        refine iff_of_false (by simp only [reduceCtorEq, not_false_eq_true]) ?_
        rintro ⟨rfl, hopen⟩
        rw [hclosed] at hopen
        exact absurd hopen (Ne.symm Bool.false_ne_true)
      · rw [if_neg hclosed, Except.ok.injEq, Option.some.injEq]
        refine ⟨?_, And.left⟩
        rintro rfl
        exact ⟨rfl, by rwa [Bool.not_eq_true] at hclosed⟩

/-- A file that holds tables is not in the place of the working directory. -/
theorem location_ne_nil {location : Location} (hfile : h.target = .file location)
    (htables : s.tables h = .ok d) : location ≠ [] := by
  rintro rfl
  rw [tables, hfile] at htables
  exact absurd htables (by simp only [FileSystem.at?, reduceCtorEq, not_false_eq_true])

/-- What was written through an open handle is read back through it. -/
theorem tables_writeTables (hlive : s.live id = .ok h) (htables : s.tables h = .ok d)
    (d' : Database) : ∃ h', (s.writeTables id h d').live id = .ok h' ∧
      (s.writeTables id h d').tables h' = .ok d' := by
  rcases live_eq_ok_iff.mp hlive with ⟨hid, hopen⟩
  have hlt : id < s.handles.length := (List.getElem?_eq_some_iff.mp hid).1
  rw [writeTables]
  cases htarget : h.target with
  | apart d₀ =>
      -- The tables go where the handle is, so it is another handle afterwards.
      refine ⟨{ h with target := .apart d' }, live_eq_ok_iff.mpr ⟨?_, hopen⟩, rfl⟩
      exact List.getElem?_set_self hlt
  | file location =>
      refine ⟨h, live_eq_ok_iff.mpr ⟨hid, hopen⟩, ?_⟩
      rw [tables, htarget]
      simp only [FileSystem.at?_put (location_ne_nil htarget htables)]

theorem mem_migrations {version : String} {versions : List String} (hlive : s.live id = .ok h)
    (htables : s.tables h = .ok d) (hversions : d.migrations = some versions)
    (hmem : version ∈ versions) :
    ∃ recorded, s.migrations id = .ok recorded ∧ version ∈ recorded := by
  refine ⟨Text.sorted versions, ?_, (Text.mem_sorted_iff versions version).mpr hmem⟩
  simp only [migrations, hlive, htables, hversions, bind, Except.bind, pure, Except.pure]

/-- A version that was recorded, or had been, is among the recorded ones. -/
theorem migrations_recordMigration {version : String} {isNew : Bool}
    (hrecord : s.recordMigration id version = .ok (isNew, after)) :
    ∃ recorded, after.migrations id = .ok recorded ∧ version ∈ recorded := by
  rw [recordMigration, bind_eq_ok_iff] at hrecord
  rcases hrecord with ⟨h, hlive, hrecord⟩
  rcases bind_eq_ok_iff.mp hrecord with ⟨d, htables, hwrite⟩
  cases hversions : d.migrations with
  | none =>
      rw [hversions] at hwrite
      exact absurd hwrite (by simp only [reduceCtorEq, not_false_eq_true])
  | some versions =>
      rw [hversions] at hwrite
      by_cases hread : h.readOnly = true
      · simp only [hread, if_true, bind, Except.bind, reduceCtorEq] at hwrite
      simp only [hread, Bool.false_eq_true, if_false] at hwrite
      -- A version that had been recorded is not recorded again.
      by_cases hold : versions.contains version = true
      · simp only [hold, if_true, pure, Except.pure, Except.ok.injEq, Prod.mk.injEq] at hwrite
        rw [← hwrite.2]
        exact mem_migrations hlive htables hversions (List.contains_iff_mem.mp hold)
      · simp only [hold, Bool.false_eq_true, if_false, pure, Except.pure, Except.ok.injEq,
          Prod.mk.injEq] at hwrite
        rcases tables_writeTables hlive htables
          { d with migrations := some (versions ++ [version]) } with ⟨h', hlive', htables'⟩
        rw [← hwrite.2]
        exact mem_migrations hlive' htables' rfl (List.mem_append_right _ List.mem_cons_self)

/-- The last thing that preparing a store does is to record the first
    version. -/
theorem migrations_prepare (hprepare : s.prepare id = .ok after) :
    ∃ recorded, after.migrations id = .ok recorded ∧ bootstrapVersion ∈ recorded := by
  rcases bind_eq_ok_iff.mp hprepare with ⟨_, _, hlast⟩
  rcases bind_eq_ok_iff.mp hlast with ⟨⟨_, recorded⟩, hrecord, hsame⟩
  rw [← Except.ok.inj hsame]
  exact migrations_recordMigration hrecord

/-- A store that was provisioned was opened, answered, and was prepared. -/
theorem provision_eq_ok {pool : PoolSettings} {locator : String}
    (hprovision : s.provision pool locator = (.ok id, after)) :
    ∃ opened, s.openStore pool locator true = (.ok id, opened) ∧ opened.health id = none ∧
      opened.prepare id = .ok after := by
  rw [provision] at hprovision
  -- Each of the three calls may fail, and then there is no id.
  rcases hopen : s.openStore pool locator true with ⟨result, opened⟩
  rw [hopen] at hprovision
  cases result with
  | error f =>
      exact absurd (Prod.mk.inj hprovision).1 (by simp only [reduceCtorEq, not_false_eq_true])
  | ok handle =>
      simp only at hprovision
      cases hhealth : opened.health handle with
      | some f =>
          rw [hhealth] at hprovision
          exact absurd (Prod.mk.inj hprovision).1 (by simp only [reduceCtorEq, not_false_eq_true])
      | none =>
          rw [hhealth] at hprovision
          cases hprepare : opened.prepare handle with
          | error f =>
              rw [hprepare] at hprovision
              exact absurd (Prod.mk.inj hprovision).1
                (by simp only [reduceCtorEq, not_false_eq_true])
          | ok prepared =>
              rw [hprepare, Prod.mk.injEq, Except.ok.injEq] at hprovision
              rcases hprovision with ⟨rfl, rfl⟩
              exact ⟨opened, rfl, hhealth, hprepare⟩

/-- A store that was provisioned has the first version recorded. -/
theorem bootstrapped_of_provision {pool : PoolSettings} {locator : String}
    (hprovision : s.provision pool locator = (.ok id, after)) :
    ∃ recorded, after.migrations id = .ok recorded ∧ bootstrapVersion ∈ recorded := by
  rcases provision_eq_ok hprovision with ⟨_, _, _, hprepare⟩
  exact migrations_prepare hprepare

end Stores

end Multitenancy
