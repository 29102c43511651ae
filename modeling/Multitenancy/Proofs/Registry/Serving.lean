import Multitenancy.Proofs.Registry.History
/-!
# A Registry at Work

A registry as the operations on tenants meet it: a store behind a switch.

While reads are switched on, every answer is that of the roster which the
store keeps. With or without them every write leads from a roster to the next
one or is refused and changes nothing. An operation can then be followed on
the roster, and which kind of store there is does not come up again.

## Main definitions

* `Registry.Serves`: A registry keeps a roster and can be read.

## Theorems

* `Registry.create_of_keeps`, `Registry.update_of_keeps`,
  `Registry.softDelete_of_keeps`: A write succeeds as on the roster, or changes
  nothing.
* `Registry.softDelete_inactive`: Deleting a tenant again changes nothing.
* `Serves.find_eq`, `Serves.findById_eq`: The answers are those of the roster.
* `Registry.mem_of_findById`: What is read is there.
* `Serves.update`, `Serves.softDelete`: Writes, while reads are switched on.
-/

namespace Multitenancy

namespace Registry

/-! ### Writes -/

section Keeps

variable {r : Registry} {ts : Roster}

/-- A write that agrees with one on the roster. -/
theorem wrote_of_agree {x : Except Fault Store} {y : Except Fault Roster}
    (hagree : Agree Store.KeepsSound x y) :
    (∃ us, y = .ok us ∧ (r.wrote x).1 = .ok () ∧ (r.wrote x).2.store.KeepsSound us) ∨
      ∃ f, y = .error f ∧ r.wrote x = (.error f, r) := by
  -- The roster decides how the write ends; a write that fails leaves the registry as it was.
  cases hy : y with
  | ok us =>
      rcases hagree.ok_right hy with ⟨store, rfl, hkeeps⟩
      exact Or.inl ⟨us, rfl, rfl, hkeeps⟩
  | error f =>
      rw [hagree.error_right hy]
      exact Or.inr ⟨f, rfl, rfl⟩

theorem create_of_keeps (h : r.store.KeepsSound ts) (t : Tenant) :
    (∃ us, ts.create t = .ok us ∧ (r.create t).1 = .ok () ∧
        (r.create t).2.store.KeepsSound us) ∨
      ∃ f, ts.create t = .error f ∧ r.create t = (.error f, r) :=
  wrote_of_agree (Store.keeps_simulates.create h t)

theorem update_of_keeps (h : r.store.KeepsSound ts) (t : Tenant) :
    (∃ us, ts.update t = .ok us ∧ (r.update t).1 = .ok () ∧
        (r.update t).2.store.KeepsSound us) ∨
      ∃ f, ts.update t = .error f ∧ r.update t = (.error f, r) :=
  wrote_of_agree (Store.keeps_simulates.update h t)

theorem softDelete_of_keeps (h : r.store.KeepsSound ts) (id : String) (now : Timestamp) :
    (∃ us, ts.softDelete id now = .ok us ∧ (r.softDelete id now).1 = .ok () ∧
        (r.softDelete id now).2.store.KeepsSound us) ∨
      ∃ f, ts.softDelete id now = .error f ∧ r.softDelete id now = (.error f, r) :=
  wrote_of_agree (Store.keeps_simulates.softDelete h id now)

/-- Deleting a deleted tenant again succeeds and changes nothing. -/
theorem softDelete_inactive (h : r.store.KeepsSound ts) {t : Tenant} (ht : t ∈ ts)
    (hinactive : t.isActive = false) (now : Timestamp) :
    r.softDelete t.id now = (.ok (), r) := by
  have hid : ts.byId? t.id = some t := (h.2.byId?_eq_some_iff t.id t).mpr ⟨ht, rfl⟩
  -- Both kinds of store look the record up, see that it is deleted, and write nothing.
  have hstore : r.store.softDelete t.id now = .ok r.store := by
    rcases h with ⟨hkeeps, _⟩
    cases hr : r.store with
    | indexed maps =>
        rw [hr] at hkeeps
        rw [Store.softDelete, Indexed.softDelete, hkeeps.byId, hid]
        simp only [hinactive, Bool.false_eq_true, if_false, Except.map]
    | table rows =>
        rw [hr] at hkeeps
        rw [Store.softDelete, Table.softDelete, Table.ensureOpen_eq hkeeps,
          Table.ensureWritable_eq hkeeps, Table.rowById?_eq hkeeps, hid]
        simp only [bind, Except.bind, Option.map_some, TenantRow.ofTenant_isActive, hinactive,
          Bool.false_eq_true, if_false, pure, Except.pure, Except.map]
  rw [Registry.softDelete, hstore]
  rfl

end Keeps

/-! ### Reads -/

/-- A registry keeps a sound roster, and reads are switched on. -/
structure Serves (r : Registry) (ts : Roster) : Prop where
  keeps : r.store.KeepsSound ts
  online : r.offline = false

namespace Serves

variable {r : Registry} {ts : Roster}

theorem find_eq (h : r.Serves ts) (key : String) : (r.find key).1 = ts.find key := by
  have hstore : r.store.find key = ts.find key := Store.keeps_simulates.find h.keeps key
  rw [find, guarded, h.online, hstore]
  rfl

theorem findById_eq (h : r.Serves ts) (id : String) : r.findById id = ts.findById id := by
  have hstore : r.store.findById id = ts.findById id :=
    Store.keeps_simulates.findById h.keeps id
  rw [findById, guarded, h.online, hstore]
  rfl

theorem findById_eq_ok_iff (h : r.Serves ts) (id : String) (t : Tenant) :
    r.findById id = .ok t ↔ t ∈ ts ∧ t.id = id := by
  rw [h.findById_eq, ← h.keeps.2.byId?_eq_some_iff, Roster.findById]
  cases ts.byId? id with
  | none => simp only [reduceCtorEq]
  | some u => simp only [Except.ok.injEq, Option.some.injEq]

/-- A look-up is counted, and nothing else. -/
theorem find_snd (h : r.Serves ts) (key : String) : (r.find key).2.Serves ts :=
  ⟨h.keeps, h.online⟩

/-- A write that agrees with one on the roster. -/
theorem wrote (h : r.Serves ts) {x : Except Fault Store} {y : Except Fault Roster}
    (hagree : Agree Store.KeepsSound x y) :
    (∃ us, y = .ok us ∧ (r.wrote x).1 = .ok () ∧ (r.wrote x).2.Serves us) ∨
      ∃ f, y = .error f ∧ r.wrote x = (.error f, r) := by
  -- A write does not turn the switch.
  have honline : (r.wrote x).2.offline = false := by
    cases x <;> exact h.online
  rcases wrote_of_agree hagree with ⟨us, hus, hok, hkeeps⟩ | hrefused
  · exact Or.inl ⟨us, hus, hok, hkeeps, honline⟩
  · exact Or.inr hrefused

theorem update (h : r.Serves ts) (t : Tenant) :
    (∃ us, ts.update t = .ok us ∧ (r.update t).1 = .ok () ∧ (r.update t).2.Serves us) ∨
      ∃ f, ts.update t = .error f ∧ r.update t = (.error f, r) :=
  h.wrote (Store.keeps_simulates.update h.keeps t)

theorem softDelete (h : r.Serves ts) (id : String) (now : Timestamp) :
    (∃ us, ts.softDelete id now = .ok us ∧ (r.softDelete id now).1 = .ok () ∧
        (r.softDelete id now).2.Serves us) ∨
      ∃ f, ts.softDelete id now = .error f ∧ r.softDelete id now = (.error f, r) :=
  h.wrote (Store.keeps_simulates.softDelete h.keeps id now)

end Serves

/-- What is read by id is there, whether or not everything that is there can be
    read. -/
theorem mem_of_findById {r : Registry} {ts : Roster} (h : r.store.KeepsSound ts) {id : String}
    {t : Tenant} (hid : r.findById id = .ok t) : t ∈ ts ∧ t.id = id := by
  cases honline : r.offline with
  | true =>
      rw [findById, guarded, if_pos honline] at hid
      exact absurd hid (by simp only [reduceCtorEq, not_false_eq_true])
  | false => exact (Serves.findById_eq_ok_iff ⟨h, honline⟩ id t).mp hid

end Registry

end Multitenancy
