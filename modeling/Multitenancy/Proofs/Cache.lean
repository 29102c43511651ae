import Multitenancy.Cache
/-!
# The Entries of a Cache

Which entries an operation on a cache leaves behind.

A read and a write leave no entries but those that were there and, for a
write, the one that is written; what is displaced or dropped on the way does
not matter to anybody who asks whether all entries are right. A removal keeps
exactly the entries that it is not about.

## Theorems

* `get_of_find?_eq_none`, `get_of_stale`, `get_of_live`: How a read ends.
* `set_of_disabled`, `set_of_find?_eq_some`, `set_of_room`, `set_of_full`: How a
  write ends.
* `mem_of_mem_get`, `live_of_get_eq_some`: A read keeps and returns what is
  there.
* `get_of_contains`: A read returns what a look reports.
* `get_get_of_none`: What is not found is not found again.
* `mem_or_eq_of_mem_set`: A write adds one entry at most.
* `mem_deleteMatching_iff`: A removal keeps the others.
* `lifetime_get`, `lifetime_set`, `isEnabled_of_get`: Whether anything is kept
  is settled once and for all.
* `get_set_self`: What is written can be read at once.
-/

namespace Multitenancy

namespace Cache

variable {α : Type}

theorem mem_of_find? {c : Cache α} {key : String} {e : CacheEntry α} (h : c.find? key = some e) :
    e ∈ c.entries ∧ e.key = key := by
  unfold find? at h
  have hkey := List.find?_some h
  rw [beq_iff_eq] at hkey
  exact ⟨List.mem_of_find?_eq_some h, hkey⟩

theorem mem_without_iff (c : Cache α) (key : String) (e : CacheEntry α) :
    e ∈ c.without key ↔ e ∈ c.entries ∧ e.key ≠ key := by
  unfold without
  rw [List.mem_filter]
  simp only [Bool.not_eq_true', beq_eq_false_iff_ne, ne_eq]

/-- A key without an entry stands in no entry. -/
theorem without_of_find?_eq_none {c : Cache α} {key : String} (h : c.find? key = none) :
    c.without key = c.entries := by
  rw [find?, List.find?_eq_none] at h
  rw [without, List.filter_eq_self]
  intro e he
  rw [Bool.not_eq_true', ← Bool.not_eq_true]
  exact h e he

/-! ### The three ways in which a read ends -/

theorem get_of_find?_eq_none {c : Cache α} {key : String} (h : c.find? key = none) (now : Nat) :
    c.get now key =
      (none, { c with stats := { c.stats with misses := c.stats.misses + 1 } }) := by
  rw [get, h]

theorem get_of_stale {c : Cache α} {now : Nat} {key : String} {e : CacheEntry α}
    (h : c.find? key = some e) (hstale : c.isStale now e = true) :
    c.get now key =
      (none, { c with
        entries := c.without key
        stats := { c.stats with
          misses := c.stats.misses + 1
          expirations := c.stats.expirations + 1 } }) := by
  rw [get, h]
  simp only [hstale, if_true]

theorem get_of_live {c : Cache α} {now : Nat} {key : String} {e : CacheEntry α}
    (h : c.find? key = some e) (hlive : c.isStale now e = false) :
    c.get now key =
      (some e.value, { c with
        entries := e :: c.without key
        stats := { c.stats with hits := c.stats.hits + 1 } }) := by
  rw [get, h]
  simp only [hlive, Bool.false_eq_true, if_false]

/-- A read returns the value of the entry of its key, if that is live. -/
theorem value_get_eq_some_iff (c : Cache α) (now : Nat) (key : String) (value : α) :
    (c.get now key).1 = some value ↔
      ∃ e, c.find? key = some e ∧ c.isStale now e = false ∧ e.value = value := by
  -- A read branches twice: on whether there is an entry, and on whether it is stale.
  cases hfind : c.find? key with
  | none =>
      rw [get_of_find?_eq_none hfind]
      simp only [reduceCtorEq, false_and, exists_false]
  | some e =>
      cases hstale : c.isStale now e with
      | true =>
          rw [get_of_stale hfind hstale]
          simp only [Option.some.injEq, exists_eq_left', hstale, reduceCtorEq, false_and]
      | false =>
          rw [get_of_live hfind hstale]
          simp only [Option.some.injEq, exists_eq_left', hstale, true_and]

/-! ### The four ways in which a write ends -/

theorem set_of_disabled {c : Cache α} (h : c.isEnabled = false) (now : Nat) (key : String)
    (value : α) : c.set now key value = c := by
  rw [set, h, if_neg Bool.false_ne_true]

theorem set_of_find?_eq_some {c : Cache α} (henabled : c.isEnabled = true) {key : String}
    {e : CacheEntry α} (h : c.find? key = some e) (now : Nat) (value : α) :
    c.set now key value =
      { c with entries := { key, value, stored := now } :: c.without key } := by
  rw [set, if_pos henabled, h]
  rfl

theorem set_of_room {c : Cache α} (henabled : c.isEnabled = true) {key : String}
    (h : c.find? key = none) (hroom : c.entries.length < c.capacity) (now : Nat) (value : α) :
    c.set now key value = { c with entries := { key, value, stored := now } :: c.entries } := by
  rw [set, if_pos henabled, h]
  simp only [Option.isSome_none, Bool.false_eq_true, if_false, hroom, if_true]

theorem set_of_full {c : Cache α} (henabled : c.isEnabled = true) {key : String}
    (h : c.find? key = none) (hfull : ¬c.entries.length < c.capacity) (now : Nat) (value : α) :
    c.set now key value =
      { c with
        entries := { key, value, stored := now } :: c.entries.dropLast
        stats := { c.stats with evictions := c.stats.evictions + 1 } } := by
  rw [set, if_pos henabled, h]
  simp only [Option.isSome_none, Bool.false_eq_true, if_false, hfull]

/-! ### What reads and writes leave behind -/

/-- A read leaves only entries that were there. -/
theorem mem_of_mem_get {c : Cache α} {now : Nat} {key : String} {e : CacheEntry α}
    (h : e ∈ (c.get now key).2.entries) : e ∈ c.entries := by
  cases hfind : c.find? key with
  | none =>
      rw [get_of_find?_eq_none hfind] at h
      exact h
  | some found =>
      -- An expired entry is dropped, a live one goes to the front.
      cases hstale : c.isStale now found with
      | true =>
          rw [get_of_stale hfind hstale] at h
          exact ((c.mem_without_iff key e).mp h).1
      | false =>
          rw [get_of_live hfind hstale] at h
          rcases List.mem_cons.mp h with rfl | hrest
          · exact (mem_of_find? hfind).1
          · exact ((c.mem_without_iff key e).mp hrest).1

/-- What a read returns is the value of a live entry with that key. -/
theorem live_of_get_eq_some {c : Cache α} {now : Nat} {key : String} {value : α}
    (h : (c.get now key).1 = some value) :
    ∃ e ∈ c.entries, e.key = key ∧ e.value = value ∧ c.isStale now e = false := by
  rcases (c.value_get_eq_some_iff now key value).mp h with ⟨e, hfind, hlive, hvalue⟩
  rcases mem_of_find? hfind with ⟨hmem, hkey⟩
  exact ⟨e, hmem, hkey, hvalue, hlive⟩

theorem mem_of_get_eq_some {c : Cache α} {now : Nat} {key : String} {value : α}
    (h : (c.get now key).1 = some value) : ∃ e ∈ c.entries, e.key = key ∧ e.value = value := by
  rcases live_of_get_eq_some h with ⟨e, he, hkey, hvalue, _⟩
  exact ⟨e, he, hkey, hvalue⟩

/-- A write leaves only entries that were there, and the one it writes. -/
theorem mem_or_eq_of_mem_set {c : Cache α} {now : Nat} {key : String} {value : α}
    {e : CacheEntry α} (h : e ∈ (c.set now key value).entries) :
    e ∈ c.entries ∨ e = { key, value, stored := now } := by
  unfold set at h
  split at h
  · split at h
    · -- The key is there: its entry is taken out and the new one comes first.
      rcases List.mem_cons.mp h with hnew | hrest
      · exact Or.inr hnew
      · exact Or.inl ((c.mem_without_iff key e).mp hrest).1
    · -- The key is new: room may have to be made.
      split at h
      · exact (List.mem_cons.mp h).symm
      · -- The last entry may have been displaced.
        rcases List.mem_cons.mp h with hnew | hrest
        · exact Or.inr hnew
        · exact Or.inl (List.dropLast_subset _ hrest)
  · exact Or.inl h

theorem mem_of_mem_set {c : Cache α} {now : Nat} {key : String} {value : α} {e : CacheEntry α}
    (h : e ∈ (c.set now key value).entries) :
    e ∈ c.entries ∨ (e.key = key ∧ e.value = value) := by
  rcases mem_or_eq_of_mem_set h with hold | rfl
  · exact Or.inl hold
  · exact Or.inr ⟨rfl, rfl⟩

theorem mem_deleteMatching_iff (c : Cache α) (doomed : String → Bool) (e : CacheEntry α) :
    e ∈ (c.deleteMatching doomed).2.entries ↔ e ∈ c.entries ∧ doomed e.key = false := by
  unfold deleteMatching
  rw [List.mem_filter, Bool.not_eq_true']

/-- What a look reports, a read returns. -/
theorem get_of_contains {c : Cache α} {now : Nat} {key : String}
    (h : c.contains now key = true) : ∃ value, (c.get now key).1 = some value := by
  unfold contains at h
  cases hfind : c.find? key with
  | none =>
      rw [hfind] at h
      exact absurd h Bool.false_ne_true
  | some e =>
      -- The entry is live, or the look would not have reported it.
      rw [hfind] at h
      simp only [Bool.not_eq_true'] at h
      exact ⟨e.value, (c.value_get_eq_some_iff now key e.value).mpr ⟨e, hfind, h, rfl⟩⟩

/-- After a read that finds nothing there is nothing. -/
theorem find?_get_of_none {c : Cache α} {now : Nat} {key : String}
    (h : (c.get now key).1 = none) : (c.get now key).2.find? key = none := by
  cases hfind : c.find? key with
  | none =>
      rw [get_of_find?_eq_none hfind]
      exact hfind
  | some e =>
      cases hstale : c.isStale now e with
      | true =>
          -- The stale entry was dropped, and there was no other.
          rw [get_of_stale hfind hstale, find?, List.find?_eq_none]
          intro d hd
          rw [beq_iff_eq]
          exact ((mem_without_iff c key d).mp hd).2
      | false =>
          rw [get_of_live hfind hstale] at h
          exact absurd h (Option.some_ne_none e.value)

/-- Who finds nothing finds nothing when looking again. -/
theorem get_get_of_none {c : Cache α} {now : Nat} {key : String}
    (h : (c.get now key).1 = none) : ((c.get now key).2.get now key).1 = none := by
  have hnone := find?_get_of_none h
  generalize (c.get now key).2 = d at hnone
  rw [get, hnone]

/-! ### Whether anything is kept -/

@[simp] theorem lifetime_get (c : Cache α) (now : Nat) (key : String) :
    (c.get now key).2.lifetime = c.lifetime := by
  unfold get
  split
  · rfl
  · split
    · rfl
    · rfl

@[simp] theorem lifetime_set (c : Cache α) (now : Nat) (key : String) (value : α) :
    (c.set now key value).lifetime = c.lifetime := by
  unfold set
  split
  · split
    · rfl
    · split
      · rfl
      · rfl
  · rfl

@[simp] theorem lifetime_deleteMatching (c : Cache α) (doomed : String → Bool) :
    (c.deleteMatching doomed).2.lifetime = c.lifetime := rfl

/-- A cache that returns something keeps entries: with no lifetime every entry
    is stale. -/
theorem isEnabled_of_get {c : Cache α} {now : Nat} {key : String} {value : α}
    (h : (c.get now key).1 = some value) : c.isEnabled = true := by
  rcases (c.value_get_eq_some_iff now key value).mp h with ⟨e, _, hlive, _⟩
  rw [isStale, decide_eq_false_iff_not] at hlive
  rw [isEnabled, bne_iff_ne]
  intro hzero
  rw [hzero] at hlive
  exact hlive (Nat.zero_le _)

/-- The entry of a write comes first. -/
theorem find?_set_self {c : Cache α} (henabled : c.isEnabled = true) (now : Nat) (key : String)
    (value : α) :
    (c.set now key value).find? key = some { key, value, stored := now } := by
  unfold set find?
  rw [if_pos henabled]
  -- However much room there is, the new entry is put in front.
  split
  · exact List.find?_cons_of_pos (by simp only [beq_self_eq_true])
  · split
    · exact List.find?_cons_of_pos (by simp only [beq_self_eq_true])
    · exact List.find?_cons_of_pos (by simp only [beq_self_eq_true])

/-- What a cache that keeps entries has stored is there at that moment. -/
theorem get_set_self {c : Cache α} (henabled : c.isEnabled = true) (now : Nat) (key : String)
    (value : α) : ((c.set now key value).get now key).1 = some value := by
  have hfresh : (c.set now key value).isStale now { key, value, stored := now } = false := by
    rw [isEnabled, bne_iff_ne] at henabled
    rw [isStale, lifetime_set, Nat.sub_self, decide_eq_false_iff_not]
    exact fun hle => henabled (Nat.le_zero.mp hle)
  rw [get_of_live (find?_set_self henabled now key value) hfresh]

end Cache

end Multitenancy
