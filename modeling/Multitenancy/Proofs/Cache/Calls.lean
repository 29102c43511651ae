import Mathlib.Data.List.Induction
import Mathlib.Data.List.Nodup
import Multitenancy.Proofs.Cache
/-!
# Calls to a Cache

What calls that come one after the other do to the entries of a cache.

Seven operations touch a cache, and to its entries they do one of two things.
Either an entry comes to the front and makes room by pushing out what exceeds
the capacity, or some entries go and nothing else happens. `Turnover` has one
case for each. The first is the case of a write and of a read that succeeds,
the second that of all other calls; a read that finds a stale entry removes
it, and so belongs there as well.

Writes go three ways in the definition: the key is there, there is room, or
the last entry is displaced. On a tidy cache the three come to the same list,
which is what lets one case stand for all of them.

## Main definitions

* `CacheCall`: A call to a cache.
* `CacheCall.ends`: A call removes a key, or sets it anew.
* `Cache.next`, `Cache.after`: The cache after one call and after several.
* `Cache.used?`: The key that a call sets or reads with success.
* `Cache.Tidy`: No key is stored twice, and no more than there is room for.
* `Cache.Turnover`: What a call does to the entries.

## Theorems

* `entries_of_disabled`: A cache without a lifetime stays empty.
* `Tidy.entries_set`: A write puts its entry in front.
* `Tidy.turnover`: Every call is one of the two cases.
* `Tidy.next`, `tidy_after`: A cache stays tidy.
-/

namespace Multitenancy

/-- A call to a cache. -/
inductive CacheCall (α : Type) where
  | set (key : String) (value : α)
  | get (key : String)
  | contains (key : String)
  | delete (key : String)
  | deleteMatching (doomed : String → Bool)
  | clear
  | purge

variable {α : Type}

/-- Whether a call is the end of what was stored under a key, because it
    removes the key or sets it anew. -/
def CacheCall.ends (key : String) : CacheCall α → Bool
  | .set k _ | .delete k => k == key
  | .deleteMatching doomed => doomed key
  | .clear => true
  | .get _ | .contains _ | .purge => false

namespace Cache

/-- The cache after a call. -/
def next (c : Cache α) (now : Nat) : CacheCall α → Cache α
  | .set key value => c.set now key value
  | .get key => (c.get now key).2
  | .contains _ => c
  | .delete key => (c.delete key).2
  | .deleteMatching doomed => (c.deleteMatching doomed).2
  | .clear => c.clear
  | .purge => (c.purge now).2

/-- The key that a call uses: the one that it sets, or that it reads with
    success. -/
def used? (c : Cache α) (now : Nat) : CacheCall α → Option String
  | .set key _ => some key
  | .get key => if (c.get now key).1.isSome then some key else none
  | .contains _ | .delete _ | .deleteMatching _ | .clear | .purge => none

/-- The cache after calls that come one after the other, each at its time. -/
def after (c : Cache α) (calls : List (Nat × CacheCall α)) : Cache α :=
  calls.foldl (fun c call => c.next call.1 call.2) c

theorem after_concat (c : Cache α) (calls : List (Nat × CacheCall α)) (now : Nat)
    (call : CacheCall α) :
    c.after (calls ++ [(now, call)]) = (c.after calls).next now call := by
  rw [after, List.foldl_append]
  rfl

/-! ### What no call changes -/

theorem capacity_get (c : Cache α) (now : Nat) (key : String) :
    (c.get now key).2.capacity = c.capacity := by
  unfold get
  split
  · rfl
  · split
    · rfl
    · rfl

theorem capacity_set (c : Cache α) (now : Nat) (key : String) (value : α) :
    (c.set now key value).capacity = c.capacity := by
  -- A write makes room in one of three ways, and each leaves the bound alone.
  unfold set
  split
  · split
    · rfl
    · split
      · rfl
      · rfl
  · rfl

@[simp] theorem capacity_next (c : Cache α) (now : Nat) (call : CacheCall α) :
    (c.next now call).capacity = c.capacity := by
  cases call with
  | set key value => exact c.capacity_set now key value
  | get key => exact c.capacity_get now key
  | _ => rfl

@[simp] theorem lifetime_next (c : Cache α) (now : Nat) (call : CacheCall α) :
    (c.next now call).lifetime = c.lifetime := by
  cases call with
  | set key value => exact c.lifetime_set now key value
  | get key => exact c.lifetime_get now key
  | _ => rfl

theorem capacity_after (c : Cache α) (calls : List (Nat × CacheCall α)) :
    (c.after calls).capacity = c.capacity := by
  induction calls using List.reverseRecOn with
  | nil => rfl
  | append_singleton calls call ih => rw [after_concat, capacity_next, ih]

theorem lifetime_after (c : Cache α) (calls : List (Nat × CacheCall α)) :
    (c.after calls).lifetime = c.lifetime := by
  induction calls using List.reverseRecOn with
  | nil => rfl
  | append_singleton calls call ih => rw [after_concat, lifetime_next, ih]

/-- A cache without a lifetime that is empty stays empty. -/
theorem entries_of_disabled {c : Cache α} (hdisabled : c.isEnabled = false)
    (hempty : c.entries = []) (calls : List (Nat × CacheCall α)) :
    (c.after calls).entries = [] := by
  induction calls using List.reverseRecOn with
  | nil => exact hempty
  | append_singleton calls call ih =>
      have hoff : (c.after calls).isEnabled = false := by
        rw [isEnabled, lifetime_after]
        exact hdisabled
      rw [after_concat]
      -- Only a write could bring an entry in, and it does not without a lifetime.
      cases hcall : call.2 with
      | set key value => rw [next, set, hoff, if_neg Bool.false_ne_true, ih]
      | get key => simp only [next, get, find?, ih, List.find?_nil]
      | contains key => exact ih
      | delete key => simp only [next, delete, without, ih, List.filter_nil]
      | deleteMatching doomed => simp only [next, deleteMatching, ih, List.filter_nil]
      | clear => rfl
      | purge => simp only [next, purge, ih, List.filter_nil]

/-! ### Tidy caches -/

/-- No key is stored twice, and there are no more entries than there is room
    for. -/
structure Tidy (c : Cache α) : Prop where
  keys : (c.entries.map CacheEntry.key).Nodup
  room : c.entries.length ≤ c.capacity

namespace Tidy

variable {c : Cache α} {e f : CacheEntry α}

theorem eq_of_key (h : c.Tidy) (he : e ∈ c.entries) (hf : f ∈ c.entries) (hkey : e.key = f.key) :
    e = f :=
  List.inj_on_of_nodup_map h.keys he hf hkey

/-- On a tidy cache the entry that a search finds is the only one of its
    key. -/
theorem find?_eq_some_iff (h : c.Tidy) (key : String) (e : CacheEntry α) :
    c.find? key = some e ↔ e ∈ c.entries ∧ e.key = key := by
  constructor
  · exact mem_of_find?
  · rintro ⟨he, rfl⟩
    -- A search that finds nothing would have passed by `e`, one that finds another entry would be
    -- the second with the key.
    cases hfind : c.find? e.key with
    | none =>
        rw [find?, List.find?_eq_none] at hfind
        exact absurd (beq_self_eq_true e.key) (hfind e he)
    | some f =>
        rcases mem_of_find? hfind with ⟨hf, hkey⟩
        rw [h.eq_of_key he hf hkey.symm]

/-- An entry at the front of a tidy cache, with as many of the others as there
    is room for, makes a tidy cache again. -/
theorem front (h : c.Tidy) {c' : Cache α} (hcapacity : c'.capacity = c.capacity)
    (hentries : c'.entries = e :: (c.without e.key).take (c.capacity - 1)) : c'.Tidy where
  keys := by
    have hrest : ((c.without e.key).take (c.capacity - 1)).Sublist c.entries :=
      (List.take_sublist _ _).trans List.filter_sublist
    rw [hentries, List.map_cons, List.nodup_cons]
    refine ⟨fun hmem => ?_, h.keys.sublist (hrest.map _)⟩
    -- None of the others has the key of the front entry, since those were taken out.
    rcases List.mem_map.mp hmem with ⟨f, hf, hkey⟩
    exact ((c.mem_without_iff e.key f).mp (List.mem_of_mem_take hf)).2 hkey
  room := by
    -- The entry in front takes the one place that the others are kept short of.
    have hpos := c.capacity_pos
    rw [hentries, hcapacity, List.length_cons, List.length_take]
    omega

/-- Removing entries leaves a tidy cache. -/
theorem sift (h : c.Tidy) {c' : Cache α} (hcapacity : c'.capacity = c.capacity)
    {keep : CacheEntry α → Bool} (hentries : c'.entries = c.entries.filter keep) : c'.Tidy where
  keys := by
    rw [hentries]
    exact h.keys.sublist (List.filter_sublist.map _)
  room := by
    rw [hentries, hcapacity]
    exact Nat.le_trans (List.length_filter_le _ _) h.room

end Tidy

/-! ### What a call does to the entries -/

/-- What a call does to the entries of a cache: some of them go, or one comes
    to the front and the others stay as far as there is room. -/
inductive Turnover (c : Cache α) (now : Nat) (call : CacheCall α) : Prop
  | sift (keep : CacheEntry α → Bool)
      (hentries : (c.next now call).entries = c.entries.filter keep)
      (hused : c.used? now call = none)
      (hkept : ∀ e ∈ c.entries, keep e = true → call.ends e.key = false)
      (hgone : ∀ e ∈ c.entries, keep e = false →
        call.ends e.key = true ∨ c.isStale now e = true)
  | front (e : CacheEntry α)
      (hentries : (c.next now call).entries =
        e :: (c.without e.key).take (c.capacity - 1))
      (hused : c.used? now call = some e.key)
      (horigin : call = .set e.key e.value ∧ e.stored = now ∨
        call = .get e.key ∧ e ∈ c.entries)

/-- A key that is there is the key of one entry. -/
theorem Tidy.length_without {c : Cache α} (h : c.Tidy) {e : CacheEntry α} (he : e ∈ c.entries) :
    (c.without e.key).length + 1 = c.entries.length := by
  -- Keys occur once, so the entries with this key are just one.
  have hone : c.entries.countP (fun f => f.key == e.key) = 1 := by
    have hcount := List.count_eq_one_of_mem h.keys (List.mem_map_of_mem he)
    rw [List.count, List.countP_map] at hcount
    exact hcount
  have hlength := List.length_eq_countP_add_countP (fun f => f.key == e.key) (l := c.entries)
  rw [without, ← List.countP_eq_length_filter]
  simp only [Bool.not_eq_true, Bool.decide_eq_false] at hlength
  omega

/-- Without a key that is there, there are fewer entries than there is room
    for. -/
theorem Tidy.take_without {c : Cache α} (h : c.Tidy) {e : CacheEntry α} (he : e ∈ c.entries) :
    (c.without e.key).take (c.capacity - 1) = c.without e.key := by
  have hlength := h.length_without he
  have hroom := h.room
  exact List.take_of_length_le (by omega)

/-- A write puts its entry in front of the others. In whichever way it does,
    those others are as many as there is room for. -/
theorem Tidy.entries_set {c : Cache α} (h : c.Tidy) (henabled : c.isEnabled = true) (now : Nat)
    (key : String) (value : α) :
    (c.set now key value).entries =
      { key, value, stored := now } :: (c.without key).take (c.capacity - 1) := by
  have hroom := h.room
  cases hfind : c.find? key with
  | some e =>
      -- The key is there, and its entry makes room for the new one.
      rcases mem_of_find? hfind with ⟨he, rfl⟩
      rw [set_of_find?_eq_some henabled hfind, h.take_without he]
  | none =>
      rw [without_of_find?_eq_none hfind]
      by_cases hlt : c.entries.length < c.capacity
      · rw [set_of_room henabled hfind hlt, List.take_of_length_le (by omega)]
      · -- All but the last entry are one fewer than there is room for.
        rw [set_of_full henabled hfind hlt, List.dropLast_eq_take,
          Nat.le_antisymm hroom (Nat.le_of_not_lt hlt)]

/-- What a read does to the entries. -/
theorem Tidy.turnover_get {c : Cache α} (h : c.Tidy) (now : Nat) (key : String) :
    c.Turnover now (.get key) := by
  cases hfind : c.find? key with
  | none =>
      -- A miss leaves every entry where it is.
      have hget := get_of_find?_eq_none hfind now
      refine .sift (fun _ => true) ?_ ?_ (fun _ _ _ => rfl)
        fun _ _ hfalse => absurd hfalse.symm Bool.false_ne_true
      · rw [next, hget, List.filter_true]
      · rw [used?, hget]
        rfl
  | some e =>
      rcases mem_of_find? hfind with ⟨he, rfl⟩
      cases hstale : c.isStale now e with
      | true =>
          have hget := get_of_stale hfind hstale
          refine .sift (fun f => !(f.key == e.key)) ?_ ?_ (fun _ _ _ => rfl) fun f hf hgone => ?_
          · rw [next, hget, without]
          · rw [used?, hget]
            rfl
          · -- The entry that goes is the stale one.
            rw [Bool.not_eq_false', beq_iff_eq] at hgone
            rw [h.eq_of_key hf he hgone]
            exact Or.inr hstale
      | false =>
          -- A hit brings the entry to the front, and there is room for all the others.
          have hget := get_of_live hfind hstale
          refine .front e ?_ ?_ (Or.inr ⟨rfl, he⟩)
          · rw [next, hget, h.take_without he]
          · rw [used?, hget]
            rfl

/-- Every call to a tidy cache that keeps entries is one of the two cases. -/
theorem Tidy.turnover {c : Cache α} (h : c.Tidy) (henabled : c.isEnabled = true) (now : Nat)
    (call : CacheCall α) : c.Turnover now call := by
  cases call with
  | set key value =>
      exact .front { key, value, stored := now } (h.entries_set henabled now key value) rfl
        (Or.inl ⟨rfl, rfl⟩)
  | get key => exact h.turnover_get now key
  | contains key =>
      exact .sift (fun _ => true) (List.filter_true c.entries).symm rfl (fun _ _ _ => rfl)
        fun _ _ hfalse => absurd hfalse.symm Bool.false_ne_true
  | delete key =>
      -- The entries that stay are those with another key; `ends` asks for the same key the other
      -- way round.
      refine .sift (fun e => !(e.key == key)) rfl rfl (fun e _ hkept => ?_) fun e _ hgone => ?_
      · rw [CacheCall.ends, BEq.comm, ← Bool.not_eq_true']
        exact hkept
      · rw [CacheCall.ends, BEq.comm, ← Bool.not_eq_false']
        exact Or.inl hgone
  | deleteMatching doomed =>
      refine .sift (fun e => !doomed e.key) rfl rfl (fun e _ hkept => ?_) fun e _ hgone => ?_
      · exact (Bool.not_eq_true' _).mp hkept
      · exact Or.inl ((Bool.not_eq_false' _).mp hgone)
  | clear =>
      refine .sift (fun _ => false) ?_ rfl (fun _ _ htrue => absurd htrue Bool.false_ne_true)
        fun _ _ _ => Or.inl rfl
      rw [next, clear, List.filter_false]
  | purge =>
      -- `purge` ends no key, so what it lets go can only be stale.
      refine .sift (fun e => !c.isStale now e) rfl rfl (fun _ _ _ => rfl) fun e _ hgone => ?_
      exact Or.inr ((Bool.not_eq_false' _).mp hgone)

/-- A call leaves a tidy cache tidy. -/
theorem Tidy.next {c : Cache α} (h : c.Tidy) (henabled : c.isEnabled = true) (now : Nat)
    (call : CacheCall α) : (c.next now call).Tidy := by
  cases h.turnover henabled now call with
  | sift _ hentries _ _ _ => exact h.sift (c.capacity_next now call) hentries
  | front _ hentries _ _ => exact h.front (c.capacity_next now call) hentries

/-- A cache without entries is tidy. -/
theorem tidy_of_empty {c : Cache α} (hempty : c.entries = []) : c.Tidy where
  keys := by
    rw [hempty]
    exact List.nodup_nil
  room := by
    rw [hempty]
    exact Nat.zero_le _

theorem tidy_after (capacity : Nat) (lifetime : Duration) (calls : List (Nat × CacheCall α)) :
    ((empty capacity lifetime).after calls : Cache α).Tidy := by
  -- Without a lifetime nothing is ever stored. With one, every call is a turnover.
  cases henabled : (empty capacity lifetime : Cache α).isEnabled with
  | false => exact tidy_of_empty (entries_of_disabled henabled rfl calls)
  | true =>
      induction calls using List.reverseRecOn with
      | nil => exact tidy_of_empty rfl
      | append_singleton calls call ih =>
          rw [after_concat]
          refine ih.next ?_ call.1 call.2
          rw [isEnabled, lifetime_after]
          exact henabled

end Cache

end Multitenancy
