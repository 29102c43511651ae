import Multitenancy.Proofs.Cache.Calls
/-!
# The Accounts of a Cache

What the counters of a cache say about the calls that it has had.

Every read is a hit or a miss. An entry comes in when a key is set that is not
there, and it goes out in one of five ways: a new key displaces it, a read
finds it stale, a sweep does, or it is removed, alone or with others. The cache
counts the first three of these, and the last two are counted by whoever
removes. Setting a key that is there is neither, also when its entry is stale:
the entry that goes is replaced by the one that comes.

So a key is counted once when it comes in and once when it goes out, and what
has come in and not gone out is there. That no key is stored twice is needed for
this, since a removal takes all entries of its key and counts one.

## Main definitions

* `CacheCall.isGet`: A call is a read.
* `Cache.inserts`: A call stores a key that was not there.
* `Cache.removed`: How many entries a call says that it has removed.
* `Cache.total`: What calls add up to.
* `Cache.Accounts`: The counters account for all calls.

## Theorems

* `Cache.reads_next`: A read is counted once.
* `Cache.Tidy.flow_next`: What one call lets in and out.
* `Cache.accounts_balance`: What the counters say after any calls.
-/

namespace Multitenancy

variable {α : Type}

/-- Whether a call is a read. -/
def CacheCall.isGet : CacheCall α → Bool
  | .get _ => true
  | .set _ _ | .contains _ | .delete _ | .deleteMatching _ | .clear | .purge => false

namespace Cache

/-- Whether a call stores a key that was not there. -/
def inserts (c : Cache α) (now : Nat) : CacheCall α → Bool
  | .set key value => (c.find? key).isNone && ((c.set now key value).find? key).isSome
  | .get _ | .contains _ | .delete _ | .deleteMatching _ | .clear | .purge => false

/-- How many entries a removal says that it has removed. -/
def removed (c : Cache α) : CacheCall α → Nat
  | .delete key => (c.delete key).1.toNat
  | .deleteMatching doomed => (c.deleteMatching doomed).1
  | .clear => c.size
  | .set _ _ | .get _ | .contains _ | .purge => 0

/-- What calls that come one after the other add up to, where each is counted
    on the cache that it finds. -/
def total (count : Cache α → Nat → CacheCall α → Nat) (c : Cache α) :
    List (Nat × CacheCall α) → Nat
  | [] => 0
  | (now, call) :: rest => count c now call + (c.next now call).total count rest

theorem total_concat (count : Cache α → Nat → CacheCall α → Nat) (c : Cache α)
    (calls : List (Nat × CacheCall α)) (now : Nat) (call : CacheCall α) :
    c.total count (calls ++ [(now, call)]) =
      c.total count calls + count (c.after calls) now call := by
  induction calls generalizing c with
  | nil => exact Nat.add_comm _ 0
  | cons first rest ih =>
      rw [List.cons_append, total, ih, total, Nat.add_assoc]
      rfl

/-! ### One call -/

theorem reads_set (c : Cache α) (now : Nat) (key : String) (value : α) :
    (c.set now key value).stats.hits = c.stats.hits ∧
      (c.set now key value).stats.misses = c.stats.misses := by
  -- A write counts evictions only, whichever way it makes room.
  unfold set
  split
  · split
    · exact ⟨rfl, rfl⟩
    · split
      · exact ⟨rfl, rfl⟩
      · exact ⟨rfl, rfl⟩
  · exact ⟨rfl, rfl⟩

/-- A read is counted as a hit or as a miss, and nothing else is. -/
theorem reads_next (c : Cache α) (now : Nat) (call : CacheCall α) :
    (c.next now call).stats.hits + (c.next now call).stats.misses =
      c.stats.hits + c.stats.misses + call.isGet.toNat := by
  cases call with
  | get key =>
      cases hfind : c.find? key with
      | none =>
          rw [next, get_of_find?_eq_none hfind]
          exact (Nat.add_assoc _ _ _).symm
      -- A stale entry is counted as a miss.
      | some e =>
          cases hstale : c.isStale now e with
          | true =>
              rw [next, get_of_stale hfind hstale]
              exact (Nat.add_assoc _ _ _).symm
          | false =>
              rw [next, get_of_live hfind hstale]
              exact Nat.add_right_comm _ _ _
  -- Only reads are counted.
  | set key value =>
      rcases c.reads_set now key value with ⟨hhits, hmisses⟩
      rw [next, hhits, hmisses]
      rfl
  | _ => rfl

namespace Tidy

variable {c : Cache α}

/-- A key that is removed takes as many entries with it as the removal says. -/
theorem length_without_add (h : c.Tidy) (key : String) :
    (c.without key).length + (c.find? key).isSome.toNat = c.entries.length := by
  cases hfind : c.find? key with
  | none => rw [without_of_find?_eq_none hfind, Option.isSome_none, Bool.toNat_false, Nat.add_zero]
  | some e =>
      rcases mem_of_find? hfind with ⟨he, rfl⟩
      rw [Option.isSome_some, Bool.toNat_true, h.length_without he]

/-- A write lets in a key that was not there, and pushes out one at most. -/
theorem flow_set (h : c.Tidy) (now : Nat) (key : String) (value : α) :
    (c.inserts now (.set key value)).toNat +
        (c.size + c.stats.evictions + c.stats.expirations) =
      (c.set now key value).size + (c.set now key value).stats.evictions +
        (c.set now key value).stats.expirations := by
  cases henabled : c.isEnabled with
  | false =>
      have hnone : c.inserts now (.set key value) = false := by
        rw [inserts, set_of_disabled henabled]
        cases c.find? key <;> rfl
      rw [hnone, set_of_disabled henabled, Bool.toNat_false, Nat.zero_add]
  | true =>
      have hinserts : c.inserts now (.set key value) = (c.find? key).isNone := by
        rw [inserts, find?_set_self henabled, Option.isSome_some, Bool.and_true]
      rw [hinserts]
      cases hfind : c.find? key with
      | some e =>
          -- The new entry takes the place of the old one.
          rcases mem_of_find? hfind with ⟨he, rfl⟩
          have hlength := h.length_without he
          rw [set_of_find?_eq_some henabled hfind, size, size, List.length_cons, hlength]
          exact Nat.zero_add _
      | none =>
          by_cases hroom : c.entries.length < c.capacity
          · rw [set_of_room henabled hfind hroom, size, size, List.length_cons]
            simp only [Option.isNone_none, Bool.toNat_true]
            omega
          · have hpos := c.capacity_pos
            rw [set_of_full henabled hfind hroom, size, size, List.length_cons,
              List.length_dropLast]
            simp only [Option.isNone_none, Bool.toNat_true]
            omega

/-- A read lets an entry out when it finds it stale. -/
theorem flow_get (h : c.Tidy) (now : Nat) (key : String) :
    c.size + c.stats.evictions + c.stats.expirations =
      (c.get now key).2.size + (c.get now key).2.stats.evictions +
        (c.get now key).2.stats.expirations := by
  cases hfind : c.find? key with
  | none =>
      rw [get_of_find?_eq_none hfind]
      rfl
  -- Only a stale entry goes; one that is live moves to the front, where it is counted again.
  | some e =>
      rcases mem_of_find? hfind with ⟨he, rfl⟩
      have hlength := h.length_without he
      cases hstale : c.isStale now e with
      | true =>
          rw [get_of_stale hfind hstale]
          simp only [size]
          omega
      | false =>
          rw [get_of_live hfind hstale]
          simp only [size, List.length_cons]
          omega

/-- What is there before a call and what it lets in is there after it, or has
    gone out in a way that is counted. -/
theorem flow_next (h : c.Tidy) (now : Nat) (call : CacheCall α) :
    (c.inserts now call).toNat + (c.size + c.stats.evictions + c.stats.expirations) =
      (c.next now call).size + (c.next now call).stats.evictions +
        (c.next now call).stats.expirations + c.removed call := by
  cases call with
  | set key value => exact h.flow_set now key value
  | get key =>
      rw [Cache.next, ← h.flow_get]
      exact Nat.zero_add _
  | contains key => exact Nat.zero_add _
  -- What goes is not counted by the cache, so `removed` stands for it.
  | delete key =>
      have hlength := h.length_without_add key
      simp only [inserts, Cache.next, delete, removed, size, Bool.toNat_false]
      omega
  | deleteMatching doomed =>
      have hle := List.length_filter_le (fun e => !doomed e.key) c.entries
      simp only [inserts, Cache.next, deleteMatching, removed, size, Bool.toNat_false]
      omega
  | clear =>
      simp only [inserts, Cache.next, clear, removed, size, Bool.toNat_false, List.length_nil]
      omega
  | purge =>
      -- `purge` reports what it lets out, and what it keeps is what was not stale.
      have hle := List.length_filter_le (fun e => !c.isStale now e) c.entries
      simp only [inserts, Cache.next, purge, removed, size, Bool.toNat_false]
      omega

end Tidy

/-! ### Any calls -/

/-- What the counters and the entries of a cache that started empty say about
    the calls that it has had. -/
structure Accounts (capacity : Nat) (lifetime : Duration) (calls : List (Nat × CacheCall α))
    (c : Cache α) : Prop where
  /-- Every read is a hit or a miss. -/
  reads : c.stats.hits + c.stats.misses = calls.countP fun call => call.2.isGet
  /-- Every key that was stored is there, or was displaced, or found stale, or
      removed. -/
  flow : (empty capacity lifetime).total (fun d now call => (d.inserts now call).toNat) calls =
    c.size + c.stats.evictions + c.stats.expirations +
      (empty capacity lifetime).total (fun d _ call => d.removed call) calls
  /-- No key is stored twice. -/
  keys : (c.entries.map CacheEntry.key).Nodup
  /-- There are no more entries than there is room for. -/
  bounded : c.size ≤ max 1 capacity

/-- After any calls on a cache that starts empty its counters account for every
    read, and for every key that has come in. -/
theorem accounts_balance (capacity : Nat) (lifetime : Duration)
    (calls : List (Nat × CacheCall α)) :
    Accounts capacity lifetime calls ((empty capacity lifetime).after calls) := by
  have htidy := tidy_after (α := α) capacity lifetime
  refine ⟨?_, ?_, (htidy calls).keys, ?_⟩
  · -- Both equations go call by call, so the newest call is taken off the end.
    induction calls using List.reverseRecOn with
    | nil => rfl
    | append_singleton calls call ih =>
        rw [after_concat, reads_next, ih, List.countP_append, List.countP_singleton]
        cases call.2.isGet <;> rfl
  · induction calls using List.reverseRecOn with
    | nil => rfl
    | append_singleton calls call ih =>
        -- The new terms of the totals are what the last call let in and what it removed.
        have hflow := (htidy calls).flow_next call.1 call.2
        rw [after_concat, total_concat, total_concat, ih]
        omega
  · have hroom := (htidy calls).room
    rw [capacity_after] at hroom
    exact hroom

end Cache

end Multitenancy
