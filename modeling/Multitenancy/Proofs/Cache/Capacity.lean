import Multitenancy.Proofs.Cache.Recency
/-!
# Caches of Different Capacity

More room never costs a hit.

This needs an argument, because the caches do not stay in step. What has been
pushed out of the smaller cache may still be found in the larger one, where it
then comes to the front and pushes others towards the end. It can push nothing
out that the smaller cache has, though. The entries of the smaller cache stand
in the larger one in the same order, with others between them, and of these
others there are never more than the larger cache has room for besides. So as
long as the smaller cache has room the larger one has room, and once both are
full, whatever the larger one pushes out the smaller one pushes out or does not
have.

The order of use matters only for what comes last. Time does not matter at all:
an entry has the same age in both.

## Main definitions

* `Cache.Within`: All that a cache has a larger one has as well.

## Theorems

* `sublist_take_take`: Both lists lose entries at the end.
* `Cache.Within.sift`, `Cache.Within.front`: Both caches do the same.
* `Cache.Within.lift`: Only the larger one has the key.
* `Cache.Within.next`, `Cache.Within.after`: Calls keep a cache within a larger
  one.
* `Cache.hit_of_smaller`: What is read from a cache is read from a larger one.
-/

namespace Multitenancy

variable {α : Type}

/-! ### A list in a longer one -/

/-- The first elements of a list are among the first of one that has it, if the
    longer list does not lose more of them at the end. -/
theorem sublist_take_take {l l' : List α} (h : l.Sublist l') {m n : Nat}
    (hlost : l'.length + m ≤ l.length + n) : (l.take m).Sublist (l'.take n) := by
  -- From the end, the shorter list is dropped further than the longer one.
  rw [← List.reverse_sublist, List.reverse_take, List.reverse_take]
  refine ((List.reverse_sublist.mpr h).drop (l.length - m)).trans ?_
  exact List.drop_sublist_drop_left l'.reverse (by omega)

/-- A list that is in another one loses no more to a test. -/
theorem length_filter_add_le {l l' : List α} (h : l.Sublist l') (keep : α → Bool) :
    (l'.filter keep).length + l.length ≤ (l.filter keep).length + l'.length := by
  have hlost := h.countP_le (p := fun a => decide ¬keep a = true)
  have hlength := List.length_eq_countP_add_countP keep (l := l)
  have hlength' := List.length_eq_countP_add_countP keep (l := l')
  rw [← List.countP_eq_length_filter, ← List.countP_eq_length_filter]
  omega

namespace Cache

/-- All that a cache has a larger one has as well, in the same order, and has no
    more besides than it has room for besides. -/
structure Within (small large : Cache α) : Prop where
  tidySmall : small.Tidy
  tidyLarge : large.Tidy
  lifetime : small.lifetime = large.lifetime
  entries : small.entries.Sublist large.entries
  spare : large.entries.length + small.capacity ≤ small.entries.length + large.capacity

namespace Within

variable {small large : Cache α}

theorem isStale_eq (h : Within small large) : small.isStale = large.isStale := by
  funext now e
  rw [isStale, isStale, h.lifetime]

/-- What is read from a cache is read from a larger one. -/
theorem get (h : Within small large) {now : Nat} {key : String} {value : α}
    (hhit : (small.get now key).1 = some value) : (large.get now key).1 = some value := by
  rcases (h.tidySmall.get_eq_some_iff now key value).mp hhit with ⟨stored, he, hyoung⟩
  exact (h.tidyLarge.get_eq_some_iff now key value).mpr
    ⟨stored, h.entries.subset he, h.lifetime ▸ hyoung⟩

/-- A key of a cache has the same entry in a larger one. -/
theorem find?_eq_some (h : Within small large) {key : String} {e : CacheEntry α}
    (hfind : small.find? key = some e) : large.find? key = some e := by
  rcases mem_of_find? hfind with ⟨he, hkey⟩
  exact (h.tidyLarge.find?_eq_some_iff key e).mpr ⟨h.entries.subset he, hkey⟩

theorem sublist_without (h : Within small large) (key : String) :
    (small.without key).Sublist (large.without key) :=
  h.entries.filter _

theorem length_without_add_le (h : Within small large) (key : String) :
    (large.without key).length + small.entries.length ≤
      (small.without key).length + large.entries.length :=
  length_filter_add_le h.entries _

/-! ### One call to both -/

variable {now : Nat} {call : CacheCall α}

/-- The same entries go from both caches. -/
theorem sift (h : Within small large) (keep : CacheEntry α → Bool)
    (hsmall : (small.next now call).entries = small.entries.filter keep)
    (hlarge : (large.next now call).entries = large.entries.filter keep) :
    Within (small.next now call) (large.next now call) where
  tidySmall := h.tidySmall.sift (small.capacity_next now call) hsmall
  tidyLarge := h.tidyLarge.sift (large.capacity_next now call) hlarge
  lifetime := by rw [lifetime_next, lifetime_next, h.lifetime]
  entries := by
    rw [hsmall, hlarge]
    exact h.entries.filter keep
  spare := by
    -- The smaller cache loses no more than the larger one, as all it has is in both.
    have hlost := length_filter_add_le h.entries keep
    have hspare := h.spare
    rw [capacity_next, capacity_next, hsmall, hlarge]
    omega

/-- The same entry comes to the front of both caches. -/
theorem front (h : Within small large) {e : CacheEntry α}
    (hsmall : (small.next now call).entries =
      e :: (small.without e.key).take (small.capacity - 1))
    (hlarge : (large.next now call).entries =
      e :: (large.without e.key).take (large.capacity - 1)) :
    Within (small.next now call) (large.next now call) := by
  have hpos := small.capacity_pos
  have hpos' := large.capacity_pos
  have hspare := h.spare
  have hlost := h.length_without_add_le e.key
  refine ⟨h.tidySmall.front (small.capacity_next now call) hsmall,
    h.tidyLarge.front (large.capacity_next now call) hlarge, ?_, ?_, ?_⟩
  · rw [lifetime_next, lifetime_next, h.lifetime]
  · rw [hsmall, hlarge]
    -- The smaller cache keeps a shorter part of a sublist, behind the same new entry.
    exact (sublist_take_take (h.sublist_without e.key) (by omega)).cons_cons e
  · -- What the smaller cache is still short of is not more than before, full or not.
    rw [capacity_next, capacity_next, hsmall, hlarge, List.length_cons, List.length_cons,
      List.length_take, List.length_take]
    omega

/-- An entry whose key only the larger cache has comes to its front. -/
theorem lift (h : Within small large) {e : CacheEntry α} (he : e ∈ large.entries)
    (hmissing : small.find? e.key = none)
    (hsmall : (small.next now call).entries = small.entries)
    (hlarge : (large.next now call).entries = e :: large.without e.key) :
    Within (small.next now call) (large.next now call) where
  tidySmall := by
    -- Nothing has changed in the smaller cache, which is a sieve that keeps all.
    rw [← List.filter_true small.entries] at hsmall
    exact h.tidySmall.sift (small.capacity_next now call) hsmall
  tidyLarge := by
    refine h.tidyLarge.front (e := e) (large.capacity_next now call) ?_
    rw [hlarge, h.tidyLarge.take_without he]
  lifetime := by rw [lifetime_next, lifetime_next, h.lifetime]
  entries := by
    -- Taking the key out of the smaller cache changes nothing, since it does not have it.
    rw [hsmall, hlarge, ← without_of_find?_eq_none hmissing]
    exact (h.sublist_without e.key).cons e
  spare := by
    rw [capacity_next, capacity_next, hsmall, hlarge, List.length_cons,
      h.tidyLarge.length_without he]
    exact h.spare

/-- A read may find an entry in both caches, in none of them, or only in the
    larger one. -/
theorem next_get (h : Within small large) (now : Nat) (key : String) :
    Within (small.next now (.get key)) (large.next now (.get key)) := by
  cases hsmall : small.find? key with
  | some e =>
      have hlarge := h.find?_eq_some hsmall
      rcases mem_of_find? hsmall with ⟨he, rfl⟩
      cases hstale : small.isStale now e with
      | true =>
          refine h.sift (fun f => !(f.key == e.key)) ?_ ?_
          · rw [next, get_of_stale hsmall hstale, without]
          · rw [next, get_of_stale hlarge (h.isStale_eq ▸ hstale), without]
      | false =>
          refine h.front (e := e) ?_ ?_
          · rw [next, get_of_live hsmall hstale, h.tidySmall.take_without he]
          · rw [next, get_of_live hlarge (h.isStale_eq ▸ hstale),
              h.tidyLarge.take_without (h.entries.subset he)]
  | none =>
      have hunmoved : (small.next now (.get key)).entries = small.entries := by
        rw [next, get_of_find?_eq_none hsmall]
      cases hlarge : large.find? key with
      | none =>
          refine h.sift (fun _ => true) ?_ ?_
          · rw [hunmoved, List.filter_true]
          · rw [next, get_of_find?_eq_none hlarge, List.filter_true]
      | some e =>
          rcases mem_of_find? hlarge with ⟨he, rfl⟩
          cases hstale : large.isStale now e with
          | true =>
              -- Dropping the key takes nothing from the smaller cache.
              refine h.sift (fun f => !(f.key == e.key)) ?_ ?_
              · rw [hunmoved]
                exact (without_of_find?_eq_none hsmall).symm
              · rw [next, get_of_stale hlarge hstale, without]
          | false =>
              refine h.lift he hsmall hunmoved ?_
              rw [next, get_of_live hlarge hstale]

/-- A call to both keeps a cache within a larger one. -/
theorem next (h : Within small large) (now : Nat) (call : CacheCall α) :
    Within (small.next now call) (large.next now call) := by
  have hstale := h.isStale_eq
  cases call with
  | set key value =>
      have henabled : small.isEnabled = large.isEnabled := by
        rw [isEnabled, isEnabled, h.lifetime]
      cases hon : small.isEnabled with
      | true =>
          exact h.front (h.tidySmall.entries_set hon now key value)
            (h.tidyLarge.entries_set (henabled ▸ hon) now key value)
      | false =>
          -- Nothing is stored.
          refine h.sift (fun _ => true) ?_ ?_
          · rw [Cache.next, set, hon, if_neg Bool.false_ne_true, List.filter_true]
          · rw [Cache.next, set, ← henabled, hon, if_neg Bool.false_ne_true, List.filter_true]
  | get key => exact h.next_get now key
  | contains key => exact h
  | delete key => exact h.sift _ rfl rfl
  | deleteMatching doomed => exact h.sift _ rfl rfl
  | clear => exact h.sift _ (List.filter_false _).symm (List.filter_false _).symm
  | purge =>
      refine h.sift (fun e => !small.isStale now e) rfl ?_
      rw [hstale]
      rfl

/-- Calls to both, at the same times, keep a cache within a larger one. -/
theorem after (h : Within small large) (calls : List (Nat × CacheCall α)) :
    Within (small.after calls) (large.after calls) := by
  induction calls generalizing small large with
  | nil => exact h
  | cons call rest ih => exact ih (h.next call.1 call.2)

/-- An empty cache is within an empty one of no less capacity. -/
theorem of_empty {capacity capacity' : Nat} (hle : capacity ≤ capacity') (lifetime : Duration) :
    Within (empty capacity lifetime : Cache α) (empty capacity' lifetime) where
  tidySmall := tidy_of_empty rfl
  tidyLarge := tidy_of_empty rfl
  lifetime := rfl
  entries := List.Sublist.refl []
  spare := by
    change 0 + max 1 capacity ≤ 0 + max 1 capacity'
    omega

end Within

/-- After any calls, a read that returns a value from a cache that started empty
    returns it from one of a larger capacity as well that has had the same
    calls. -/
theorem hit_of_smaller {capacity capacity' : Nat} (hle : capacity ≤ capacity')
    (lifetime : Duration) (calls : List (Nat × CacheCall α)) (now : Nat) (key : String) (value : α)
    (hhit : (((empty capacity lifetime).after calls : Cache α).get now key).1 = some value) :
    (((empty capacity' lifetime).after calls : Cache α).get now key).1 = some value :=
  ((Within.of_empty hle lifetime).after calls).get hhit

/-- The read of the first key finds it only in a cache with room for two, where
    the second key is pushed out in its place. -/
def crowded : List (Nat × CacheCall Nat) :=
  [(0, .set "a" 1), (1, .set "b" 2), (2, .get "a"), (3, .set "c" 3)]

/-- The third key is read from both caches, and the first from the larger one
    alone. -/
theorem hit_of_smaller_crowded :
    (((empty 1 10).after crowded : Cache Nat).get 9 "c").1 = some 3 ∧
      (((empty 2 10).after crowded : Cache Nat).get 9 "c").1 = some 3 ∧
      (((empty 1 10).after crowded : Cache Nat).get 9 "a").1 = none ∧
      (((empty 2 10).after crowded : Cache Nat).get 9 "a").1 = some 1 := by
  have hhit : (((empty 1 10).after crowded : Cache Nat).get 9 "c").1 = some 3 := by decide
  exact ⟨hhit, hit_of_smaller (by decide) 10 crowded 9 "c" 3 hhit, by decide, by decide⟩

end Cache

end Multitenancy
