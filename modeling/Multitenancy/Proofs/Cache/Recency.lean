import Mathlib.Data.Finset.Card
import Multitenancy.Proofs.Cache.Calls
/-!
# Which Entries a Cache Has

What a cache that starts empty answers after any calls, said without its
entries.

A value stands under a key when it was stored by the latest write of the key
and no removal has hit the key since. A cache forgets values that stand, for
two reasons: they grow old, and they are pushed out. So a read returns only
what stands and is young enough, and it does return that unless the key may
have been pushed out. This takes as many other keys as there is room for, all
of them set or read with success after the key itself was.

The entries are in the order of their last use, so whoever comes before an
entry was used after it. Two things are read off this order: the entry that is
pushed out, the last one, is the one that was used least recently; and the
entries before an entry are no more than the keys that were used after it.
Reading with success changes this order and not the age of an entry, and
writing starts both anew.

## Main definitions

* `Standing`: A value was stored by the latest write, and not removed.
* `Cache.uses`: The keys that calls use, one after the other.
* `usedSince`: The different keys that were used after a key was.
* `Cache.Follows`: The entries are those that calls account for.

## Theorems

* `Follows.next`: Every call keeps the entries accounted for.
* `Follows.displaced`: A write that finds the cache full pushes out the least
  recently used entry.
* `Cache.lru_with_lifetime`: What a cache answers after any calls.
-/

namespace Multitenancy

variable {α : Type}

/-! ### What stands after calls -/

/-- The value of an entry stands: the latest write of its key has stored it at
    its time, and no removal has hit the key since. -/
def Standing (calls : List (Nat × CacheCall α)) (e : CacheEntry α) : Prop :=
  ∃ before since, calls = before ++ (e.stored, .set e.key e.value) :: since ∧
    ∀ call ∈ since, call.2.ends e.key = false

/-- What stands after one more call was written by it, or stood before and was
    not ended by it. -/
theorem standing_concat_iff (calls : List (Nat × CacheCall α)) (now : Nat) (call : CacheCall α)
    (e : CacheEntry α) :
    Standing (calls ++ [(now, call)]) e ↔
      (call = .set e.key e.value ∧ e.stored = now) ∨
        (call.ends e.key = false ∧ Standing calls e) := by
  constructor
  · rintro ⟨before, since, hcalls, hsince⟩
    -- The writing call is the new one, or the new one comes last of those since.
    rcases List.eq_nil_or_concat' since with rfl | ⟨rest, last, rfl⟩
    · rcases List.append_inj' hcalls rfl with ⟨_, hlast⟩
      rw [List.cons.injEq, Prod.mk.injEq] at hlast
      exact Or.inl ⟨hlast.1.2, hlast.1.1.symm⟩
    · rw [← List.cons_append, ← List.append_assoc] at hcalls
      rcases List.append_inj' hcalls rfl with ⟨hbefore, hlast⟩
      rw [List.cons.injEq] at hlast
      refine Or.inr ⟨?_, before, rest, hbefore, fun c hc => ?_⟩
      · have hmem := hsince last (List.mem_append_right _ List.mem_cons_self)
        rw [← hlast.1] at hmem
        exact hmem
      · exact hsince c (List.mem_append_left _ hc)
  · rintro (⟨rfl, rfl⟩ | ⟨hends, before, since, rfl, hsince⟩)
    · -- Nothing has happened since the new call.
      exact ⟨calls, [], rfl, fun _ hc => absurd hc List.not_mem_nil⟩
    · refine ⟨before, since ++ [(now, call)], ?_, fun c hc => ?_⟩
      · rw [List.append_assoc, List.cons_append]
      · rcases List.mem_append.mp hc with hc | hc
        · exact hsince c hc
        · rw [List.mem_singleton.mp hc]
          exact hends

theorem not_standing_nil (e : CacheEntry α) : ¬Standing [] e := by
  rintro ⟨before, since, hcalls, _⟩
  exact absurd hcalls.symm (by simp only [List.append_eq_nil_iff, reduceCtorEq, and_false,
    not_false_eq_true])

/-- One value stands under a key at most. -/
theorem Standing.eq {calls : List (Nat × CacheCall α)} {e f : CacheEntry α}
    (he : Standing calls e) (hf : Standing calls f) (hkey : e.key = f.key) : e = f := by
  rcases e with ⟨key, value, stored⟩
  rcases f with ⟨key', value', stored'⟩
  simp only at hkey
  subst hkey
  induction calls using List.reverseRecOn with
  | nil => exact absurd he (not_standing_nil _)
  | append_singleton calls call ih =>
      -- The last call has written both, or has ended neither.
      rcases (standing_concat_iff calls call.1 call.2 _).mp he with ⟨hset, rfl⟩ | ⟨hends, hold⟩ <;>
        rcases (standing_concat_iff calls call.1 call.2 _).mp hf with
          ⟨hset', rfl⟩ | ⟨hends', hold'⟩
      · have hvalue : value = value' := (CacheCall.set.inj (hset.symm.trans hset')).2
        rw [hvalue]
      · rw [hset, CacheCall.ends, beq_self_eq_true] at hends'
        exact absurd hends'.symm Bool.false_ne_true
      · rw [hset', CacheCall.ends, beq_self_eq_true] at hends
        exact absurd hends.symm Bool.false_ne_true
      · exact ih hold hold'

/-! ### The order of use -/

/-- The keys that calls use one after the other, the last one first. -/
def Cache.uses (c : Cache α) : List (Nat × CacheCall α) → List String
  | [] => []
  | (now, call) :: rest => (c.next now call).uses rest ++ (c.used? now call).toList

theorem Cache.uses_concat (c : Cache α) (calls : List (Nat × CacheCall α)) (now : Nat)
    (call : CacheCall α) :
    c.uses (calls ++ [(now, call)]) =
      ((c.after calls).used? now call).toList ++ c.uses calls := by
  -- Uses are listed newest first, so what a later call uses is put in front of all.
  induction calls generalizing c with
  | nil => exact (List.append_nil _).symm
  | cons first rest ih =>
      rcases first with ⟨time, first⟩
      rw [List.cons_append, uses, ih, uses, List.append_assoc]
      rfl

/-- The different keys that were used after the last use of a key, where the
    last use comes first. -/
def usedSince (key : String) (uses : List String) : Finset String :=
  (uses.takeWhile fun k => k != key).toFinset

theorem usedSince_cons_of_ne {key k : String} (hne : k ≠ key) (uses : List String) :
    usedSince key (k :: uses) = insert k (usedSince key uses) := by
  have hk : (k != key) = true := bne_iff_ne.mpr hne
  rw [usedSince, List.takeWhile_cons, if_pos hk, List.toFinset_cons, usedSince]

theorem usedSince_subset_cons {key k : String} (hne : k ≠ key) (uses : List String) :
    usedSince key uses ⊆ usedSince key (k :: uses) := by
  rw [usedSince_cons_of_ne hne]
  exact Finset.subset_insert _ _

/-- The entries of a list are in the order of their last use: whoever comes
    before an entry was used after it. -/
def InOrderOfUse (uses : List String) (entries : List (CacheEntry α)) : Prop :=
  entries.Pairwise fun e f => e.key ∈ usedSince f.key uses

/-- In a list that is in the order of use, an entry is among the first `n` if
    fewer than `n + 1` keys were used after it, counting one that is not in the
    list. -/
theorem InOrderOfUse.mem_take {uses : List String} {entries : List (CacheEntry α)}
    (h : InOrderOfUse uses entries) (hkeys : (entries.map CacheEntry.key).Nodup) {key : String}
    (hkey : ∀ e ∈ entries, e.key ≠ key) {e : CacheEntry α} (he : e ∈ entries) {n : Nat}
    (hcard : (insert key (usedSince e.key uses)).card ≤ n) : e ∈ entries.take n := by
  rcases List.getElem_of_mem he with ⟨i, hi, rfl⟩
  -- The keys of the entries before it, and the key that is not in the list, are
  -- among those used after it.
  have hsub : insert key ((entries.take i).map CacheEntry.key).toFinset ⊆
      insert key (usedSince entries[i].key uses) := by
    refine Finset.insert_subset_insert key fun k hk => ?_
    rw [List.mem_toFinset, List.mem_map] at hk
    rcases hk with ⟨f, hf, rfl⟩
    rcases List.mem_take_iff_getElem.mp hf with ⟨j, hj, rfl⟩
    exact List.pairwise_iff_getElem.mp h j i _ hi (by omega)
  have hnodup : ((entries.take i).map CacheEntry.key).Nodup :=
    hkeys.sublist ((List.take_sublist i entries).map _)
  have hnot : key ∉ ((entries.take i).map CacheEntry.key).toFinset := by
    rw [List.mem_toFinset, List.mem_map]
    rintro ⟨f, hf, hfk⟩
    exact hkey f (List.mem_of_mem_take hf) hfk
  have hcount := Finset.card_le_card hsub
  rw [Finset.card_insert_of_notMem hnot, List.toFinset_card_of_nodup hnodup, List.length_map,
    List.length_take] at hcount
  exact List.mem_take_iff_getElem.mpr ⟨i, by omega, rfl⟩

namespace Cache

/-- The entries of a cache are those that calls account for, `uses` being the
    keys that the calls have used. -/
structure Follows (calls : List (Nat × CacheCall α)) (uses : List String) (c : Cache α) : Prop where
  tidy : c.Tidy
  enabled : c.isEnabled = true
  /-- Nothing is there but what stands. -/
  standing : ∀ e ∈ c.entries, Standing calls e
  ordered : InOrderOfUse uses c.entries
  /-- What stands is there unless it has grown old or may have been pushed
      out. -/
  kept : ∀ e now, Standing calls e → (∀ call ∈ calls, call.1 ≤ now) → c.isStale now e = false →
    (usedSince e.key uses).card < c.capacity → e ∈ c.entries

namespace Follows

variable {calls : List (Nat × CacheCall α)} {uses : List String} {c c' : Cache α} {now : Nat}
  {call : CacheCall α}

/-- An entry that is stale stays so. -/
theorem isStale_of_le (c : Cache α) {now later : Nat} (hle : now ≤ later) {e : CacheEntry α}
    (h : c.isStale now e = true) : c.isStale later e = true := by
  rw [isStale, decide_eq_true_eq] at h ⊢
  exact Nat.le_trans h (Nat.sub_le_sub_right hle _)

theorem isStale_congr (hlifetime : c'.lifetime = c.lifetime) (now : Nat) (e : CacheEntry α) :
    c'.isStale now e = c.isStale now e := by
  rw [isStale, isStale, hlifetime]

/-- A call that removes entries keeps the others accounted for. -/
theorem sift (h : Follows calls uses c) {keep : CacheEntry α → Bool}
    (hcapacity : c'.capacity = c.capacity) (hlifetime : c'.lifetime = c.lifetime)
    (hentries : c'.entries = c.entries.filter keep)
    (hkept : ∀ e ∈ c.entries, keep e = true → call.ends e.key = false)
    (hgone : ∀ e ∈ c.entries, keep e = false → call.ends e.key = true ∨ c.isStale now e = true)
    (hunset : ∀ key value, call ≠ .set key value) :
    Follows (calls ++ [(now, call)]) uses c' where
  tidy := h.tidy.sift hcapacity hentries
  enabled := by
    rw [isEnabled, hlifetime]
    exact h.enabled
  standing e he := by
    rw [hentries, List.mem_filter] at he
    rw [standing_concat_iff]
    exact Or.inr ⟨hkept e he.1 he.2, h.standing e he.1⟩
  ordered := by
    rw [hentries]
    exact List.Pairwise.sublist List.filter_sublist h.ordered
  kept e later hstanding hlater hfresh hcard := by
    rw [isStale_congr hlifetime] at hfresh
    rw [hcapacity] at hcard
    rcases (standing_concat_iff calls now call e).mp hstanding with ⟨hset, _⟩ | ⟨hends, hold⟩
    · exact absurd hset (hunset _ _)
    · have he : e ∈ c.entries := h.kept e later hold
        (fun call hcall => hlater call (List.mem_append_left _ hcall)) hfresh hcard
      rw [hentries, List.mem_filter]
      refine ⟨he, ?_⟩
      -- The call has not ended it, and it was not stale at the call either.
      by_contra hout
      rcases hgone e he (Bool.eq_false_iff.mpr hout) with hended | hstale
      · rw [hended] at hends
        exact absurd hends.symm Bool.false_ne_true
      · have hnow : now ≤ later := hlater (now, call) (List.mem_append_right _ List.mem_cons_self)
        rw [isStale_of_le c hnow hstale] at hfresh
        exact absurd hfresh.symm Bool.false_ne_true

/-- A call that brings an entry to the front keeps the entries accounted
    for. -/
theorem front (h : Follows calls uses c) {e : CacheEntry α} (hcapacity : c'.capacity = c.capacity)
    (hlifetime : c'.lifetime = c.lifetime)
    (hentries : c'.entries = e :: (c.without e.key).take (c.capacity - 1))
    (horigin : call = .set e.key e.value ∧ e.stored = now ∨ call = .get e.key ∧ e ∈ c.entries) :
    Follows (calls ++ [(now, call)]) (e.key :: uses) c' := by
  -- A call about one key ends nothing under another.
  have hends : ∀ key, key ≠ e.key → call.ends key = false := by
    intro key hne
    rcases horigin with ⟨rfl, _⟩ | ⟨rfl, _⟩
    · exact beq_eq_false_iff_ne.mpr (Ne.symm hne)
    · rfl
  have hstanding : Standing (calls ++ [(now, call)]) e := by
    rw [standing_concat_iff]
    rcases horigin with hset | ⟨rfl, he⟩
    · exact Or.inl hset
    · exact Or.inr ⟨rfl, h.standing e he⟩
  have hothers : ∀ f ∈ c.without e.key, f ∈ c.entries ∧ f.key ≠ e.key :=
    fun f hf => (c.mem_without_iff e.key f).mp hf
  have hordered : InOrderOfUse uses (c.without e.key) :=
    List.Pairwise.sublist List.filter_sublist h.ordered
  refine ⟨h.tidy.front hcapacity hentries, ?_, fun f hf => ?_, ?_,
    fun f later hf hlater hfresh hcard => ?_⟩
  · rw [isEnabled, hlifetime]
    exact h.enabled
  · rw [hentries] at hf
    rcases List.mem_cons.mp hf with rfl | hf
    · exact hstanding
    · rcases hothers f (List.mem_of_mem_take hf) with ⟨hmem, hne⟩
      exact (standing_concat_iff calls now call f).mpr (Or.inr ⟨hends f.key hne, h.standing f hmem⟩)
  · rw [hentries, InOrderOfUse, List.pairwise_cons]
    constructor
    · intro f hf
      have hne := (hothers f (List.mem_of_mem_take hf)).2
      rw [usedSince_cons_of_ne (Ne.symm hne)]
      exact Finset.mem_insert_self _ _
    · have htaken := List.Pairwise.sublist (List.take_sublist (c.capacity - 1) _) hordered
      refine List.Pairwise.imp_of_mem (fun {f g} _ hg hfg => ?_) htaken
      have hne := (hothers g (List.mem_of_mem_take hg)).2
      exact usedSince_subset_cons (Ne.symm hne) uses hfg
  · rw [hentries]
    by_cases hkey : f.key = e.key
    · rw [hf.eq hstanding hkey]
      exact List.mem_cons_self
    · -- The front counts among the keys used after it, so the rest has room.
      rw [usedSince_cons_of_ne (Ne.symm hkey), hcapacity] at hcard
      rw [isStale_congr hlifetime] at hfresh
      have hold : Standing calls f := by
        rcases (standing_concat_iff calls now call f).mp hf with ⟨hset, _⟩ | ⟨_, hold⟩
        · have hended : call.ends f.key = true := by
            rw [hset]
            exact beq_self_eq_true _
          rw [hends f.key hkey] at hended
          exact absurd hended Bool.false_ne_true
        · exact hold
      have hfewer : (usedSince f.key uses).card < c.capacity :=
        Nat.lt_of_le_of_lt (Finset.card_le_card (Finset.subset_insert _ _)) hcard
      have hmem : f ∈ c.entries := h.kept f later hold
        (fun call hcall => hlater call (List.mem_append_left _ hcall)) hfresh hfewer
      refine List.mem_cons_of_mem _ (hordered.mem_take ?_ (fun g hg => (hothers g hg).2)
        ((c.mem_without_iff e.key f).mpr ⟨hmem, hkey⟩) (Nat.le_sub_one_of_lt hcard))
      exact h.tidy.keys.sublist (List.filter_sublist.map _)

/-- Every call keeps the entries accounted for. -/
theorem next (h : Follows calls uses c) (now : Nat) (call : CacheCall α) :
    Follows (calls ++ [(now, call)]) ((c.used? now call).toList ++ uses) (c.next now call) := by
  cases h.tidy.turnover h.enabled now call with
  | sift keep hentries hused hkept hgone =>
      rw [hused]
      refine h.sift (c.capacity_next now call) (c.lifetime_next now call) hentries hkept hgone ?_
      -- A write uses its key.
      rintro key value rfl
      exact absurd hused (by simp only [used?, reduceCtorEq, not_false_eq_true])
  | front e hentries hused horigin =>
      rw [hused]
      exact h.front (c.capacity_next now call) (c.lifetime_next now call) hentries horigin

/-- A write of a new key that finds the cache full pushes out one entry, which
    is the least recently used one. -/
theorem displaced (h : Follows calls uses c) (now : Nat) {key : String} (value : α)
    (hnew : c.find? key = none) (hfull : c.entries.length = c.capacity) :
    ∃ oldest ∈ c.entries,
      (∀ e ∈ c.entries, e.key ≠ oldest.key → e.key ∈ usedSince oldest.key uses) ∧
        ∀ e, e ∈ (c.set now key value).entries ↔
          e = { key, value, stored := now } ∨ e ∈ c.entries ∧ e.key ≠ oldest.key := by
  have hne : c.entries ≠ [] := by
    intro hnil
    rw [hnil, List.length_nil] at hfull
    exact absurd c.capacity_pos (hfull ▸ Nat.lt_irrefl 0)
  have hset : (c.set now key value).entries =
      { key, value, stored := now } :: c.entries.dropLast := by
    rw [set_of_full h.enabled hnew (hfull ▸ Nat.lt_irrefl _)]
  have hsplit := List.dropLast_append_getLast hne
  have hordered := h.ordered
  have hkeys := h.tidy.keys
  rw [InOrderOfUse, ← hsplit, List.pairwise_append] at hordered
  rw [← hsplit, List.map_append, List.nodup_append] at hkeys
  -- The last entry is the one that goes, and no other has its key.
  have hapart : ∀ e ∈ c.entries.dropLast, e.key ≠ (c.entries.getLast hne).key := fun e he =>
    hkeys.2.2 e.key (List.mem_map_of_mem he) _ (List.mem_map_of_mem List.mem_cons_self)
  have hmem : ∀ e, e ∈ c.entries ↔ e ∈ c.entries.dropLast ∨ e = c.entries.getLast hne := by
    intro e
    conv_lhs => rw [← hsplit, List.mem_append, List.mem_singleton]
  refine ⟨c.entries.getLast hne, List.getLast_mem hne, fun e he hkey => ?_, fun e => ?_⟩
  · rcases (hmem e).mp he with he | rfl
    · exact hordered.2.2 e he _ List.mem_cons_self
    · exact absurd rfl hkey
  · rw [hset, List.mem_cons, hmem]
    refine or_congr_right ⟨fun he => ⟨Or.inl he, hapart e he⟩, ?_⟩
    rintro ⟨he | rfl, hkey⟩
    · exact he
    · exact absurd rfl hkey

end Follows

/-! ### Any calls -/

theorem follows_after (capacity : Nat) {lifetime : Duration} (hlifetime : lifetime ≠ 0)
    (calls : List (Nat × CacheCall α)) :
    Follows calls ((empty capacity lifetime : Cache α).uses calls)
      ((empty capacity lifetime).after calls) := by
  induction calls using List.reverseRecOn with
  | nil =>
      -- At first there is nothing to follow, and no write has happened that could stand.
      refine ⟨tidy_of_empty rfl, bne_iff_ne.mpr hlifetime, ?_, List.Pairwise.nil, ?_⟩
      · exact fun _ he => absurd he List.not_mem_nil
      · exact fun e _ hstanding => absurd hstanding (not_standing_nil e)
  | append_singleton calls call ih =>
      rw [after_concat, uses_concat]
      exact ih.next call.1 call.2

/-- A read of a tidy cache returns the value of a live entry of the key. -/
theorem Tidy.get_eq_some_iff {c : Cache α} (h : c.Tidy) (now : Nat) (key : String) (value : α) :
    (c.get now key).1 = some value ↔
      ∃ stored, { key, value, stored } ∈ c.entries ∧ now - stored < c.lifetime := by
  -- A live entry is young, said without the cache's own test.
  have hlive : ∀ e : CacheEntry α, c.isStale now e = false ↔ now - e.stored < c.lifetime := by
    intro e
    rw [isStale, decide_eq_false_iff_not, Nat.not_le]
  rw [c.value_get_eq_some_iff now key value]
  constructor
  · rintro ⟨e, hfind, hfresh, rfl⟩
    rcases mem_of_find? hfind with ⟨he, rfl⟩
    exact ⟨e.stored, he, (hlive e).mp hfresh⟩
  · rintro ⟨stored, he, hyoung⟩
    exact ⟨_, (h.find?_eq_some_iff key _).mpr ⟨he, rfl⟩, (hlive _).mpr hyoung, rfl⟩

/-- A look reports what a read would return. -/
theorem contains_eq_isSome_get (c : Cache α) (now : Nat) (key : String) :
    c.contains now key = (c.get now key).1.isSome := by
  unfold contains
  -- Both look the key up and then ask for the age of what they found.
  cases hfind : c.find? key with
  | none =>
      rw [get_of_find?_eq_none hfind]
      rfl
  | some e =>
      cases hstale : c.isStale now e with
      | true =>
          rw [get_of_stale hfind hstale]
          simp only [hstale, Bool.not_true, Option.isSome_none]
      | false =>
          rw [get_of_live hfind hstale]
          simp only [hstale, Bool.not_false, Option.isSome_some]

/-- What a cache that started empty has and answers after calls, at a time that
    is not before any of them. -/
structure Lru (capacity : Nat) (lifetime : Duration) (calls : List (Nat × CacheCall α))
    (now : Nat) (c : Cache α) : Prop where
  /-- There are no more entries than there is room for. -/
  bounded : c.size ≤ max 1 capacity
  /-- A read returns what stands under the key and is younger than the
      lifetime. -/
  sound : ∀ key value, (c.get now key).1 = some value →
    ∃ stored, Standing calls { key, value, stored } ∧ now - stored < lifetime
  /-- It does return that while fewer other keys were used since the last use of
      the key than there is room for. -/
  complete : ∀ key value stored, Standing calls { key, value, stored } →
    now - stored < lifetime →
      (usedSince key ((empty capacity lifetime : Cache α).uses calls)).card < max 1 capacity →
        (c.get now key).1 = some value
  /-- A write of a key that is not there, to a cache that is full, removes one
      entry, and all others were used after the last use of that one. -/
  displaced : ∀ key value, c.find? key = none → c.size = max 1 capacity →
    ∃ oldest ∈ c.entries,
      (∀ e ∈ c.entries, e.key ≠ oldest.key →
        e.key ∈ usedSince oldest.key ((empty capacity lifetime : Cache α).uses calls)) ∧
      ∀ e, e ∈ (c.set now key value).entries ↔
        e = { key, value, stored := now } ∨ e ∈ c.entries ∧ e.key ≠ oldest.key
  /-- A look reports whether a read would return something. -/
  looked : ∀ key, c.contains now key = (c.get now key).1.isSome
  /-- It makes no difference to whatever comes later. -/
  unmoved : ∀ key later, (c.after ((now, .contains key) :: later)) = c.after later ∧
    c.uses ((now, .contains key) :: later) = c.uses later

/-- After any calls on a cache that starts empty it holds at most as many
    entries as there is room for, of which a write of a new key removes the
    least recently used one; a read returns exactly what was stored last, as
    long as that is young, has not been removed, and cannot have been pushed
    out by other keys. -/
theorem lru_with_lifetime (capacity : Nat) (lifetime : Duration)
    (calls : List (Nat × CacheCall α)) (now : Nat) (hpast : ∀ call ∈ calls, call.1 ≤ now) :
    Lru capacity lifetime calls now ((empty capacity lifetime).after calls) := by
  have htidy : ((empty capacity lifetime).after calls : Cache α).Tidy :=
    tidy_after capacity lifetime calls
  have hcapacity : ((empty capacity lifetime).after calls : Cache α).capacity = max 1 capacity :=
    capacity_after _ calls
  have hlifetime : ((empty capacity lifetime).after calls : Cache α).lifetime = lifetime :=
    lifetime_after _ calls
  -- A look neither moves an entry nor counts as a use.
  have hunmoved : ∀ (c : Cache α) (key : String) (later : List (Nat × CacheCall α)),
      c.after ((now, .contains key) :: later) = c.after later ∧
        c.uses ((now, .contains key) :: later) = c.uses later :=
    fun _ _ _ => ⟨rfl, List.append_nil _⟩
  by_cases hzero : lifetime = 0
  · -- Nothing is ever stored, and nothing is younger than no lifetime.
    have hempty : ((empty capacity lifetime).after calls : Cache α).entries = [] :=
      entries_of_disabled (bne_eq_false_iff_eq.mpr hzero) rfl calls
    refine ⟨hcapacity ▸ htidy.room, fun key value hget => ?_, fun key value stored _ hyoung => ?_,
      fun key value _ hfull => ?_, fun key => contains_eq_isSome_get _ now key, hunmoved _⟩
    · rcases (htidy.get_eq_some_iff now key value).mp hget with ⟨stored, he, _⟩
      rw [hempty] at he
      exact absurd he List.not_mem_nil
    · rw [hzero] at hyoung
      exact absurd hyoung (Nat.not_lt_zero _)
    · rw [size, hempty, List.length_nil] at hfull
      omega
  · -- The entries follow the calls: each stands, each that must be there is, and they are in the
    -- order of use.
    have h := follows_after capacity hzero calls
    refine ⟨hcapacity ▸ htidy.room, fun key value hget => ?_,
      fun key value stored hstanding hyoung hfew => ?_, fun key value hnew hfull => ?_,
      fun key => contains_eq_isSome_get _ now key, hunmoved _⟩
    · rcases (htidy.get_eq_some_iff now key value).mp hget with ⟨stored, he, hyoung⟩
      exact ⟨stored, h.standing _ he, hlifetime ▸ hyoung⟩
    · refine (htidy.get_eq_some_iff now key value).mpr ⟨stored, ?_, hlifetime.symm ▸ hyoung⟩
      refine h.kept _ now hstanding hpast ?_ (hcapacity.symm ▸ hfew)
      rw [isStale, decide_eq_false_iff_not, Nat.not_le, hlifetime]
      exact hyoung
    · exact h.displaced now value hnew (hfull.trans hcapacity.symm)

/-- Two keys are set, the first is read, and a third one pushes out the
    second. -/
def threeKeys : List (Nat × CacheCall Nat) :=
  [(0, .set "a" 1), (1, .set "b" 2), (2, .get "a"), (3, .set "c" 3)]

/-- The first key is still there in a cache with room for two, because only one
    other key was used after it was read. -/
theorem lru_with_lifetime_three :
    (∀ call ∈ threeKeys, call.1 ≤ 9) ∧
      (((empty 2 10).after threeKeys : Cache Nat).get 9 "a").1 = some 1 ∧
      (((empty 2 10).after threeKeys : Cache Nat).get 9 "b").1 = none := by
  have hpast : ∀ call ∈ threeKeys, call.1 ≤ 9 := by decide
  have h := lru_with_lifetime 2 10 threeKeys 9 hpast
  have hstanding : Standing threeKeys { key := "a", value := 1, stored := 0 } :=
    ⟨[], _, rfl, by decide⟩
  exact ⟨hpast, h.complete "a" 1 0 hstanding (by decide) (by decide), by decide⟩

end Cache

end Multitenancy
