import Multitenancy.Proofs.Outcome
import Multitenancy.Proofs.Registry.Roster
/-!
# Writes Keep a Roster Sound

Each of the three writes takes a sound roster to a sound roster.

A write passes the check on routing keys first. `checkKeys_eq_ok_iff` says
what a passed check means for every other active tenant, and
`Sound.apart_of_checkKeys` turns it into the distance that the invariant asks
for. Creating and updating both rest on that one lemma. Deleting only makes a
tenant inactive, and the invariant asks nothing of inactive ones but their
ids.

## Theorems

* `checkKeys_eq_ok_iff`: The check passes when nobody claims a key.
* `exists_claim_of_checkKeys`: Otherwise its fault names a key and a claimant.
* `mem_replace_iff`: Who is on a roster after a replacement.
* `create_eq_ok_iff`, `update_eq_ok_iff`, `softDelete_eq_ok_iff`: When a write
  succeeds, and with what.
* `Sound.create`, `Sound.update`, `Sound.softDelete`: Each write keeps the
  invariant.
* `Sound.key_shared`: When two active tenants answer to one key.
* `Sound.claims_unique`: The check never asks about a key that two tenants
  claim.
-/

namespace Multitenancy

namespace Roster

-- A comparison of two records would otherwise unfold the stored form of a key
-- whenever their other fields agree.
attribute [local irreducible] foldKey

theorem claims_iff (key own : String) (t : Tenant) :
    claims key own t = true ↔ t.isActive = true ∧ t.id ≠ own ∧
      (t.id = key ∨ t.holds (Text.lowerText key) = true) := by
  simp only [claims, Bool.and_eq_true, bne_iff_ne, ne_eq, Bool.or_eq_true, beq_iff_eq, and_assoc]

theorem claimant?_eq_none_iff (ts : Roster) (key own : String) :
    ts.claimant? key own = none ↔ ∀ t ∈ ts, claims key own t = false := by
  rw [claimant?, Option.map_eq_none_iff, List.find?_eq_none]
  simp only [Bool.not_eq_true]

theorem checkKeys_eq_ok_iff (ts : Roster) (t : Tenant) :
    ts.checkKeys t = .ok () ↔
      ∀ key ∈ t.id :: t.secondaryKeys, ∀ u ∈ ts, claims key t.id u = false := by
  rw [checkKeys, forM_eq_ok_iff]
  refine forall₂_congr fun key _ => ?_
  rw [← claimant?_eq_none_iff]
  cases ts.claimant? key t.id with
  | none => simp only [verdict]
  | some owner => simp only [verdict, reduceCtorEq]

/-- A check that does not pass names a key of the record and an active tenant
    that claims it. -/
theorem exists_claim_of_checkKeys {ts : Roster} {t : Tenant} {f : Fault}
    (h : ts.checkKeys t = .error f) :
    ∃ key ∈ t.id :: t.secondaryKeys, ∃ owner ∈ ts,
      claims key t.id owner = true ∧ f = .keyTaken key owner.id := by
  rcases exists_of_forM_eq_error h with ⟨key, hkey, hverdict⟩
  refine ⟨key, hkey, ?_⟩
  -- The check fails at a key for which the search finds somebody, and that is the owner.
  cases hclaim : ts.find? (claims key t.id) with
  | none =>
      rw [claimant?, hclaim, Option.map_none, verdict] at hverdict
      exact absurd hverdict (by simp only [reduceCtorEq, not_false_eq_true])
  | some owner =>
      rw [claimant?, hclaim, Option.map_some, verdict, Except.error.injEq] at hverdict
      exact ⟨owner, List.mem_of_find?_eq_some hclaim, List.find?_some hclaim, hverdict.symm⟩

/-! ### The shape of a write -/

theorem create_eq_ok_iff (ts ts' : Roster) (t : Tenant) :
    ts.create t = .ok ts' ↔ t.check = .ok () ∧ ts.byId? t.id = none ∧
      ts.checkKeys t = .ok () ∧ ts' = ts ++ [t.normalised] := by
  -- The three checks come in this order, and each of them can only fail or let through.
  rw [create]
  cases hcheck : t.check with
  | error f => simp [bind, Except.bind]
  | ok u =>
      cases hid : ts.byId? t.id with
      | some v => simp [bind, Except.bind]
      | none =>
          cases hkeys : ts.checkKeys t with
          | error f => simp [bind, Except.bind]
          | ok u =>
              simp only [bind, Except.bind, Option.isSome_none, Bool.false_eq_true, if_false,
                pure, Except.pure, Except.ok.injEq, true_and]
              exact eq_comm

/-- A record that may be stored and whose id is free is refused for one of its
    keys. -/
theorem checkKeys_eq_error_of_create {ts : Roster} {t : Tenant} {f : Fault}
    (hcheck : t.check = .ok ()) (hid : ts.byId? t.id = none) (h : ts.create t = .error f) :
    ts.checkKeys t = .error f := by
  -- With the first two checks passed, a creation is the check of the keys and no more.
  have hcreate : ts.create t = (ts.checkKeys t).map fun _ => ts ++ [t.normalised] := by
    rw [create, hcheck, hid]
    simp only [bind, Except.bind, Option.isSome_none, Bool.false_eq_true, if_false]
    cases ts.checkKeys t with
    | error g => rfl
    | ok u => rfl
  rw [hcreate] at h
  cases hkeys : ts.checkKeys t with
  | error g =>
      rw [hkeys, Except.map, Except.error.injEq] at h
      rw [h]
  | ok u =>
      rw [hkeys, Except.map] at h
      exact absurd h (by simp only [reduceCtorEq, not_false_eq_true])

theorem update_eq_ok_iff (ts ts' : Roster) (t : Tenant) :
    ts.update t = .ok ts' ↔ ∃ existing, ts.activeById? t.id = some existing ∧
      ts.checkKeys t = .ok () ∧ ts' = ts.replace t.id (successor existing t) := by
  rw [update]
  -- An unknown id and a taken key are the two ways to fail.
  cases hid : ts.activeById? t.id with
  | none => simp
  | some existing =>
      cases hkeys : ts.checkKeys t with
      | error f => simp [bind, Except.bind]
      | ok u =>
          simp only [bind, Except.bind, pure, Except.pure, Except.ok.injEq, Option.some.injEq,
            exists_eq_left', true_and]
          exact eq_comm

theorem softDelete_eq_ok_iff (ts ts' : Roster) (id : String) (now : Timestamp) :
    ts.softDelete id now = .ok ts' ↔ ∃ existing, ts.byId? id = some existing ∧
      ts' = if existing.isActive then ts.replace id (buried existing now) else ts := by
  rw [softDelete]
  cases hid : ts.byId? id with
  | none => simp
  | some existing =>
      simp only [Option.some.injEq, exists_eq_left']
      -- A record that is deleted already is left as it is, without a fault.
      by_cases hactive : existing.isActive = true
      · rw [if_pos hactive, if_pos hactive, Except.ok.injEq]
        exact eq_comm
      · rw [if_neg hactive, if_neg hactive, Except.ok.injEq]
        exact eq_comm

theorem mem_replace_iff (ts : Roster) (id : String) (new t : Tenant) :
    t ∈ ts.replace id new ↔
      (t ∈ ts ∧ t.id ≠ id) ∨ (t = new ∧ ∃ u ∈ ts, u.id = id) := by
  rw [replace, List.mem_map]
  constructor
  · -- A member of the result was there with another id, or is the new record in the place of one
    -- that had this id.
    rintro ⟨u, hu, rfl⟩
    by_cases hid : u.id = id
    · rw [if_pos (by simpa only [beq_iff_eq] using hid)]
      exact Or.inr ⟨rfl, u, hu, hid⟩
    · rw [if_neg (by simpa only [beq_iff_eq] using hid)]
      exact Or.inl ⟨hu, hid⟩
  · rintro (⟨ht, hid⟩ | ⟨rfl, u, hu, hid⟩)
    · exact ⟨t, ht, if_neg (by simpa only [beq_iff_eq] using hid)⟩
    · exact ⟨u, hu, if_pos (by simpa only [beq_iff_eq] using hid)⟩

/-- A replacement by a record with the same id leaves the ids as they are. -/
theorem map_id_replace (ts : Roster) {id : String} {new : Tenant} (hid : new.id = id) :
    (ts.replace id new).map Tenant.id = ts.map Tenant.id := by
  rw [replace, List.map_map]
  refine List.map_congr_left fun t _ => ?_
  by_cases ht : t.id = id
  · simp only [Function.comp_apply, ht, beq_self_eq_true, if_true, hid]
  · simp only [Function.comp_apply, beq_iff_eq, ht, if_false]

/-! ### Each write keeps the invariant -/

/-- What a passed check means: the record as it will be stored is apart from
    every other active tenant. -/
theorem Sound.apart_of_checkKeys {ts : Roster} (h : ts.Sound) {t : Tenant}
    (hkeys : ts.checkKeys t = .ok ()) {u : Tenant} (hu : u ∈ ts) (hactive : u.isActive = true)
    (hid : u.id ≠ t.id) : t.normalised.Apart u := by
  -- Nobody else answers to a key of the record, be it the id or another.
  have hfree : ∀ key ∈ t.id :: t.secondaryKeys,
      u.id ≠ key ∧ u.holds (Text.lowerText key) = false := by
    intro key hkey
    have hclaim := (checkKeys_eq_ok_iff ts t).mp hkeys key hkey u hu
    rw [← Bool.not_eq_true, claims_iff] at hclaim
    refine ⟨fun he => hclaim ⟨hactive, hid, Or.inl he⟩, ?_⟩
    rw [← Bool.not_eq_true]
    exact fun hh => hclaim ⟨hactive, hid, Or.inr hh⟩
  -- A key that the stored record holds is one the record brings, and lowering
  -- leaves it as it is.
  have hstored : ∀ key, t.normalised.holds key = true →
      u.id ≠ key ∧ u.holds key = false := by
    intro key hkey
    have hmem : key ∈ t.secondaryKeys := (t.mem_secondaryKeys_iff key).mpr hkey
    have hlow : Text.lowerText key = key :=
      Tenant.lowerText_of_holds t.normalised_normalised hkey
    have hkeyfree := hfree key (List.mem_cons_of_mem _ hmem)
    rw [hlow] at hkeyfree
    exact hkeyfree
  refine ⟨fun key ht huk => ?_, ?_, ?_⟩
  · rw [(hstored key ht).2] at huk
    exact absurd huk (by simp only [Bool.false_eq_true, not_false_eq_true])
  · rw [← Bool.not_eq_true]
    exact fun ht => (hstored u.id ht).1 rfl
  · rw [← Bool.not_eq_true]
    intro huk
    -- A key that `u` holds is lowered, so the check of the id has seen it.
    have hlow : Text.lowerText t.id = t.id := Tenant.lowerText_of_holds (h.folded u hu) huk
    have hidfree := (hfree t.id List.mem_cons_self).2
    rw [hlow] at hidfree
    rw [show t.normalised.id = t.id from rfl, hidfree] at huk
    exact Bool.false_ne_true huk

theorem Sound.nil : Sound [] where
  ids := List.nodup_nil
  checked := fun _ h => absurd h List.not_mem_nil
  folded := fun _ h => absurd h List.not_mem_nil
  apart := fun _ h => absurd h List.not_mem_nil

theorem Sound.create {ts ts' : Roster} (h : ts.Sound) {t : Tenant}
    (hc : ts.create t = .ok ts') : ts'.Sound := by
  rcases (create_eq_ok_iff ts ts' t).mp hc with ⟨hcheck, hfresh, hkeys, rfl⟩
  -- The id is fresh even among the deleted.
  have hnew : ∀ u ∈ ts, u.id ≠ t.id := (byId?_eq_none_iff ts t.id).mp hfresh
  refine ⟨?_, ?_, ?_, ?_⟩
  · rw [List.map_append, List.nodup_append]
    refine ⟨h.ids, List.nodup_singleton _, fun id hid other hother => ?_⟩
    rcases List.mem_map.mp hid with ⟨u, hu, rfl⟩
    rw [List.map_singleton, List.mem_singleton] at hother
    rw [hother]
    exact hnew u hu
  · intro u hu
    rcases List.mem_append.mp hu with hu | hu
    · exact h.checked u hu
    · rw [List.mem_singleton.mp hu, Tenant.check_congr (rfl : t.normalised.id = t.id)]
      exact hcheck
  · intro u hu
    rcases List.mem_append.mp hu with hu | hu
    · exact h.folded u hu
    · rw [List.mem_singleton.mp hu, Tenant.normalised_normalised]
  · intro u hu v hv hua hva hne
    -- Either of the two may be the new record, or neither.
    rcases List.mem_append.mp hu with hu | hu <;> rcases List.mem_append.mp hv with hv | hv
    · exact h.apart u hu v hv hua hva hne
    · rw [List.mem_singleton.mp hv]
      exact (h.apart_of_checkKeys hkeys hu hua (hnew u hu)).symm
    · rw [List.mem_singleton.mp hu]
      exact h.apart_of_checkKeys hkeys hv hva (hnew v hv)
    · exact absurd (by rw [List.mem_singleton.mp hu, List.mem_singleton.mp hv]) hne

/-- A replacement keeps the invariant when the new record is fit to be stored
    and, if it is active, apart from the other active tenants. -/
theorem Sound.replace {ts : Roster} (h : ts.Sound) {id : String} {new : Tenant}
    (hid : new.id = id) (hcheck : new.check = .ok ()) (hfold : new.normalised = new)
    (hapart : new.isActive = true → ∀ u ∈ ts, u.isActive = true → u.id ≠ id → new.Apart u) :
    (ts.replace id new).Sound := by
  refine ⟨?_, ?_, ?_, ?_⟩
  · rw [map_id_replace ts hid]
    exact h.ids
  · intro t ht
    rcases (mem_replace_iff ts id new t).mp ht with ⟨ht, _⟩ | ⟨rfl, _⟩
    · exact h.checked t ht
    · exact hcheck
  · intro t ht
    rcases (mem_replace_iff ts id new t).mp ht with ⟨ht, _⟩ | ⟨rfl, _⟩
    · exact h.folded t ht
    · exact hfold
  · intro t ht u hu hta hua hne
    -- Either of the two may be the new record; both cannot be.
    rcases (mem_replace_iff ts id new t).mp ht with ⟨ht, htid⟩ | ⟨htnew, _⟩ <;>
      rcases (mem_replace_iff ts id new u).mp hu with ⟨hu, huid⟩ | ⟨hunew, _⟩
    · exact h.apart t ht u hu hta hua hne
    · rw [hunew] at hua ⊢
      exact (hapart hua t ht hta htid).symm
    · rw [htnew] at hta ⊢
      exact hapart hta u hu hua huid
    · exact absurd (by rw [htnew, hunew]) hne

theorem Sound.update {ts ts' : Roster} (h : ts.Sound) {t : Tenant}
    (hc : ts.update t = .ok ts') : ts'.Sound := by
  rcases (update_eq_ok_iff ts ts' t).mp hc with ⟨existing, hex, hkeys, rfl⟩
  rcases mem_of_activeById? hex with ⟨hmem, hid, _⟩
  -- Nothing is asked of the keys beyond what the check has found out.
  refine h.replace rfl ?_ ?_ fun _ u hu hua huid => ?_
  · -- The id is that of a record that passed the check before.
    rw [Tenant.check_congr (show (successor existing t).id = existing.id from hid.symm)]
    exact h.checked existing hmem
  · simp only [successor, Tenant.normalised, foldKey_foldKey]
  · exact h.apart_of_checkKeys hkeys hu hua huid

theorem Sound.softDelete {ts ts' : Roster} (h : ts.Sound) {id : String} {now : Timestamp}
    (hc : ts.softDelete id now = .ok ts') : ts'.Sound := by
  rcases (softDelete_eq_ok_iff ts ts' id now).mp hc with ⟨existing, hex, rfl⟩
  rcases mem_of_byId? hex with ⟨hmem, hid⟩
  -- A buried record keeps its id and its keys, and is not active any more.
  split
  · refine h.replace hid ?_ ?_ fun hactive => ?_
    · rw [Tenant.check_congr (show (buried existing now).id = existing.id from rfl)]
      exact h.checked existing hmem
    · have hfold := (existing.normalised_eq_self_iff).mp (h.folded existing hmem)
      exact (Tenant.normalised_eq_self_iff _).mpr hfold
    · -- Nothing is asked of a deleted tenant.
      exact absurd hactive (by simp only [buried, Tenant.isActive]; decide)
  · exact h

/-! ### Keys with two tenants -/

/-- Two active tenants answer to one key only if it is the id of one of them,
    the other holds its other form, and the two forms differ. `form` is what
    the search compares domains and subdomains with. -/
theorem Sound.key_shared {ts : Roster} (h : ts.Sound) {t u : Tenant} (ht : t ∈ ts) (hu : u ∈ ts)
    (hta : t.isActive = true) (hua : u.isActive = true) (hne : t.id ≠ u.id) {key form : String}
    (htk : t.id = key ∨ t.holds form = true) (huk : u.id = key ∨ u.holds form = true) :
    form ≠ key ∧ ((t.id = key ∧ u.holds form = true) ∨ (u.id = key ∧ t.holds form = true)) := by
  rcases h.apart t ht u hu hta hua hne with ⟨hboth, htu, hut⟩
  -- Each answers by its id or by a stored key. Two ids cannot be one, and two
  -- stored keys cannot either; so one answers by its id and the other does not.
  rcases htk with htid | htf <;> rcases huk with huid | huf
  · exact absurd (htid.trans huid.symm) hne
  · refine ⟨fun hform => ?_, Or.inl ⟨htid, huf⟩⟩
    rw [hform, ← htid, hut] at huf
    exact absurd huf Bool.false_ne_true
  · refine ⟨fun hform => ?_, Or.inr ⟨huid, htf⟩⟩
    rw [hform, ← huid, htu] at htf
    exact absurd htf Bool.false_ne_true
  · exact absurd huf (hboth form htf)

/-- A key that the check asks about is claimed by one tenant at most: it is
    either the id of the record, which the claimant must not have, or a stored
    key, which is its own lowered form. -/
theorem Sound.claims_unique {ts : Roster} (h : ts.Sound) {key own : String}
    (hkey : key = own ∨ Text.lowerText key = key) {t u : Tenant} (ht : t ∈ ts) (hu : u ∈ ts)
    (htc : claims key own t = true) (huc : claims key own u = true) : t = u := by
  rcases (claims_iff key own t).mp htc with ⟨hta, htown, htk⟩
  rcases (claims_iff key own u).mp huc with ⟨hua, huown, huk⟩
  -- Otherwise the key would be shared, as the id of one of the two.
  by_contra hdiff
  have hne : t.id ≠ u.id := fun hid => hdiff (h.eq_of_id ht hu hid)
  rcases h.key_shared ht hu hta hua hne htk huk with ⟨hform, hid⟩
  rcases hkey with hown | hlow
  · rcases hid with ⟨htid, _⟩ | ⟨huid, _⟩
    · exact htown (htid.trans hown)
    · exact huown (huid.trans hown)
  · exact hform hlow

/-- The keys of a record are keys as `claims_unique` asks for them, and none
    of them is empty once the id has passed its check. -/
theorem key_of_record {t : Tenant} {key : String} (hkey : key ∈ t.id :: t.secondaryKeys) :
    key = t.id ∨ Text.lowerText key = key := by
  rcases List.mem_cons.mp hkey with hid | hsec
  · exact Or.inl hid
  · have hheld := (t.mem_secondaryKeys_iff key).mp hsec
    exact Or.inr (Tenant.lowerText_of_holds t.normalised_normalised hheld)

theorem key_ne_empty {t : Tenant} (hid : t.id ≠ "") {key : String}
    (hkey : key ∈ t.id :: t.secondaryKeys) : key ≠ "" := by
  rcases List.mem_cons.mp hkey with rfl | hsec
  · exact hid
  · exact ((Tenant.holds_iff _ _).mp ((t.mem_secondaryKeys_iff key).mp hsec)).1

end Roster

end Multitenancy
