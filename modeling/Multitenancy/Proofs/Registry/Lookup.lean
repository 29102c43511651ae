import Multitenancy.Proofs.Registry.Invariant
/-!
# What a Look-Up Finds

The answer to a routing key, in terms of who is on the roster.

A look-up asks three searches one after the other. On a sound roster the order
of the roster does not matter: the tenant whose id is the key comes first, and
without one there is at most one tenant that holds the folded key. So the
answer depends only on the active tenants that answer to the key, and a write
that adds and removes none of those cannot change it.

## Main definitions

* `Tenant.answersTo`: A look-up of the key may find the tenant.

## Theorems

* `Sound.find_eq_ok_iff`: Which tenant is found.
* `find_eq_error_iff`: When none is.
* `Sound.find_congr`: Rosters on which the same tenants answer to a key give
  the same answer.
* `Sound.find_append`, `findById_append`: A record that is appended changes no
  answer but its own.
* `Sound.findById_create`, `Sound.findById_update`: What is read of a record
  that was written.
-/

namespace Multitenancy

namespace Tenant

/-- Whether a look-up of the key may find the tenant: the key is its id, or
    its domain or subdomain once the key is folded. -/
def answersTo (t : Tenant) (key : String) : Bool :=
  t.isActive && (t.id == key || t.holds (foldKey key))

theorem answersTo_iff (t : Tenant) (key : String) :
    t.answersTo key = true ↔
      t.isActive = true ∧ (t.id = key ∨ t.holds (foldKey key) = true) := by
  simp only [answersTo, Bool.and_eq_true, Bool.or_eq_true, beq_iff_eq]

end Tenant

namespace Roster

variable {ts : Roster}

/-- The search by id and the two searches by a field, as one answer. -/
def lookup? (ts : Roster) (key : String) : Option Tenant :=
  (ts.activeById? key).or
    ((ts.holder? Tenant.domain (foldKey key)).or (ts.holder? Tenant.subdomain (foldKey key)))

theorem find_eq_lookup? (ts : Roster) (key : String) :
    ts.find key = match ts.lookup? key with
      | some t => .ok t
      | none => .error (.unknownTenant key) := rfl

/-- Each of the three searches finds only who answers to the key. -/
theorem answersTo_of_lookup? {key : String} {t : Tenant} (h : ts.lookup? key = some t) :
    t ∈ ts ∧ t.answersTo key = true := by
  -- One of the three searches has found the tenant.
  rw [lookup?, Option.or_eq_some_iff, Option.or_eq_some_iff] at h
  rw [Tenant.answersTo_iff]
  rcases h with hid | ⟨_, hd | ⟨_, hsub⟩⟩
  · rcases mem_of_activeById? hid with ⟨hmem, hkey, hactive⟩
    exact ⟨hmem, hactive, Or.inl hkey⟩
  · rcases mem_of_holder? hd with ⟨hmem, hactive, hkey, hne⟩
    exact ⟨hmem, hactive, Or.inr ((t.holds_iff _).mpr ⟨hne, Or.inl hkey⟩)⟩
  · rcases mem_of_holder? hsub with ⟨hmem, hactive, hkey, hne⟩
    exact ⟨hmem, hactive, Or.inr ((t.holds_iff _).mpr ⟨hne, Or.inr hkey⟩)⟩

/-- Nobody is found only if nobody answers. -/
theorem Sound.lookup?_eq_none_iff (hs : ts.Sound) (key : String) :
    ts.lookup? key = none ↔ ∀ t ∈ ts, t.answersTo key = false := by
  constructor
  · intro h t ht
    rw [← Bool.not_eq_true, Tenant.answersTo_iff]
    -- Each of the three searches has found nobody, and to answer is to be found by one of them.
    rw [lookup?, Option.or_eq_none_iff, Option.or_eq_none_iff] at h
    rcases h with ⟨hid, hd, hsub⟩
    rintro ⟨hactive, hkey | hheld⟩
    · rw [(hs.activeById?_eq_some_iff key t).mpr ⟨ht, hkey, hactive⟩] at hid
      exact absurd hid (Option.some_ne_none t)
    · rcases (t.holds_iff _).mp hheld with ⟨hne, hkey | hkey⟩
      · rw [(hs.holder?_eq_some_iff isKeyField_domain _ t).mpr ⟨ht, hactive, hkey, hne⟩] at hd
        exact absurd hd (Option.some_ne_none t)
      · rw [(hs.holder?_eq_some_iff isKeyField_subdomain _ t).mpr ⟨ht, hactive, hkey, hne⟩] at hsub
        exact absurd hsub (Option.some_ne_none t)
  · -- Who is found answers, and nobody does.
    intro h
    rw [Option.eq_none_iff_forall_ne_some]
    intro t ht
    rcases answersTo_of_lookup? ht with ⟨hmem, hans⟩
    rw [h t hmem] at hans
    exact Bool.false_ne_true hans

/-- Who is found: the tenant with the key for an id, and without one the
    tenant that holds the folded key. -/
theorem Sound.lookup?_eq_some_iff (hs : ts.Sound) (key : String) (t : Tenant) :
    ts.lookup? key = some t ↔
      t ∈ ts ∧ t.answersTo key = true ∧
        (t.id = key ∨ ∀ u ∈ ts, u.isActive = true → u.id ≠ key) := by
  constructor
  · intro h
    rcases answersTo_of_lookup? h with ⟨hmem, hans⟩
    refine ⟨hmem, hans, ?_⟩
    rw [lookup?, Option.or_eq_some_iff] at h
    rcases h with hid | ⟨hnone, _⟩
    · exact Or.inl (mem_of_activeById? hid).2.1
    · refine Or.inr fun u hu hua huid => ?_
      rw [(hs.activeById?_eq_some_iff key u).mpr ⟨hu, huid, hua⟩] at hnone
      exact Option.some_ne_none u hnone
  · rintro ⟨hmem, hans, hfirst⟩
    rcases (t.answersTo_iff key).mp hans with ⟨hactive, hkey⟩
    cases hfound : ts.lookup? key with
    | none =>
        rw [(hs.lookup?_eq_none_iff key).mp hfound t hmem] at hans
        exact absurd hans Bool.false_ne_true
    | some u =>
        rcases answersTo_of_lookup? hfound with ⟨hu, huans⟩
        rcases (u.answersTo_iff key).mp huans with ⟨hua, hukey⟩
        rw [Option.some.injEq]
        by_contra hdiff
        have hne : u.id ≠ t.id := fun hid => hdiff (hs.eq_of_id hu hmem hid)
        -- Of two that answer, one has the key for an id, and it is the one found.
        rw [lookup?, Option.or_eq_some_iff] at hfound
        rcases hfirst with htid | hnobody
        · rcases hfound with hid | ⟨hnone, _⟩
          · exact hne ((mem_of_activeById? hid).2.1.trans htid.symm)
          · rw [(hs.activeById?_eq_some_iff key t).mpr ⟨hmem, htid, hactive⟩] at hnone
            exact Option.some_ne_none t hnone
        · rcases (hs.key_shared hu hmem hua hactive hne hukey hkey).2 with ⟨huid, _⟩ | ⟨htid, _⟩
          · exact hnobody u hu hua huid
          · exact hnobody t hmem hactive htid

theorem Sound.find_eq_ok_iff (hs : ts.Sound) (key : String) (t : Tenant) :
    ts.find key = .ok t ↔
      t ∈ ts ∧ t.answersTo key = true ∧
        (t.id = key ∨ ∀ u ∈ ts, u.isActive = true → u.id ≠ key) := by
  rw [← hs.lookup?_eq_some_iff, find_eq_lookup?]
  cases ts.lookup? key with
  | none => simp only [reduceCtorEq]
  | some u => simp only [Except.ok.injEq, Option.some.injEq]

theorem Sound.find_eq_error_iff (hs : ts.Sound) (key : String) (f : Fault) :
    ts.find key = .error f ↔
      f = .unknownTenant key ∧ ∀ t ∈ ts, t.answersTo key = false := by
  rw [← hs.lookup?_eq_none_iff, find_eq_lookup?]
  cases ts.lookup? key with
  | none =>
      simp only [Except.error.injEq, and_true]
      exact eq_comm
  | some u => simp only [reduceCtorEq, and_false]

/-- The answer depends only on who answers. -/
theorem Sound.find_congr {us : Roster} (hs : ts.Sound) (hs' : us.Sound) {key : String}
    (h : ∀ t, t.answersTo key = true → (t ∈ ts ↔ t ∈ us)) : ts.find key = us.find key := by
  cases hfound : us.find key with
  | error f =>
      rcases (hs'.find_eq_error_iff key f).mp hfound with ⟨hf, hnone⟩
      refine (hs.find_eq_error_iff key f).mpr ⟨hf, fun t ht => ?_⟩
      by_contra hans
      rw [Bool.not_eq_false] at hans
      rw [hnone t ((h t hans).mp ht)] at hans
      exact Bool.false_ne_true hans
  | ok t =>
      -- A tenant that has the key for an id answers to it, so it is on both rosters
      -- or on neither.
      rcases (hs'.find_eq_ok_iff key t).mp hfound with ⟨hmem, hans, hfirst⟩
      refine (hs.find_eq_ok_iff key t).mpr ⟨(h t hans).mpr hmem, hans, ?_⟩
      rcases hfirst with htid | hnobody
      · exact Or.inl htid
      · refine Or.inr fun u hu hua huid => hnobody u ?_ hua huid
        exact (h u ((u.answersTo_iff key).mpr ⟨hua, Or.inl huid⟩)).mp hu

/-- A record that is appended adds nobody who answers to a key to which it does
    not answer itself. -/
theorem mem_append_iff_of_answersTo {new : Tenant} {key : String}
    (hnew : new.answersTo key = false) {t : Tenant} (ht : t.answersTo key = true) :
    t ∈ ts ++ [new] ↔ t ∈ ts := by
  rw [List.mem_append, List.mem_singleton]
  refine ⟨fun hmem => hmem.resolve_right fun heq => ?_, Or.inl⟩
  rw [heq, hnew] at ht
  exact Bool.false_ne_true ht

theorem Sound.find_append (hs : ts.Sound) {new : Tenant} (hs' : Roster.Sound (ts ++ [new]))
    {key : String} (hnew : new.answersTo key = false) :
    Roster.find (ts ++ [new]) key = ts.find key :=
  hs'.find_congr hs fun _ ht => mem_append_iff_of_answersTo hnew ht

theorem findById_append {new : Tenant} {id : String} (hne : id ≠ new.id) :
    Roster.findById (ts ++ [new]) id = ts.findById id := by
  have hnew : [new].find? (fun t => t.id == id) = none := by
    rw [List.find?_eq_none]
    intro t ht
    rw [List.mem_singleton.mp ht, beq_iff_eq]
    exact Ne.symm hne
  rw [findById, findById, byId?, byId?, List.find?_append, hnew, Option.or_none]

/-- What is read of a tenant that was created: the record in its stored form. -/
theorem Sound.findById_create (hs : ts.Sound) {us : Roster} {new : Tenant}
    (hc : ts.create new = .ok us) : us.findById new.id = .ok new.normalised := by
  rcases (create_eq_ok_iff ts us new).mp hc with ⟨_, _, _, hus⟩
  have hmem : new.normalised ∈ us := by
    rw [hus]
    exact List.mem_append_right ts List.mem_cons_self
  rw [findById, ((hs.create hc).byId?_eq_some_iff new.id new.normalised).mpr ⟨hmem, rfl⟩]

/-- What is read of a tenant that was updated: the record that took its place. -/
theorem Sound.findById_update (hs : ts.Sound) {us : Roster} {t new : Tenant} (ht : t ∈ ts)
    (hid : new.id = t.id) (hc : ts.update new = .ok us) :
    us.findById t.id = .ok (successor t new) := by
  rcases (update_eq_ok_iff ts us new).mp hc with ⟨existing, hex, _, hus⟩
  -- The tenant that is replaced is the one with the id.
  rcases mem_of_activeById? hex with ⟨hmem, hexid, _⟩
  have hsame : existing = t := hs.eq_of_id hmem ht (hexid.trans hid)
  subst hsame
  have hnew : successor existing new ∈ us := by
    rw [hus]
    exact (mem_replace_iff ts new.id _ _).mpr (Or.inr ⟨rfl, existing, hmem, hexid⟩)
  rw [findById, ((hs.update hc).byId?_eq_some_iff existing.id _).mpr ⟨hnew, hid⟩]

/-- A blank key has no answer: ids are not blank, and an empty field is no
    key. -/
theorem Sound.not_answersTo_blank (hs : ts.Sound) {key : String}
    (hblank : Text.blankText key = true) {t : Tenant} (ht : t ∈ ts) : t.answersTo key = false := by
  rw [← Bool.not_eq_true, Tenant.answersTo_iff]
  rintro ⟨_, hkey | hheld⟩
  · rw [← hkey, Tenant.id_not_blank (hs.checked t ht)] at hblank
    exact Bool.false_ne_true hblank
  · exact ((t.holds_iff _).mp hheld).1 ((foldKey_eq_empty_iff key).mpr hblank)

end Roster

end Multitenancy
