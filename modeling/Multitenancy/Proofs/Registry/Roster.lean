import Mathlib.Data.List.Nodup
import Multitenancy.Proofs.Tenant.Check
/-!
# The Roster

What a registry is, whichever way it is kept: the list of its tenants in the
order of their creation, deleted ones included. Looking up is a search of the
list, creating appends to it, and updating and deleting replace one of its
members. There are no indexes that could go stale and no rows to decode.

A registry in memory and a registry in a database are each shown to keep a
roster, so what is true of the roster is true of both, and nothing has to be
proved of the two side by side.

`Sound` is what every roster that was built by the operations satisfies. Its
clauses on routing keys are what the check before each write establishes:
whoever is written shares no domain or subdomain with anybody else, holds
nobody else's id, and has an id that nobody else holds. They speak of exact
equality of stored forms. Nothing is said of an id that another tenant holds
in lower case, because the check does not look for it.

## Main definitions

* `Tenant.holds`: A key is the tenant's domain or subdomain.
* `Tenant.Apart`: Two tenants have no stored key in common.
* `Tenant.SameKeys`: Two records have the same keys.
* `Roster`: The tenants in the order of their creation.
* `Roster.find`, `Roster.claimant?`: The searches.
* `Roster.create`, `Roster.update`, `Roster.softDelete`: The writes.
* `Roster.Sound`: The invariant.

## Theorems

* `mem_secondaryKeys_iff`: The keys that a record brings are those it holds
  once stored.
* `lowerText_of_holds`: A key that a stored tenant holds is lowered.
* `Sound.byId?_eq_some_iff`, `Sound.activeById?_eq_some_iff`,
  `Sound.holder?_eq_some_iff`: On a sound roster a search finds the one tenant
  that it is for.
-/

namespace Multitenancy

namespace Tenant

/-- Whether a key is the tenant's domain or subdomain. An empty field is no
    key. -/
def holds (t : Tenant) (key : String) : Bool :=
  !key.isEmpty && (t.domain == key || t.subdomain == key)

theorem holds_iff (t : Tenant) (key : String) :
    t.holds key = true ↔ key ≠ "" ∧ (t.domain = key ∨ t.subdomain = key) := by
  simp only [holds, Bool.and_eq_true, Bool.not_eq_true', Bool.or_eq_true, beq_iff_eq,
    String.isEmpty_eq_false_iff, ne_eq]

/-- Two tenants have no stored key in common: no domain or subdomain of one is
    one of the other, or the id of the other. -/
def Apart (t u : Tenant) : Prop :=
  (∀ key, t.holds key = true → u.holds key = true → False) ∧
    t.holds u.id = false ∧ u.holds t.id = false

theorem Apart.symm {t u : Tenant} (h : t.Apart u) : u.Apart t :=
  ⟨fun key hu ht => h.1 key ht hu, h.2.2, h.2.1⟩

/-- Two records have the same keys. -/
structure SameKeys (t u : Tenant) : Prop where
  id : t.id = u.id
  domain : t.domain = u.domain
  subdomain : t.subdomain = u.subdomain

@[simp] theorem normalised_normalised (t : Tenant) : t.normalised.normalised = t.normalised := by
  simp only [normalised, foldKey_foldKey]

theorem normalised_eq_self_iff (t : Tenant) :
    t.normalised = t ↔ foldKey t.domain = t.domain ∧ foldKey t.subdomain = t.subdomain := by
  constructor
  · intro h
    exact ⟨congrArg domain h, congrArg subdomain h⟩
  · rintro ⟨hd, hs⟩
    rw [normalised, hd, hs]

/-- The keys that a record brings are the ones it holds once it is stored. -/
theorem mem_secondaryKeys_iff (t : Tenant) (key : String) :
    key ∈ t.secondaryKeys ↔ t.normalised.holds key = true := by
  rw [holds_iff, secondaryKeys, List.mem_filter]
  simp only [List.mem_cons, List.not_mem_nil, or_false, normalised, Bool.not_eq_true',
    String.isEmpty_eq_false_iff, ne_eq]
  -- To hold a key is to have it, folded, for a domain or a subdomain, and not blank.
  constructor
  · rintro ⟨h | h, hne⟩
    · exact ⟨hne, Or.inl h.symm⟩
    · exact ⟨hne, Or.inr h.symm⟩
  · rintro ⟨hne, h | h⟩
    · exact ⟨Or.inl h.symm, hne⟩
    · exact ⟨Or.inr h.symm, hne⟩

theorem mem_routingKeys_iff (t : Tenant) (key : String) :
    key ∈ t.routingKeys ↔ key ≠ "" ∧ (key = t.id ∨ key = t.domain ∨ key = t.subdomain) := by
  rw [routingKeys, List.mem_filter, Bool.not_eq_true', String.isEmpty_eq_false_iff, and_comm]
  simp only [ne_eq, List.mem_cons, List.not_mem_nil, or_false]

theorem secondaryKeys_normalised (t : Tenant) : t.normalised.secondaryKeys = t.secondaryKeys := by
  simp only [secondaryKeys, normalised, foldKey_foldKey]

/-- A key that a stored tenant holds is folded. -/
theorem foldKey_of_holds {t : Tenant} (hfold : t.normalised = t) {key : String}
    (h : t.holds key = true) : foldKey key = key := by
  rw [← hfold, holds_iff] at h
  rcases h with ⟨_, hd | hs⟩
  · rw [← hd]
    exact foldKey_foldKey t.domain
  · rw [← hs]
    exact foldKey_foldKey t.subdomain

theorem lowerText_of_holds {t : Tenant} (hfold : t.normalised = t) {key : String}
    (h : t.holds key = true) : Text.lowerText key = key := by
  rw [← foldKey_of_holds hfold h, lowerText_foldKey]

end Tenant

/-- The tenants of a registry in the order of their creation, deleted ones
    included. -/
abbrev Roster := List Tenant

namespace Roster

/-- The tenant with an id, deleted or not. -/
def byId? (ts : Roster) (id : String) : Option Tenant :=
  ts.find? fun t => t.id == id

/-- The active tenant with an id. -/
def activeById? (ts : Roster) (id : String) : Option Tenant :=
  (ts.byId? id).filter Tenant.isActive

/-- The active tenant that has a key in one of its two optional fields. -/
def holder? (ts : Roster) (field : Tenant → String) (key : String) : Option Tenant :=
  if key.isEmpty then none else ts.find? fun t => t.isActive && field t == key

/-- The active tenant that answers to a key. -/
def find (ts : Roster) (key : String) : Except Fault Tenant :=
  match (ts.activeById? key).or
      ((ts.holder? Tenant.domain (foldKey key)).or (ts.holder? Tenant.subdomain (foldKey key))) with
  | some t => .ok t
  | none => .error (.unknownTenant key)

/-- The tenant with an id, or the fault that there is none. -/
def findById (ts : Roster) (id : String) : Except Fault Tenant :=
  match ts.byId? id with
  | some t => .ok t
  | none => .error (.unknownTenant id)

/-- The active tenants. -/
def active (ts : Roster) : List Tenant :=
  ts.filter Tenant.isActive

/-- Whether a tenant claims a key against a record with the id `own`. -/
def claims (key own : String) (t : Tenant) : Bool :=
  t.isActive && t.id != own && (t.id == key || t.holds (Text.lowerText key))

/-- The id of an active tenant other than `own` that answers to a key. -/
def claimant? (ts : Roster) (key own : String) : Option String :=
  (ts.find? (claims key own)).map Tenant.id

/-- What a claimant of a key means for the record that brings the key. -/
def verdict (key : String) : Option String → Except Fault Unit
  | some owner => .error (.keyTaken key owner)
  | none => .ok ()

/-- Whether every key of a record is free or its own. The id comes first. -/
def checkKeys (ts : Roster) (t : Tenant) : Except Fault Unit :=
  (t.id :: t.secondaryKeys).forM fun key => verdict key (ts.claimant? key t.id)

/-- Put a record in the place of the one with an id. -/
def replace (ts : Roster) (id : String) (new : Tenant) : Roster :=
  ts.map fun t => if t.id == id then new else t

/-- Add a tenant. -/
def create (ts : Roster) (t : Tenant) : Except Fault Roster := do
  t.check
  if (ts.byId? t.id).isSome then .error (.idTaken t.id)
  ts.checkKeys t
  return ts ++ [t.normalised]

/-- The record that takes the place of an active tenant: its status and the
    time of its creation stay. -/
def successor (existing t : Tenant) : Tenant :=
  { t.normalised with status := existing.status, createdAt := existing.createdAt }

/-- Replace an active tenant. -/
def update (ts : Roster) (t : Tenant) : Except Fault Roster :=
  match ts.activeById? t.id with
  | none => .error (.unknownTenant t.id)
  | some existing => do
    ts.checkKeys t
    return ts.replace t.id (successor existing t)

/-- A tenant after it was deleted. -/
def buried (t : Tenant) (now : Timestamp) : Tenant :=
  { t with status := .deleted, updatedAt := now }

/-- Delete a tenant. Its record stays; deleting it again does nothing. -/
def softDelete (ts : Roster) (id : String) (now : Timestamp) : Except Fault Roster :=
  match ts.byId? id with
  | none => .error (.unknownTenant id)
  | some existing =>
    if existing.isActive then .ok (ts.replace id (buried existing now)) else .ok ts

/-- What holds of every roster that the operations have built. -/
structure Sound (ts : Roster) : Prop where
  /-- No id is used twice, not even by deleted tenants. -/
  ids : (ts.map Tenant.id).Nodup
  checked : ∀ t ∈ ts, t.check = .ok ()
  /-- Optional keys are in their stored form. -/
  folded : ∀ t ∈ ts, t.normalised = t
  /-- Active tenants share no stored key. -/
  apart : ∀ t ∈ ts, ∀ u ∈ ts, t.isActive = true → u.isActive = true → t.id ≠ u.id → t.Apart u

/-! ### Searches -/

theorem byId?_eq_none_iff (ts : Roster) (id : String) :
    ts.byId? id = none ↔ ∀ t ∈ ts, t.id ≠ id := by
  rw [byId?, List.find?_eq_none]
  simp only [beq_iff_eq, ne_eq]

theorem mem_of_byId? {ts : Roster} {id : String} {t : Tenant} (h : ts.byId? id = some t) :
    t ∈ ts ∧ t.id = id :=
  ⟨List.mem_of_find?_eq_some h, by simpa only [beq_iff_eq] using List.find?_some h⟩

theorem mem_of_activeById? {ts : Roster} {id : String} {t : Tenant}
    (h : ts.activeById? id = some t) : t ∈ ts ∧ t.id = id ∧ t.isActive = true := by
  rw [activeById?, Option.filter_eq_some_iff] at h
  rcases mem_of_byId? h.1 with ⟨hmem, hid⟩
  exact ⟨hmem, hid, h.2⟩

theorem mem_of_holder? {ts : Roster} {field : Tenant → String} {key : String} {t : Tenant}
    (h : ts.holder? field key = some t) :
    t ∈ ts ∧ t.isActive = true ∧ field t = key ∧ key ≠ "" := by
  rw [holder?] at h
  split at h
  · exact absurd h (by simp only [reduceCtorEq, not_false_eq_true])
  · -- The search is for an active tenant with this key; the test says the rest.
    rename_i hne
    have hp := List.find?_some h
    simp only [Bool.and_eq_true, beq_iff_eq] at hp
    exact ⟨List.mem_of_find?_eq_some h, hp.1, hp.2, by
      simpa only [String.isEmpty_iff] using hne⟩

/-- Members with one id are one member. -/
theorem Sound.eq_of_id {ts : Roster} (h : ts.Sound) {t u : Tenant} (ht : t ∈ ts) (hu : u ∈ ts)
    (hid : t.id = u.id) : t = u :=
  List.inj_on_of_nodup_map h.ids ht hu hid

/-- A search with a test that one member passes alone finds that member. -/
theorem find?_eq_some_of_unique {l : List Tenant} {p : Tenant → Bool} {t : Tenant} (ht : t ∈ l)
    (hp : p t = true) (huniq : ∀ u ∈ l, p u = true → u = t) : l.find? p = some t := by
  cases hfind : l.find? p with
  | none => exact absurd hp (List.find?_eq_none.mp hfind t ht)
  | some u =>
      rw [huniq u (List.mem_of_find?_eq_some hfind) (List.find?_some hfind)]

/-- Two searches that are passed by the same tenants, and by one at most, find
    the same, whatever the lists and their orders are. -/
theorem find?_eq_find? {l l' : List Tenant} {p q : Tenant → Bool}
    (hsame : ∀ t, (t ∈ l ∧ p t = true) ↔ (t ∈ l' ∧ q t = true))
    (huniq : ∀ t ∈ l', ∀ u ∈ l', q t = true → q u = true → t = u) :
    l.find? p = l'.find? q := by
  -- What the second search finds decides what the first one must find.
  cases hfind : l'.find? q with
  | none =>
      refine List.find?_eq_none.mpr fun t ht hp => ?_
      rcases (hsame t).mp ⟨ht, hp⟩ with ⟨ht', hq⟩
      exact List.find?_eq_none.mp hfind t ht' hq
  | some u =>
      have hu : u ∈ l' := List.mem_of_find?_eq_some hfind
      have hq : q u = true := List.find?_some hfind
      rcases (hsame u).mpr ⟨hu, hq⟩ with ⟨hul, hp⟩
      refine find?_eq_some_of_unique hul hp fun t ht hpt => ?_
      rcases (hsame t).mp ⟨ht, hpt⟩ with ⟨ht', hqt⟩
      exact huniq t ht' u hu hqt hq

/-- Three searches one after the other are one search, when each finds only
    who passes its test, one of them finds somebody whenever somebody does, and
    one tenant at most does. -/
theorem or_eq_find? {a b c : Option Tenant} {l : List Tenant} {q : Tenant → Bool}
    (hsub : ∀ t, a = some t ∨ b = some t ∨ c = some t → t ∈ l ∧ q t = true)
    (hsup : ∀ t ∈ l, q t = true → a ≠ none ∨ b ≠ none ∨ c ≠ none)
    (huniq : ∀ t ∈ l, ∀ u ∈ l, q t = true → q u = true → t = u) :
    a.or (b.or c) = l.find? q := by
  -- Whoever one of the three finds is the one the search finds.
  have hfound : ∀ t, a = some t ∨ b = some t ∨ c = some t → l.find? q = some t := by
    intro t ht
    rcases hsub t ht with ⟨hmem, hq⟩
    exact find?_eq_some_of_unique hmem hq fun u hu hqu => huniq u hu t hmem hqu hq
  cases a with
  | some t => rw [hfound t (Or.inl rfl), Option.some_or]
  | none =>
      rw [Option.none_or]
      cases b with
      | some t => rw [hfound t (Or.inr (Or.inl rfl)), Option.some_or]
      | none =>
          rw [Option.none_or]
          cases c with
          | some t => rw [hfound t (Or.inr (Or.inr rfl))]
          | none =>
              refine (List.find?_eq_none.mpr fun t ht hq => ?_).symm
              rcases hsup t ht hq with h | h | h <;> exact h rfl

theorem Sound.byId?_eq_some_iff {ts : Roster} (h : ts.Sound) (id : String) (t : Tenant) :
    ts.byId? id = some t ↔ t ∈ ts ∧ t.id = id := by
  constructor
  · exact mem_of_byId?
  · rintro ⟨hmem, hid⟩
    refine find?_eq_some_of_unique hmem (by simpa only [beq_iff_eq] using hid) fun u hu huid => ?_
    rw [beq_iff_eq] at huid
    exact h.eq_of_id hu hmem (by rw [huid, hid])

theorem Sound.activeById?_eq_some_iff {ts : Roster} (h : ts.Sound) (id : String) (t : Tenant) :
    ts.activeById? id = some t ↔ t ∈ ts ∧ t.id = id ∧ t.isActive = true := by
  rw [activeById?, Option.filter_eq_some_iff, h.byId?_eq_some_iff, and_assoc]

/-- A field whose entries are keys that the tenant holds: the domain or the
    subdomain. -/
def IsKeyField (field : Tenant → String) : Prop :=
  ∀ t : Tenant, field t ≠ "" → t.holds (field t) = true

theorem isKeyField_domain : IsKeyField Tenant.domain :=
  fun t hne => (t.holds_iff _).mpr ⟨hne, Or.inl rfl⟩

theorem isKeyField_subdomain : IsKeyField Tenant.subdomain :=
  fun t hne => (t.holds_iff _).mpr ⟨hne, Or.inr rfl⟩

/-- Two active members that hold one key are one member. -/
theorem Sound.eq_of_holds {ts : Roster} (h : ts.Sound) {t u : Tenant} (ht : t ∈ ts) (hu : u ∈ ts)
    (hta : t.isActive = true) (hua : u.isActive = true) {key : String}
    (htk : t.holds key = true) (huk : u.holds key = true) : t = u := by
  by_contra hne
  have hid : t.id ≠ u.id := fun hid => hne (h.eq_of_id ht hu hid)
  exact (h.apart t ht u hu hta hua hid).1 key htk huk

theorem Sound.holder?_eq_some_iff {ts : Roster} (h : ts.Sound) {field : Tenant → String}
    (hf : IsKeyField field) (key : String) (t : Tenant) :
    ts.holder? field key = some t ↔
      t ∈ ts ∧ t.isActive = true ∧ field t = key ∧ key ≠ "" := by
  constructor
  · exact mem_of_holder?
  · rintro ⟨hmem, hactive, rfl, hne⟩
    rw [holder?, if_neg (by simpa only [String.isEmpty_iff] using hne)]
    -- No other active tenant has the key, so the search cannot stop earlier.
    refine find?_eq_some_of_unique hmem
      (by simp only [hactive, Bool.true_and, beq_self_eq_true]) fun u hu hp => ?_
    simp only [Bool.and_eq_true, beq_iff_eq] at hp
    have hheld : u.holds (field t) = true := by
      rw [← hp.2]
      exact hf u (by rw [hp.2]; exact hne)
    exact h.eq_of_holds hu hmem hp.1 hactive hheld (hf t hne)

end Roster

end Multitenancy
