import Multitenancy.Proofs.Registry.RoutingKeys
/-!
# Updates That Move No Key

What an update is refused for that leaves the keys of its tenant as they were.

Such an update asks for nothing that its tenant does not have already, so one
would expect it to pass. The check runs over all its keys again, though, and
does not look at the id as the check of another record does: it lowers the id
before it compares it with the domains and subdomains of the others, while
their own checks compared those with the id as it is. A tenant with the id
`ACME` and one with the domain `acme` are let in one after the other, and from
then on no update of the first can be written, whatever it changes. That is
the only way. The domain and the subdomain were compared in one form on both
sides, and the invariant of the roster says that they are free.

## Main definitions

* `Store.shared`, `Store.sharedRenamed`: A tenant that cannot be renamed.

## Theorems

* `Roster.Sound.claims_unmoved_iff`: Who claims a key of such an update.
* `Roster.Sound.update_unmoved_eq_error_iff`: When it is refused, and how.
* `Store.update_unmoved`: The same of a registry of either kind, and what an
  update that is not refused leaves.
* `Store.unmoved_update_refused`: It does happen.
-/

namespace Multitenancy

-- A comparison of two records would otherwise unfold the stored form of a key.
attribute [local irreducible] foldKey

/-- A record with the keys of a stored tenant brings the keys that the tenant
    holds. -/
theorem Tenant.SameKeys.mem_secondaryKeys_iff {new t : Tenant} (h : new.SameKeys t)
    (hfold : t.normalised = t) (key : String) :
    key ∈ new.secondaryKeys ↔ t.holds key = true := by
  have hkeys : new.secondaryKeys = t.secondaryKeys := by
    rw [secondaryKeys, secondaryKeys, h.domain, h.subdomain]
  rw [hkeys, t.mem_secondaryKeys_iff, hfold]

/-- An id that may be stored has no blank at either end, so folding it only
    lowers it. -/
theorem Tenant.lowerText_id {t : Tenant} (h : t.check = .ok ()) :
    Text.lowerText t.id = foldKey t.id := by
  rw [Text.lowerText, foldKey, Tenant.trim_id h]

namespace Roster

variable {ts : Roster} {t new : Tenant}

/-- The only key of a record with the keys of an active tenant that anybody
    else can claim is its id, and who does holds the folded id. -/
theorem Sound.claims_unmoved_iff (hs : ts.Sound) (ht : t ∈ ts) (hactive : t.isActive = true)
    (hsame : new.SameKeys t) {key : String} (hkey : key ∈ new.id :: new.secondaryKeys)
    {u : Tenant} (hu : u ∈ ts) :
    claims key new.id u = true ↔
      key = t.id ∧ u.isActive = true ∧ u.id ≠ t.id ∧ u.holds (foldKey t.id) = true := by
  -- Ids may not have blanks around them, so lower-casing one folds it.
  have hlower : Text.lowerText t.id = foldKey t.id := Tenant.lowerText_id (hs.checked t ht)
  rw [claims_iff, hsame.id]
  constructor
  · rintro ⟨hua, hne, hclaim⟩
    rcases hs.apart t ht u hu hactive hua (Ne.symm hne) with ⟨hboth, htu, _⟩
    rcases List.mem_cons.mp hkey with hid | hsec
    · rw [hsame.id] at hid
      subst hid
      rw [hlower] at hclaim
      exact ⟨rfl, hua, hne, hclaim.resolve_left hne⟩
    · -- A stored key of the tenant is neither the id nor a key of anybody else.
      have hheld := (hsame.mem_secondaryKeys_iff (hs.folded t ht) key).mp hsec
      rw [Tenant.lowerText_of_holds (hs.folded t ht) hheld] at hclaim
      rcases hclaim with hid | hhu
      · rw [hid, hheld] at htu
        exact absurd htu.symm Bool.false_ne_true
      · exact absurd hhu (hboth key hheld)
  · -- Who holds the folded id of the tenant stands in the way of the key that is the id.
    rintro ⟨rfl, hua, hne, hheld⟩
    rw [hlower]
    exact ⟨hua, hne, Or.inr hheld⟩

theorem update_of_activeById {existing : Tenant} (h : ts.activeById? new.id = some existing) :
    ts.update new = (ts.checkKeys new).map fun _ => ts.replace new.id (successor existing new) := by
  rw [update, h]
  cases ts.checkKeys new with
  | error f => rfl
  | ok u => rfl

/-- An update that moves no key is refused exactly when another active tenant
    holds the folded id, and the fault names the id and that tenant. -/
theorem Sound.update_unmoved_eq_error_iff (hs : ts.Sound) (ht : t ∈ ts)
    (hactive : t.isActive = true) (hsame : new.SameKeys t) (f : Fault) :
    ts.update new = .error f ↔
      ∃ u ∈ ts, u.isActive = true ∧ u.id ≠ t.id ∧ u.holds (foldKey t.id) = true ∧
        f = .keyTaken t.id u.id := by
  have hid : ts.activeById? new.id = some t :=
    (hs.activeById?_eq_some_iff new.id t).mpr ⟨ht, hsame.id.symm, hactive⟩
  -- What the check refuses is the claim of some such tenant on the id.
  have hcheck : ∀ g, ts.checkKeys new = .error g → ∃ u ∈ ts, u.isActive = true ∧ u.id ≠ t.id ∧
      u.holds (foldKey t.id) = true ∧ g = .keyTaken t.id u.id := by
    intro g hg
    rcases exists_claim_of_checkKeys hg with ⟨key, hkey, u, hu, hclaim, rfl⟩
    rcases (hs.claims_unmoved_iff ht hactive hsame hkey hu).mp hclaim with ⟨rfl, hua, hne, hheld⟩
    exact ⟨u, hu, hua, hne, hheld, rfl⟩
  rw [update_of_activeById hid]
  constructor
  · intro h
    cases hkeys : ts.checkKeys new with
    | ok u =>
        rw [hkeys, Except.map] at h
        exact absurd h (by simp only [reduceCtorEq, not_false_eq_true])
    | error g =>
        rw [hkeys, Except.map, Except.error.injEq] at h
        exact h ▸ hcheck g hkeys
  · rintro ⟨u, hu, hua, hne, hheld, rfl⟩
    have hmem : t.id ∈ new.id :: new.secondaryKeys := by
      rw [hsame.id]
      exact List.mem_cons_self
    have hclaim : claims t.id new.id u = true :=
      (hs.claims_unmoved_iff ht hactive hsame hmem hu).mpr ⟨rfl, hua, hne, hheld⟩
    cases hkeys : ts.checkKeys new with
    | ok _ =>
        rw [(checkKeys_eq_ok_iff ts new).mp hkeys t.id hmem u hu] at hclaim
        exact absurd hclaim Bool.false_ne_true
    | error g =>
        -- Only one tenant holds the folded id, so it is the one that is named.
        rcases hcheck g hkeys with ⟨v, hv, hva, _, hvheld, rfl⟩
        rw [hs.eq_of_holds hv hu hva hua hvheld hheld, Except.map]

/-- A tenant whose id is folded has it to itself. -/
theorem Sound.not_holds_of_folded (hs : ts.Sound) (ht : t ∈ ts) (hactive : t.isActive = true)
    (hfolded : foldKey t.id = t.id) {u : Tenant} (hu : u ∈ ts) (hua : u.isActive = true)
    (hne : u.id ≠ t.id) : u.holds (foldKey t.id) = false := by
  rw [hfolded]
  exact (hs.apart t ht u hu hactive hua (Ne.symm hne)).2.2

end Roster

namespace Store

/-- On every reachable registry of either kind, an update of an active tenant
    that moves none of its keys is refused exactly when another active tenant
    has the folded id for a domain or subdomain. The fault names the id and
    that tenant. An update that is not refused is what is read afterwards, and
    of a tenant whose id is in its folded form no such update is refused. -/
theorem update_unmoved (s : Store) (h : s.Reachable) :
    ∃ ts, s.list = .ok ts ∧ ∀ t ∈ ts, ∀ new : Tenant, new.SameKeys t →
      (∀ f, s.update new = .error f ↔
        ∃ u ∈ ts, u.id ≠ t.id ∧ u.holds (foldKey t.id) = true ∧ f = .keyTaken t.id u.id) ∧
      (∀ s', s.update new = .ok s' → s'.findById t.id = .ok (Roster.successor t new)) ∧
      (foldKey t.id = t.id → ∃ s', s.update new = .ok s') := by
  rcases h.keepsSound with ⟨ts, hkeeps⟩
  have hs : ts.Sound := hkeeps.2
  refine ⟨ts.active, keeps_simulates.list hkeeps, fun t ht new hsame => ?_⟩
  rcases List.mem_filter.mp ht with ⟨htmem, hactive⟩
  have hagree : Agree KeepsSound (s.update new) (ts.update new) :=
    keeps_simulates.update hkeeps new
  -- The store refuses what the roster refuses.
  have herror : ∀ f, s.update new = .error f ↔ ∃ u ∈ ts.active, u.id ≠ t.id ∧
      u.holds (foldKey t.id) = true ∧ f = .keyTaken t.id u.id := by
    intro f
    have hroster : s.update new = .error f ↔ ts.update new = .error f :=
      ⟨hagree.error_left, hagree.error_right⟩
    rw [hroster, hs.update_unmoved_eq_error_iff htmem hactive hsame]
    simp only [Roster.active, List.mem_filter, and_assoc]
  refine ⟨herror, fun s' hs' => ?_, fun hfolded => ?_⟩
  · rcases hagree.ok_left hs' with ⟨us, hus, hkeeps'⟩
    rw [show s'.findById t.id = us.findById t.id from keeps_simulates.findById hkeeps' t.id]
    exact hs.findById_update htmem hsame.id hus
  · cases hupdate : s.update new with
    | ok s' => exact ⟨s', rfl⟩
    | error f =>
        rcases (herror f).mp hupdate with ⟨u, hu, hne, hheld, _⟩
        rcases List.mem_filter.mp hu with ⟨humem, hua⟩
        rw [hs.not_holds_of_folded htmem hactive hfolded humem hua hne] at hheld
        exact absurd hheld Bool.false_ne_true

/-- A store to which the two tenants of `sharedFirst` and `sharedSecond` are
    added, in this order. -/
def shared (s : Store) : Store :=
  Store.operations.after s [(⟨0, 0⟩, .create sharedFirst), (⟨0, 0⟩, .create sharedSecond)]

/-- The first of the two with another name. -/
def sharedRenamed : Tenant :=
  { sharedFirst with name := "Renamed", updatedAt := ⟨1, 0⟩ }

/-- The first of the two cannot be renamed, in memory or in a database, because
    the second has its id in lower case. -/
theorem unmoved_update_refused :
    sharedRenamed.id = sharedFirst.id ∧ sharedRenamed.domain = sharedFirst.domain ∧
      sharedRenamed.subdomain = sharedFirst.subdomain ∧
      (shared (.indexed .empty)).list = .ok [sharedFirst, sharedSecond] ∧
      (shared (.indexed .empty)).update sharedRenamed = .error (.keyTaken "ACME" "b") ∧
      (shared (.table .empty)).list = .ok [sharedFirst, sharedSecond] ∧
      (shared (.table .empty)).update sharedRenamed = .error (.keyTaken "ACME" "b") := by
  decide +kernel

/-- The condition at work on a database with the two tenants. -/
theorem update_unmoved_table :
    (shared (.table .empty)).Reachable ∧
      ∃ ts, (shared (.table .empty)).list = .ok ts ∧ sharedFirst ∈ ts ∧
        sharedRenamed.SameKeys sharedFirst ∧
        ((shared (.table .empty)).update sharedRenamed = .error (.keyTaken "ACME" "b") ↔
          ∃ u ∈ ts, u.id ≠ "ACME" ∧ u.holds (foldKey "ACME") = true ∧
            Fault.keyTaken "ACME" "b" = .keyTaken "ACME" u.id) := by
  have hreachable : (shared (.table .empty)).Reachable :=
    ⟨.table .empty, Or.inr rfl, [(⟨0, 0⟩, .create sharedFirst), (⟨0, 0⟩, .create sharedSecond)],
      rfl⟩
  rcases update_unmoved (shared (.table .empty)) hreachable with ⟨ts, hlist, hunmoved⟩
  -- That both are on the list is computed, and the condition is the theorem's.
  have hrun : (shared (.table .empty)).list = .ok [sharedFirst, sharedSecond] := by decide +kernel
  have hfirst : sharedFirst ∈ ts := by
    rw [hrun, Except.ok.injEq] at hlist
    rw [← hlist]
    exact List.mem_cons_self
  have hsame : sharedRenamed.SameKeys sharedFirst := ⟨rfl, rfl, rfl⟩
  exact ⟨hreachable, ts, hlist, hfirst, hsame,
    (hunmoved _ hfirst _ hsame).1 (.keyTaken "ACME" "b")⟩

end Store

end Multitenancy
