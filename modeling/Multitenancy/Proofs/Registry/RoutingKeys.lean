import Multitenancy.Proofs.Registry.History
/-!
# Who Answers to a Routing Key

Routing keys are meant to be unique across active tenants. They are, but for
one kind of key: an id with a capital letter, which another tenant has in
lower case for a domain or subdomain.

The check before a write compares every key that the record brings with the
domains and subdomains of the others in lower case, but with their ids as they
are. So a record whose id is `ACME` is refused while somebody has the domain
`acme`, but a record with the domain `acme` is not refused while somebody has
the id `ACME`. Whether both are let in depends on who comes first. A look-up
of `ACME` then may find either, and finds the tenant with the id.

## Main definitions

* `sharedFirst`, `sharedSecond`: Two tenants that answer to one key.

## Theorems

* `Store.answersTo_both_iff`: When two active tenants answer to one key.
* `Store.find_isOk_iff`: A look-up succeeds when somebody answers.
* `Store.routing_key_shared`: It does happen.
-/

namespace Multitenancy

namespace Store

/-- The active tenants after a run are those of the roster. -/
theorem list_after {s : Store} (h : s.IsNew) (calls : List (Timestamp × RegistryCall)) :
    (Store.operations.after s calls).list =
      .ok (Roster.operations.after [] calls).active :=
  keeps_simulates.list (keeps_after h calls)

theorem find_after {s : Store} (h : s.IsNew) (calls : List (Timestamp × RegistryCall))
    (key : String) :
    (Store.operations.after s calls).find key = (Roster.operations.after [] calls).find key :=
  keeps_simulates.find (keeps_after h calls) key

/-- After any run a look-up succeeds exactly when an active tenant answers. -/
theorem find_isOk_iff {s : Store} (h : s.IsNew) (calls : List (Timestamp × RegistryCall))
    (key : String) :
    (∃ t, (Store.operations.after s calls).find key = .ok t) ↔
      ∃ t ∈ (Roster.operations.after [] calls).active, t.answersTo key = true := by
  have hs : (Roster.operations.after [] calls).Sound := (keeps_after h calls).2
  -- The roster answers in the place of the store.
  rw [find_after h]
  constructor
  · rintro ⟨t, ht⟩
    rcases (hs.find_eq_ok_iff key t).mp ht with ⟨hmem, hans, _⟩
    have hactive := ((t.answersTo_iff key).mp hans).1
    exact ⟨t, List.mem_filter.mpr ⟨hmem, hactive⟩, hans⟩
  · rintro ⟨t, ht, hans⟩
    cases hfound : (Roster.operations.after [] calls).find key with
    | ok u => exact ⟨u, rfl⟩
    | error f =>
        have hnone := ((hs.find_eq_error_iff key f).mp hfound).2 t (List.mem_filter.mp ht).1
        rw [hnone] at hans
        exact absurd hans Bool.false_ne_true

/-- After any sequence of calls on a registry of either kind, two active
    tenants answer to one key exactly when the key is the id of one of them,
    is not in its folded form, and the other has the folded form for a domain
    or subdomain. The tenants are those that the registry lists, and a look-up
    finds somebody exactly when one of them answers. -/
theorem answersTo_both_iff (s : Store) (h : s.IsNew) (calls : List (Timestamp × RegistryCall)) :
    ∃ ts, (Store.operations.after s calls).list = .ok ts ∧
      (∀ key, (∃ t, (Store.operations.after s calls).find key = .ok t) ↔
        ∃ t ∈ ts, t.answersTo key = true) ∧
      ∀ t ∈ ts, ∀ u ∈ ts, t.id ≠ u.id → ∀ key,
        (t.answersTo key = true ∧ u.answersTo key = true ↔
          foldKey key ≠ key ∧
            (t.id = key ∧ u.holds (foldKey key) = true ∨
              u.id = key ∧ t.holds (foldKey key) = true)) := by
  have hs : (Roster.operations.after [] calls).Sound := (keeps_after h calls).2
  refine ⟨_, list_after h calls, find_isOk_iff h calls, fun t ht u hu hne key => ?_⟩
  rcases List.mem_filter.mp ht with ⟨htmem, hta⟩
  rcases List.mem_filter.mp hu with ⟨humem, hua⟩
  -- The invariant excludes all but one way; that way each meets its criterion.
  rw [Tenant.answersTo_iff, Tenant.answersTo_iff]
  constructor
  · rintro ⟨⟨_, htk⟩, _, huk⟩
    exact hs.key_shared htmem humem hta hua hne htk huk
  · rintro ⟨_, ⟨htid, huh⟩ | ⟨huid, hth⟩⟩
    · exact ⟨⟨hta, Or.inl htid⟩, hua, Or.inr huh⟩
    · exact ⟨⟨hta, Or.inr hth⟩, hua, Or.inl huid⟩

/-- A tenant with a capital letter in its id. -/
def sharedFirst : Tenant :=
  Tenant.new "ACME" "First" ⟨0, 0⟩

/-- A tenant with the same word in lower case for its domain. -/
def sharedSecond : Tenant :=
  (Tenant.new "b" "Second" ⟨0, 0⟩).withDomain "acme"

/-- Both are let in when the one with the id comes first, and then both answer
    to the id. -/
theorem routing_key_shared :
    ∃ calls, (Store.operations.after (.indexed .empty) calls).list =
        .ok [sharedFirst, sharedSecond] ∧
      sharedFirst.id ≠ sharedSecond.id ∧
      sharedFirst.answersTo "ACME" = true ∧ sharedSecond.answersTo "ACME" = true :=
  ⟨[(⟨0, 0⟩, .create sharedFirst), (⟨0, 0⟩, .create sharedSecond)], by decide +kernel⟩

/-- The condition at work on a database with the two tenants. -/
theorem answersTo_both_table :
    ∃ ts, (Store.operations.after (.table .empty)
        [(⟨0, 0⟩, .create sharedFirst), (⟨0, 0⟩, .create sharedSecond)]).list = .ok ts ∧
      sharedFirst ∈ ts ∧ sharedSecond ∈ ts ∧
      (sharedFirst.answersTo "ACME" = true ∧ sharedSecond.answersTo "ACME" = true ↔
        foldKey "ACME" ≠ "ACME" ∧
          (sharedFirst.id = "ACME" ∧ sharedSecond.holds (foldKey "ACME") = true ∨
            sharedSecond.id = "ACME" ∧ sharedFirst.holds (foldKey "ACME") = true)) := by
  rcases answersTo_both_iff (.table .empty) (Or.inr rfl)
    [(⟨0, 0⟩, .create sharedFirst), (⟨0, 0⟩, .create sharedSecond)] with ⟨ts, hlist, _, hboth⟩
  -- The two tenants on the list are computed; the condition is that of the theorem.
  have hts : ts = [sharedFirst, sharedSecond] := by
    have hrun : (Store.operations.after (.table .empty)
        [(⟨0, 0⟩, .create sharedFirst), (⟨0, 0⟩, .create sharedSecond)]).list =
        .ok [sharedFirst, sharedSecond] := by decide +kernel
    rw [hrun, Except.ok.injEq] at hlist
    exact hlist.symm
  have hfirst : sharedFirst ∈ ts := by
    rw [hts]
    exact List.mem_cons_self
  have hsecond : sharedSecond ∈ ts := by
    rw [hts]
    exact List.mem_cons_of_mem _ List.mem_cons_self
  exact ⟨ts, hlist, hfirst, hsecond, hboth _ hfirst _ hsecond (by decide) "ACME"⟩

end Store

end Multitenancy
