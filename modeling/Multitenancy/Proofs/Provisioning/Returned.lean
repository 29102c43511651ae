import Multitenancy.Proofs.Provisioning.Creation
import Multitenancy.Proofs.Tenant.Patch
/-!
# Records That Are Returned

Whether the record that an operation answers with is the one that is read
afterwards.

An update returns what is stored. It starts from a stored record, whose keys
are folded, and folds the keys that it sets; so the registry finds nothing to
fold and keeps the status and the time of creation that are there already.

A creation returns the record that it handed to the registry, and the registry
folds the domain and the subdomain of its own copy. The two differ when the
caller wrote one of the keys in another form, and in nothing but these keys.

## Theorems

* `Patch.successor_apply`: Storing an updated record leaves it as it is.
* `Office.Created.read_back`, `Office.Updated.read_back`: What is read after a
  creation and after an update.
* `Office.returned_is_read`: When the record that is returned is read.
* `Office.returned_is_not_read`: A record that is not.
-/

namespace Multitenancy

-- A comparison of two records would otherwise unfold the stored form of a key.
attribute [local irreducible] foldKey

/-- A patch leaves nothing for the registry to do when the record takes the
    place of the one that was patched. -/
theorem Patch.successor_apply (p : Patch) {t : Tenant} (hfold : t.normalised = t)
    (now : Timestamp) : Roster.successor t (p.apply t now) = p.apply t now := by
  rw [Roster.successor, p.normalised_apply hfold now]
  rfl

namespace Registry

variable {r : Registry} {ts : Roster}

/-- A registry that does not report itself to be switched off is on. -/
theorem online_of_findById (id : String) (h : r.findById id ≠ .error offlineFault) :
    r.offline = false := by
  rw [← Bool.not_eq_true]
  intro hoff
  rw [findById, guarded, if_pos hoff] at h
  exact h rfl

/-- What is read of a registry, from what its store keeps. -/
theorem findById_of_keeps (h : r.store.KeepsSound ts) (honline : r.offline = false)
    (id : String) : r.findById id = ts.findById id :=
  Serves.findById_eq ⟨h, honline⟩ id

end Registry

namespace Office

variable {svc : Service} {o : Office} {ts : Roster}

/-- Placing a record leaves its domain and its subdomain as the caller wrote
    them. -/
theorem sameKeys_place (svc : Service) (o : Office) (t : Tenant) :
    (o.place svc t).SameKeys t := by
  rw [place_eq]
  split
  · exact ⟨rfl, rfl, rfl⟩
  · exact ⟨rfl, rfl, rfl⟩

/-- After a creation that succeeds, the stored form of what it returns is
    read. -/
theorem Created.read_back (hkeeps : o.env.registry.store.KeepsSound ts) {t r : Tenant} {env : Env}
    {stores : Stores} {effects : List Effect}
    (hc : Created svc o t (.ok r) env stores effects) :
    r = o.place svc t ∧ env.registry.findById r.id = .ok r.normalised := by
  cases hc with
  | @stored f _ _ _ store _ hid hkind _ hstore =>
      -- The registry had answered that the id is free, so it was not switched off.
      have honline : o.env.registry.offline = false := by
        refine Registry.online_of_findById t.id fun hoff => ?_
        rw [hid, Except.error.injEq] at hoff
        rw [hoff] at hkind
        exact absurd hkind (by decide)
      rcases (Store.keeps_simulates.create hkeeps (o.place svc t)).ok_left hstore with
        ⟨us, hus, hkeeps'⟩
      refine ⟨rfl, ?_⟩
      -- Forgetting keys is the resolver's business, so it is enough to look at the registry.
      rw [registry_forget]
      have hread := Registry.findById_of_keeps (r := { o.env.registry with store }) hkeeps' honline
      exact (hread _).trans (hkeeps.2.findById_create hus)

/-- After an update that succeeds, what it returns is read. -/
theorem Updated.read_back (hkeeps : o.env.registry.store.KeepsSound ts) {id : String}
    {patch : Patch} {r : Tenant} {o' : Office} (hu : Updated svc o id patch (.ok r) o') :
    o'.env.registry.findById r.id = .ok r := by
  cases hu with
  | @written t store hid hstore =>
      rcases mem_of_activeById hkeeps hid with ⟨ht, rfl⟩
      -- The record had been read, so the registry was not switched off.
      have honline : o.env.registry.offline = false := by
        refine Registry.online_of_findById t.id fun hoff => ?_
        rw [activeById, hoff] at hid
        exact absurd hid (by simp only [reduceCtorEq, not_false_eq_true])
      rcases (Store.keeps_simulates.update hkeeps (patch.apply t o.env.wall)).ok_left hstore with
        ⟨us, hus, hkeeps'⟩
      rw [registry_forget, registry_forget]
      refine (Registry.findById_of_keeps (r := { o.env.registry with store }) hkeeps' honline
        _).trans ?_
      have hread : us.findById t.id = .ok (Roster.successor t (patch.apply t o.env.wall)) :=
        hkeeps.2.findById_update ht rfl hus
      -- The record that was read has its keys folded, and so has the one that is written.
      rw [patch.successor_apply (hkeeps.2.folded t ht)] at hread
      exact hread

/-- After an update that runs alone and succeeds, the record that it returned is
    read by its id. After a creation that runs alone and succeeds, what is read
    is the stored form of the record that it returned, and so it is that record
    exactly when the caller wrote domain and subdomain in their folded form. -/
theorem returned_is_read (svc : Service) (o : Office) (hidle : o.Idle)
    (hreachable : o.env.registry.store.Reachable) :
    (∀ id patch o' r, o.run svc (.update id patch) = (o', some (.record (.ok r))) →
      o'.env.registry.findById r.id = .ok r) ∧
    ∀ t o' r, o.run svc (.create t) = (o', some (.record (.ok r))) →
      o'.env.registry.findById r.id = .ok r.normalised ∧
        (o'.env.registry.findById r.id = .ok r ↔
          foldKey t.domain = t.domain ∧ foldKey t.subdomain = t.subdomain) := by
  rcases hreachable.keepsSound with ⟨ts, hkeeps⟩
  constructor
  · intro id patch o' r hrun
    rcases run_update hidle svc id patch with ⟨last, result, hrun', _, hu⟩
    simp only [hrun', Prod.mk.injEq, Option.some.injEq, Reply.record.injEq] at hrun
    rcases hrun with ⟨rfl, rfl⟩
    exact hu.read_back hkeeps
  · intro t o' r hrun
    rcases run_create hidle svc t with ⟨last, result, hrun', _, hc⟩
    simp only [hrun', Prod.mk.injEq, Option.some.injEq, Reply.record.injEq] at hrun
    rcases hrun with ⟨rfl, rfl⟩
    rcases hc.read_back hkeeps with ⟨rfl, hread⟩
    refine ⟨hread, ?_⟩
    -- A placed record has the keys of the record that came in.
    have hkeys := sameKeys_place svc o t
    rw [hread, Except.ok.injEq, Tenant.normalised_eq_self_iff, hkeys.domain, hkeys.subdomain]

/-- A tenant with a domain as somebody may write it. -/
def typedTenant : Tenant :=
  { Tenant.new "acme" "Acme" ⟨0, 0⟩ with domain := " ACME.IO ", storeLocator := "sqlite://a.db" }

/-- The creation returns the domain as it was written, and the folded domain is
    read afterwards. -/
theorem returned_is_not_read :
    newOffice.Idle ∧ newOffice.env.registry.store.Reachable ∧
      ∃ o' r, newOffice.run fileService (.create typedTenant) = (o', some (.record (.ok r))) ∧
        r.domain = " ACME.IO " ∧
        o'.env.registry.findById "acme" = .ok { r with domain := "acme.io" } ∧
        o'.env.registry.findById "acme" ≠ .ok r := by
  refine ⟨idle_newOffice, reachable_newOffice,
    (newOffice.run fileService (.create typedTenant)).1, newOffice.place fileService typedTenant,
    ?_, ?_⟩
  · exact Prod.ext rfl (by decide +kernel)
  · decide +kernel

/-- The two sides at work: the record of the creation is read in its stored
    form, and a renamed tenant is read as it was returned. -/
theorem returned_is_read_acme :
    let created := newOffice.run fileService (.create typedTenant)
    let renamed := shopOffice.run fileService (.update "acme" { name := some "Acme" })
    created.2 = some (.record (.ok (newOffice.place fileService typedTenant))) ∧
      created.1.env.registry.findById "acme" =
        .ok (newOffice.place fileService typedTenant).normalised ∧
      ∃ r, renamed.2 = some (.record (.ok r)) ∧ r.name = "Acme" ∧
        renamed.1.env.registry.findById r.id = .ok r := by
  have hcreated : (newOffice.run fileService (.create typedTenant)).2 =
      some (.record (.ok (newOffice.place fileService typedTenant))) := by decide +kernel
  have hrenamed : ∃ r, (shopOffice.run fileService (.update "acme" { name := some "Acme" })).2 =
      some (.record (.ok r)) ∧ r.name = "Acme" :=
    ⟨{ shopOffice.place fileService (shopTenant "acme") with name := "Acme" }, by decide +kernel⟩
  rcases hrenamed with ⟨r, hr, hname⟩
  refine ⟨hcreated, ?_, r, hr, hname, ?_⟩
  · exact ((returned_is_read fileService newOffice idle_newOffice reachable_newOffice).2 typedTenant
      _ _ (Prod.ext rfl hcreated)).1
  · exact (returned_is_read fileService shopOffice idle_shopOffice reachable_shopOffice).1 "acme"
      { name := some "Acme" } _ r (Prod.ext rfl hr)

end Office

end Multitenancy
