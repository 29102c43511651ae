import Multitenancy.Proofs.Provisioning.Alone
import Multitenancy.Proofs.Registry.Serving
import Multitenancy.Proofs.Resolution.Invalidation
/-!
# The Cache of Resolved Keys Is Transparent

While all writes go through provisioning, nobody can tell whether the answer
to a key came from the cache or from the registry.

The invariant is that every entry of the cache is right: its value is what the
registry would answer to its key now. A write changes who is on the roster.
Provisioning tells the resolver about the old record and the new one, and an
entry that is then left has a key that neither of them answers to; so the
answer to that key is what it was. Nothing else changes the roster, and no
other operation on the cache writes anything but what the registry has just
answered.

Age plays no part in this. An entry that is right is right at any age, so the
lifetime and the capacity of the cache may be what they like.

## Main definitions

* `DeskEvent`: An operation run alone, or something done to the resolver.
* `Office.history`: The office after a sequence of events.
* `Office.Coherent`: The invariant.

## Theorems

* `Office.coherent_happen`, `Office.coherent_history`: Every event, and so
  every history, keeps the invariant.
* `Office.resolve_eq_find`: Resolving a key gives what the registry gives.
-/

namespace Multitenancy

-- Runs on given arguments are evaluated and compared.
deriving instance DecidableEq for Reply
deriving instance DecidableEq for Stage

/-- What may happen where operations run one after the other. -/
inductive DeskEvent where
  | call (c : Call)
  /-- The resolver forgets a key. -/
  | invalidate (key : String)
  /-- The resolver forgets everything. -/
  | clear
  /-- The steady clock goes forward, and the wall clock is read anew. -/
  | pass (elapsed : Nat) (wall : Timestamp)

namespace Office

/-- The office after an event. -/
def happen (svc : Service) (o : Office) : DeskEvent → Office
  | .call c => (o.run svc c).1
  | .invalidate key => o.withResolver (o.env.resolver.invalidate key)
  | .clear => o.withResolver o.env.resolver.clear
  | .pass elapsed wall => { o with env := { o.env with clock := o.env.clock + elapsed, wall } }

/-- The office after a sequence of events. -/
def history (svc : Service) (o : Office) (events : List DeskEvent) : Office :=
  events.foldl (happen svc) o

/-- An office with a registry without tenants, which can be read, and with
    nothing in the cache. -/
structure IsNew (o : Office) : Prop where
  store : o.env.registry.store.IsNew
  online : o.env.registry.offline = false
  uncached : o.env.resolver.cache.entries = []
  idle : o.Idle

/-- Every cached outcome is that of the look-up that could be made now. -/
structure Coherent (o : Office) (ts : Roster) : Prop where
  keeps : o.env.registry.store.KeepsSound ts
  online : o.env.registry.offline = false
  cached : ∀ e ∈ o.env.resolver.cache.entries, e.value = Resolved.ofLookup (ts.find e.key)
  idle : o.Idle

theorem IsNew.coherent {o : Office} (h : o.IsNew) : o.Coherent [] where
  keeps := h.store.keepsSound
  online := h.online
  cached := by
    rw [h.uncached]
    exact fun e he => absurd he List.not_mem_nil
  idle := h.idle

section Steps

variable {o o' : Office} {ts us : Roster}

theorem Coherent.find_eq (h : o.Coherent ts) (key : String) :
    (o.env.registry.find key).1 = ts.find key :=
  Registry.Serves.find_eq ⟨h.keeps, h.online⟩ key

theorem mem_of_activeById (h : o.env.registry.store.KeepsSound ts) {id : String} {t : Tenant}
    (hid : o.activeById id = .ok t) : t ∈ ts ∧ t.id = id := by
  rw [activeById] at hid
  cases hfound : o.env.registry.findById id with
  | error f =>
      rw [hfound] at hid
      exact absurd hid (by simp only [reduceCtorEq, not_false_eq_true])
  | ok u =>
      rw [hfound] at hid
      simp only at hid
      -- A record that is not active is refused, so the one that is left is active.
      split at hid
      · rw [Except.ok.injEq] at hid
        rw [← hid]
        exact Registry.mem_of_findById h hfound
      · exact absurd hid (by simp only [reduceCtorEq, not_false_eq_true])

/-- The invariant speaks of the registry, the cache and the locks only. -/
theorem Coherent.of_env (h : o.Coherent ts) (henv : o'.env = o.env) (hidle : o'.Idle) :
    o'.Coherent ts where
  keeps := henv ▸ h.keeps
  online := henv ▸ h.online
  cached := henv ▸ h.cached
  idle := hidle

/-- A write keeps the invariant when each entry that is left has a key to
    which the same tenants answer as before. -/
theorem Coherent.write (h : o.Coherent ts) {store : Store} (hkeeps : store.KeepsSound us)
    (hregistry : o'.env.registry = { o.env.registry with store })
    (hleft : ∀ e ∈ o'.env.resolver.cache.entries, e ∈ o.env.resolver.cache.entries ∧
      ∀ t : Tenant, t.answersTo e.key = true → (t ∈ us ↔ t ∈ ts))
    (hidle : o'.Idle) : o'.Coherent us where
  keeps := by
    rw [hregistry]
    exact hkeeps
  online := by
    rw [hregistry]
    exact h.online
  cached := by
    intro e he
    -- The key leads to the same tenants on both rosters, so the cached outcome is still right.
    rcases hleft e he with ⟨hold, hsame⟩
    rw [h.cached e hold, hkeeps.2.find_congr h.keeps.2 hsame]
  idle := hidle

/-- Forgetting a tenant concerns the resolver only. -/
theorem registry_forget (svc : Service) (o : Office) (t : Tenant) :
    (o.forget svc t).env.registry = o.env.registry := by
  unfold forget
  split
  · rfl
  · rfl

theorem resolver_forget {svc : Service} (hattached : svc.attached = true) (o : Office)
    (t : Tenant) : (o.forget svc t).env.resolver = o.env.resolver.invalidateTenant t := by
  unfold forget
  rw [if_pos hattached]

end Steps

/-! ### The three writes -/

section Writes

variable {svc : Service} {o o' : Office} {ts : Roster}

/-- On a roster on which one record is replaced, the same tenants answer to a
    key that neither the old record nor the new one answers to. -/
theorem mem_replace_iff_of_answersTo (hs : ts.Sound) {old new : Tenant} (hold : old ∈ ts)
    {key : String} (holdkey : old.answersTo key = false) (hnewkey : new.answersTo key = false)
    {t : Tenant} (ht : t.answersTo key = true) : t ∈ ts.replace old.id new ↔ t ∈ ts := by
  -- Who answers to the key is neither the old record nor the new one.
  have hnew : t ≠ new := by
    intro he
    rw [he, hnewkey] at ht
    exact Bool.false_ne_true ht
  have hid : t ∈ ts → t.id ≠ old.id := by
    intro hmem he
    rw [hs.eq_of_id hmem hold he, holdkey] at ht
    exact Bool.false_ne_true ht
  rw [Roster.mem_replace_iff]
  constructor
  · rintro (⟨hmem, _⟩ | ⟨he, _⟩)
    · exact hmem
    · exact absurd he hnew
  · intro hmem
    exact Or.inl ⟨hmem, hid hmem⟩

theorem id_place (svc : Service) (o : Office) (t : Tenant) : (o.place svc t).id = t.id := by
  unfold place
  simp only
  split
  · rfl
  · rfl

/-- A creation appends a record, and the entries that are left have keys to
    which that record does not answer. -/
theorem coherent_created (hattached : svc.attached = true) (h : o.Coherent ts) {t : Tenant}
    {r : Except Fault Tenant} {env : Env} {stores : Stores} {effects : List Effect}
    (hc : Created svc o t r env stores effects) (henv : o'.env = env) (hidle : o'.Idle) :
    ∃ us, o'.Coherent us := by
  cases hc with
  | invalid _ => exact ⟨ts, h.of_env henv hidle⟩
  | taken _ _ => exact ⟨ts, h.of_env henv hidle⟩
  | unread _ _ _ => exact ⟨ts, h.of_env henv hidle⟩
  | unprepared _ _ _ _ => exact ⟨ts, h.of_env henv hidle⟩
  | unstored _ _ _ _ _ => exact ⟨ts, h.of_env henv hidle⟩
  | @stored _ _ _ _ store hcheck _ _ _ hstore =>
      -- The roster grew by the record as it is stored.
      rcases (Store.keeps_simulates.create h.keeps (o.place svc t)).ok_left hstore with
        ⟨us, hus, hkeeps⟩
      rcases (Roster.create_eq_ok_iff ts us _).mp hus with ⟨_, _, _, rfl⟩
      have hne : (o.place svc t).id ≠ "" := by
        rw [id_place]
        exact Tenant.id_ne_empty hcheck
      refine ⟨_, h.write hkeeps ?_ (fun e he => ?_) hidle⟩
      · rw [henv, registry_forget]
        rfl
      · rw [henv, resolver_forget hattached] at he
        rcases (Resolver.mem_invalidateTenant_iff _ _ e).mp he with ⟨hold, hleft⟩
        have hnew : (o.place svc t).normalised.answersTo e.key = false :=
          not_answersTo_normalised hne hleft
        exact ⟨hold, fun u hu => Roster.mem_append_iff_of_answersTo hnew hu⟩

/-- An update replaces a record, and the entries that are left have keys to
    which neither the old record nor the new one answers. -/
theorem coherent_updated (hattached : svc.attached = true) (h : o.Coherent ts) {id : String}
    {patch : Patch} {r : Except Fault Tenant} (hc : Updated svc o id patch r o')
    (hidle : o'.Idle) : ∃ us, o'.Coherent us := by
  cases hc with
  | unknown _ => exact ⟨ts, h⟩
  | unwritten _ _ => exact ⟨ts, h⟩
  | @written t store hid hstore =>
      rcases (Store.keeps_simulates.update h.keeps (patch.apply t o.env.wall)).ok_left hstore with
        ⟨us, hus, hkeeps⟩
      rcases (Roster.update_eq_ok_iff ts us _).mp hus with ⟨existing, hex, _, rfl⟩
      rcases Roster.mem_of_activeById? hex with ⟨hmem, hexid, _⟩
      have ht : t ∈ ts := (mem_of_activeById h.keeps hid).1
      -- The record that was read is the one that was replaced.
      have hsame : existing = t := h.keeps.2.eq_of_id hmem ht hexid
      subst hsame
      have hne : existing.id ≠ "" := Tenant.id_ne_empty (h.keeps.2.checked existing hmem)
      refine ⟨_, h.write hkeeps ?_ (fun e he => ?_) hidle⟩
      · rw [registry_forget, registry_forget]
        rfl
      · rw [resolver_forget hattached, resolver_forget hattached] at he
        rcases (Resolver.mem_invalidateTenant_iff _ _ e).mp he with ⟨he', hleftnew⟩
        rcases (Resolver.mem_invalidateTenant_iff _ _ e).mp he' with ⟨hold, hleftold⟩
        have holdkey : existing.answersTo e.key = false :=
          not_answersTo_stored hne (h.keeps.2.folded existing hmem) hleftold
        have hnewkey : (Roster.successor existing (patch.apply existing o.env.wall)).answersTo
            e.key = false :=
          not_answersTo_of_forgotten (show (patch.apply existing o.env.wall).id ≠ "" from hne)
            rfl rfl rfl hleftnew
        exact ⟨hold, fun u hu => mem_replace_iff_of_answersTo h.keeps.2 hmem holdkey hnewkey hu⟩

/-- A deletion replaces a record by one that answers to nothing. -/
theorem coherent_deleted (hattached : svc.attached = true) (h : o.Coherent ts) {id : String}
    {r : Except Fault Unit} (hc : Deleted svc o id r o') (hidle : o'.Idle) :
    ∃ us, o'.Coherent us := by
  cases hc with
  | unknown _ => exact ⟨ts, h⟩
  | unmarked _ _ => exact ⟨ts, h⟩
  | @marked t store hid hstore =>
      rcases (Store.keeps_simulates.softDelete h.keeps t.id o.env.wall).ok_left hstore with
        ⟨us, hus, hkeeps⟩
      rcases (Roster.softDelete_eq_ok_iff ts us _ _).mp hus with ⟨existing, hex, hshape⟩
      rcases Roster.mem_of_byId? hex with ⟨hmem, hexid⟩
      have ht : t ∈ ts := (Registry.mem_of_findById h.keeps hid).1
      -- The record that was read is the one that was marked.
      have hsame : existing = t := h.keeps.2.eq_of_id hmem ht hexid
      subst hsame
      have hne : existing.id ≠ "" := Tenant.id_ne_empty (h.keeps.2.checked existing hmem)
      refine ⟨us, h.write hkeeps ?_ (fun e he => ?_) hidle⟩
      · rw [registry_forget]
        rfl
      · rw [resolver_forget hattached] at he
        rcases (Resolver.mem_invalidateTenant_iff _ _ e).mp he with ⟨hold, hleft⟩
        have holdkey : existing.answersTo e.key = false :=
          not_answersTo_stored hne (h.keeps.2.folded existing hmem) hleft
        have hnewkey : (Roster.buried existing o.env.wall).answersTo e.key = false := rfl
        refine ⟨hold, fun u hu => ?_⟩
        rw [hshape]
        split
        · exact mem_replace_iff_of_answersTo h.keeps.2 hmem holdkey hnewkey hu
        · exact Iff.rfl

end Writes

/-! ### Every history -/

section Histories

variable {svc : Service} {o o' : Office} {ts : Roster}

/-- Resolving leaves right entries behind, and its answer is right. -/
theorem Coherent.looked (h : o.Coherent ts) {key : String} {t : Option Tenant}
    (hc : Looked o key t o') (hidle : o'.Idle) :
    o'.Coherent ts ∧ t = (Resolved.ofLookup (ts.find key)).tenant? := by
  cases hc with
  | @hit outcome hprobe =>
      -- The answer is the value of an entry, and entries are right.
      rcases Cache.mem_of_get_eq_some hprobe with ⟨e, he, hkey, hvalue⟩
      refine ⟨⟨h.keeps, h.online, fun e' he' => ?_, hidle⟩, ?_⟩
      · exact h.cached e' (Cache.mem_of_mem_get he')
      · rw [← hvalue, h.cached e he, hkey]
  | missed hprobe =>
      -- The answer is the registry's, and it is what the new entry holds.
      refine ⟨⟨h.keeps, h.online, fun e he => ?_, hidle⟩, by rw [h.find_eq]⟩
      rcases Cache.mem_of_mem_set he with hold | ⟨hkey, hvalue⟩
      · exact h.cached e (Cache.mem_of_mem_get hold)
      · rw [hvalue, hkey, h.find_eq]

theorem coherent_happen (hattached : svc.attached = true) (h : o.Coherent ts) (event : DeskEvent) :
    ∃ us, (o.happen svc event).Coherent us := by
  -- Calls are looked at by how they can end; the other events only take entries away.
  cases event with
  | call c =>
      cases c with
      | create t =>
          rcases run_create h.idle svc t with ⟨o', r, hrun, hidle, hc⟩
          have hafter : o.happen svc (.call (.create t)) = o' := congrArg Prod.fst hrun
          rw [hafter]
          exact coherent_created hattached h hc rfl hidle
      | update id patch =>
          rcases run_update h.idle svc id patch with ⟨o', r, hrun, hidle, hc⟩
          have hafter : o.happen svc (.call (.update id patch)) = o' := congrArg Prod.fst hrun
          rw [hafter]
          exact coherent_updated hattached h hc hidle
      | delete id =>
          rcases run_delete h.idle svc id with ⟨o', r, hrun, hidle, hc⟩
          have hafter : o.happen svc (.call (.delete id)) = o' := congrArg Prod.fst hrun
          rw [hafter]
          exact coherent_deleted hattached h hc hidle
      | resolve key =>
          rcases run_resolve h.idle svc key with ⟨o', t, hrun, hidle, hc⟩
          have hafter : o.happen svc (.call (.resolve key)) = o' := congrArg Prod.fst hrun
          rw [hafter]
          exact ⟨ts, (h.looked hc hidle).1⟩
  -- Fewer entries are fewer to be right about.
  | invalidate key =>
      refine ⟨ts, h.keeps, h.online, fun e he => ?_, h.idle⟩
      exact h.cached e ((Resolver.mem_invalidate_iff _ key e).mp he).1
  | clear => exact ⟨ts, h.keeps, h.online, fun e he => absurd he List.not_mem_nil, h.idle⟩
  | pass elapsed wall => exact ⟨ts, h.keeps, h.online, h.cached, h.idle⟩

theorem coherent_history (hattached : svc.attached = true) (h : o.Coherent ts)
    (events : List DeskEvent) : ∃ us, (o.history svc events).Coherent us := by
  induction events generalizing o ts with
  | nil => exact ⟨ts, h⟩
  | cons event rest ih =>
      rcases coherent_happen hattached h event with ⟨us, hnext⟩
      exact ih hnext

/-- What a resolver makes of a look-up on a sound roster. -/
theorem tenant?_ofLookup_find (hs : ts.Sound) (key : String) :
    (∀ r, (Resolved.ofLookup (ts.find key)).tenant? = some r ↔ ts.find key = .ok r) ∧
      ((Resolved.ofLookup (ts.find key)).tenant? = none ↔
        ∃ f, ts.find key = .error f ∧ f.isNotFound = true) := by
  cases hfound : ts.find key with
  | ok t =>
      -- Who answers to a key is active, so the resolver takes it as found.
      rcases (hs.find_eq_ok_iff key t).mp hfound with ⟨_, hans, _⟩
      have hactive : t.isActive = true := ((t.answersTo_iff key).mp hans).1
      rw [Resolved.ofLookup, if_pos hactive]
      simp only [Resolved.tenant?, Option.some.injEq, Except.ok.injEq, implies_true, reduceCtorEq,
        false_and, exists_false, and_self]
  -- On a sound roster a look-up fails for one reason only, which the resolver takes as nobody.
  | error f =>
      rcases (hs.find_eq_error_iff key f).mp hfound with ⟨rfl, _⟩
      simp only [Resolved.ofLookup, Resolved.tenant?, reduceCtorEq, implies_true,
        Except.error.injEq, exists_eq_left', true_and, true_iff]
      rfl

/-- After any history of an office that starts with an empty registry and an
    empty cache, and whose provisioning tells the resolver about changes,
    resolving a key gives a record exactly when the registry would, the same
    one, and nothing exactly when the registry knows of nobody. -/
theorem resolve_eq_find (svc : Service) (hattached : svc.attached = true) (o : Office)
    (hnew : o.IsNew) (events : List DeskEvent) (key : String) :
    ∃ answer, ((o.history svc events).run svc (.resolve key)).2 = some (.resolved answer) ∧
      (∀ r, answer = some r ↔ ((o.history svc events).env.registry.find key).1 = .ok r) ∧
      (answer = none ↔ ∃ f, ((o.history svc events).env.registry.find key).1 = .error f ∧
        f.isNotFound = true) := by
  rcases coherent_history hattached hnew.coherent events with ⟨ts, h⟩
  rcases run_resolve h.idle svc key with ⟨o', answer, hrun, hidle, hc⟩
  refine ⟨answer, congrArg Prod.snd hrun, ?_⟩
  -- The look-up gives what the registry would give, cached or not.
  rw [(h.looked hc hidle).2, h.find_eq]
  exact tenant?_ofLookup_find h.keeps.2 key

end Histories

/-- A service that keeps the store of every tenant in memory. -/
def memoryService : Service where
  generate := fun _ => "sqlite::memory:"
  pool := .tenant

/-- An office that has just been opened, with room for two outcomes. -/
def newOffice : Office where
  env := { registry := { store := .indexed .empty }, resolver := .new [] 2 1000, wall := ⟨0, 0⟩ }
  stores := {}

/-- A tenant's domain is resolved, moved to another word, and resolved
    again. -/
theorem resolve_eq_find_moved :
    newOffice.IsNew ∧
      let o := newOffice.history memoryService
        [.call (.create ((Tenant.new "acme" "Acme" ⟨0, 0⟩).withDomain "Shop")),
          .call (.resolve " SHOP"), .call (.update "acme" { domain := some "market" })]
      ∃ answer, (o.run memoryService (.resolve " SHOP")).2 = some (.resolved answer) ∧
        (∀ r, answer = some r ↔ (o.env.registry.find " SHOP").1 = .ok r) ∧
        (answer = none ↔ ∃ f, (o.env.registry.find " SHOP").1 = .error f ∧
          f.isNotFound = true) :=
  have hnew : newOffice.IsNew := ⟨Or.inl rfl, rfl, rfl, rfl⟩
  ⟨hnew, resolve_eq_find memoryService rfl newOffice hnew _ " SHOP"⟩

end Office

end Multitenancy
