import Multitenancy.Proofs.Resolution.Glances
/-!
# Look-Ups and Deletions Side by Side

Whether a deleted tenant is gone for those who ask later.

A deletion marks the record and then tells the resolver, so no entry that is
in the cache at that moment outlives it, and no look-up that asks the registry
afterwards finds the tenant. What is left is a look-up that has asked the
registry before the mark was set and has not cached the answer yet. It is not
in the cache, so it cannot be forgotten; it is cached after everything else is
over, and from then on the tenant is found again. So the tenant is gone
exactly if there is no such look-up when the deletion ends, or if the cache
keeps nothing.

Neither look-ups nor deletions change a routing key. All copies of a record,
in the cache and with operations under way, therefore have the keys of the
member of the roster that has their id, and this is why forgetting the keys of
the copy that the deletion has read is forgetting those of every copy.

## Main definitions

* `Copies`: Every copy of a record has the keys of its member.
* `Stage.Spares`, `Stage.Clear`: A look-up does not find a tenant, and is not
  about to cache it.
* `Gone`: A deleted tenant is gone.

## Theorems

* `Copies.turn`, `Copies.run`: Every event, and every history, keeps the copies
  in step with the roster.
* `Gone.turn`, `Gone.run`: A tenant that is gone stays gone.
* `gone_after_mark`: When it is gone once it is deleted.
* `Traffic.gone_iff`: Exactly when later look-ups never find the tenant.
* `Traffic.deleted_found_again`: They may.
-/

namespace Multitenancy

/-! ### Copies of records -/

/-- If an outcome is a record, it answers to the key and has the keys of a
    member of the roster. -/
def Resolved.Copied (us : Roster) (key : String) (outcome : Resolved) : Prop :=
  ∀ r, outcome = .found r → r.answersTo key = true ∧ ∃ u ∈ us, r.SameKeys u

/-- The copies that an operation under way has are those of members of the
    roster, and one that it has marked is marked there. -/
def Stage.Faithful (us : Roster) : Stage → Prop
  | .known t => ∃ u ∈ us, t.SameKeys u
  | .marked t => (∃ u ∈ us, t.SameKeys u) ∧ ∀ u ∈ us, u.id = t.id → u.isActive = false
  | .answered key outcome => outcome.Copied us key
  | _ => True

/-- The registry keeps a roster, and all copies of records have the keys of its
    members. -/
structure Copies (us : Roster) (w : Traffic) : Prop where
  serves : w.office.env.registry.Serves us
  narrow : ∀ (n : Nat) (stage : Stage), w.stages[n]? = some stage → stage.Narrow
  cached : ∀ e ∈ w.office.env.resolver.cache.entries, e.value.Copied us e.key
  held : ∀ (n : Nat) (stage : Stage), w.stages[n]? = some stage → stage.Faithful us

section Copying

variable {us vs : Roster} {c c' : Cache Resolved} {stage stage' : Stage}

theorem Tenant.SameKeys.trans {t u v : Tenant} (h : t.SameKeys u) (h' : u.SameKeys v) :
    t.SameKeys v :=
  ⟨h.id.trans h'.id, h.domain.trans h'.domain, h.subdomain.trans h'.subdomain⟩

theorem Turn.fades {w w' : Traffic} (h : Turn us vs w w') : us.Fades vs := by
  cases h with
  | start _ hroster _ _ => exact hroster ▸ .refl us
  | pass hroster _ _ _ => exact hroster ▸ .refl us
  | act _ _ _ hglanced => exact hglanced.fades

theorem Roster.Fades.sameKeys (h : us.Fades vs) {t : Tenant} (ht : ∃ u ∈ us, t.SameKeys u) :
    ∃ v ∈ vs, t.SameKeys v := by
  rcases ht with ⟨u, hu, hsame⟩
  rcases h.forth u hu with ⟨v, hv, hkeys, _⟩
  exact ⟨v, hv, hsame.trans hkeys⟩

theorem Roster.Fades.inactive (h : us.Fades vs) {id : String}
    (hid : ∀ u ∈ us, u.id = id → u.isActive = false) :
    ∀ v ∈ vs, v.id = id → v.isActive = false := by
  intro v hv hvid
  rcases h.back v hv with ⟨u, hu, huv, hinactive⟩
  exact hinactive (hid u hu (huv.trans hvid))

/-- Copies outlast the marking of records. -/
theorem Roster.Fades.copied (h : us.Fades vs) {key : String} {outcome : Resolved}
    (hcopied : outcome.Copied us key) : outcome.Copied vs key := by
  intro r hr
  rcases hcopied r hr with ⟨hanswers, hsame⟩
  exact ⟨hanswers, h.sameKeys hsame⟩

theorem Roster.Fades.faithful (h : us.Fades vs) (hstage : stage.Faithful us) :
    stage.Faithful vs := by
  cases stage with
  | known t => exact h.sameKeys hstage
  | marked t => exact ⟨h.sameKeys hstage.1, h.inactive hstage.2⟩
  | answered key outcome => exact h.copied hstage
  | _ => trivial

/-- The answer of the registry is a copy of a member that answers to the key. -/
theorem copied_find (hs : us.Sound) (key : String) :
    (Resolved.ofLookup (us.find key)).Copied us key := by
  intro r hr
  have hfound := ((Office.tenant?_ofLookup_find hs key).1 r).mp (by rw [hr, Resolved.tenant?])
  rcases (hs.find_eq_ok_iff key r).mp hfound with ⟨hmem, hanswers, _⟩
  exact ⟨hanswers, r, hmem, ⟨rfl, rfl, rfl⟩⟩

/-- A step leads from a stage with faithful copies to one. -/
theorem Glance.faithful (h : Glance us vs c c' stage stage') (hs : us.Sound)
    (hfades : us.Fades vs) (hstage : stage.Faithful us) : stage'.Faithful vs := by
  cases h with
  | hit _ _ => trivial
  | miss => trivial
  -- What the registry answers now is a copy of a record, and records that fade keep their keys.
  | answer => exact hfades.copied (copied_find hs _)
  | fill => trivial
  -- A deletion has read the record itself, whose keys stay with it.
  | know ht => exact hfades.sameKeys ⟨_, ht, ⟨rfl, rfl, rfl⟩⟩
  | mark hmarked => exact ⟨hfades.sameKeys hstage, hmarked⟩
  | forget _ => trivial
  | refuse => trivial
  | rest hsame =>
      rcases hsame with rfl | rfl
      · exact hfades.faithful hstage
      · trivial

end Copying

namespace Copies

variable {svc : Service} {us vs : Roster} {w w' : Traffic}

theorem turn (h : Copies us w) (hturn : Turn us vs w w') : Copies vs w' := by
  cases hturn with
  -- A new call comes with no copy of anything.
  | @start c hnarrow hroster hoffice hstages =>
      subst hroster
      refine ⟨hoffice ▸ h.serves, fun n stage hn => ?_, hoffice ▸ h.cached, fun n stage hn => ?_⟩
      · rcases Traffic.getElem?_start hstages hn with hold | rfl
        · exact h.narrow n stage hold
        · exact hnarrow
      · rcases Traffic.getElem?_start hstages hn with hold | rfl
        · exact h.held n stage hold
        · trivial
  | pass hroster hregistry hcache hstages =>
      subst hroster
      exact ⟨hregistry ▸ h.serves, hstages ▸ h.narrow, hcache ▸ h.cached, hstages ▸ h.held⟩
  -- One operation took a step: what it holds now comes from its own stage or the registry.
  | @act task stage stage' hstage hstage' hothers hglanced =>
      have hfades := hglanced.fades
      refine ⟨hglanced.serves, fun n other hn => ?_, fun e he => ?_, fun n other hn => ?_⟩
      · by_cases hnt : n = task
        · subst hnt
          rw [hstage', Option.some.injEq] at hn
          exact hn ▸ hglanced.narrow
        · rw [hothers n hnt] at hn
          exact h.narrow n other hn
      · -- An entry was there before, or is the answer that the operation held.
        rcases hglanced.entries e he with hold | hanswered
        · exact hfades.copied (h.cached e hold)
        · have hcopied := h.held task stage hstage
          rw [hanswered] at hcopied
          exact hfades.copied hcopied
      · by_cases hnt : n = task
        · subst hnt
          rw [hstage', Option.some.injEq] at hn
          rw [← hn]
          exact hglanced.glance.faithful h.serves.keeps.2 hfades (h.held n stage hstage)
        · -- The others did not move, and what they hold has faded with the records.
          rw [hothers n hnt] at hn
          exact hfades.faithful (h.held n other hn)

theorem next (hattached : svc.attached = true) (h : Copies us w) {e : TrafficEvent}
    (he : e.Narrow) : ∃ vs, Turn us vs w (w.next svc e) ∧ Copies vs (w.next svc e) := by
  rcases Turn.of_next hattached h.serves h.narrow he with ⟨vs, hturn⟩
  exact ⟨vs, hturn, h.turn hturn⟩

theorem run (hattached : svc.attached = true) (h : Copies us w) {history : List TrafficEvent}
    (hnarrow : ∀ e ∈ history, e.Narrow) : ∃ vs, Copies vs (w.run svc history) := by
  induction history generalizing w us with
  | nil => exact ⟨us, h⟩
  | cons e rest ih =>
      rw [List.forall_mem_cons] at hnarrow
      rcases h.next hattached hnarrow.1 with ⟨vs, _, hnext⟩
      exact ih hnext hnarrow.2

end Copies

/-! ### A tenant that is gone -/

/-- An outcome is not a record with an id. -/
def Resolved.Spares (id : String) (outcome : Resolved) : Prop :=
  ∀ r, outcome = .found r → r.id ≠ id

/-- A look-up does not find a tenant with an id. -/
def Stage.Spares (id : String) : Stage → Prop
  | .answered _ outcome => outcome.Spares id
  | .done (.resolved (some r)) => r.id ≠ id
  | _ => True

/-- A look-up is not about to cache a tenant with an id. -/
def Stage.Clear (id : String) : Stage → Prop
  | .answered _ outcome => outcome.Spares id
  | _ => True

/-- The tenant with an id is gone: it is marked on the roster, no operation from
    number `fresh` on finds it, and if anything is cached at all, then nobody
    finds it in the cache or is about to put it there. -/
structure Gone (id : String) (fresh : Nat) (us : Roster) (w : Traffic) : Prop where
  marked : ∀ u ∈ us, u.id = id → u.isActive = false
  spared : ∀ (n : Nat) (stage : Stage), fresh ≤ n → w.stages[n]? = some stage → stage.Spares id
  uncached : w.office.env.resolver.cache.isEnabled = true →
    (∀ e ∈ w.office.env.resolver.cache.entries, e.value.Spares id) ∧
      ∀ (n : Nat) (stage : Stage), w.stages[n]? = some stage → stage.Clear id

section Going

variable {id : String} {us vs : Roster} {c c' : Cache Resolved} {stage stage' : Stage}

theorem spares_tenant? {outcome : Resolved} (h : outcome.Spares id) :
    (Stage.done (.resolved outcome.tenant?)).Spares id := by
  cases outcome with
  | found r => exact h r rfl
  | missing => trivial

/-- The registry does not answer with a tenant that is marked. -/
theorem spares_find (hs : us.Sound) (hmarked : ∀ u ∈ us, u.id = id → u.isActive = false)
    (key : String) : (Resolved.ofLookup (us.find key)).Spares id := by
  intro r hr hid
  rcases copied_find hs key r hr with ⟨hanswers, _⟩
  have hfound := ((Office.tenant?_ofLookup_find hs key).1 r).mp (by rw [hr, Resolved.tenant?])
  have hmem := ((hs.find_eq_ok_iff key r).mp hfound).1
  have hactive := ((r.answersTo_iff key).mp hanswers).1
  rw [hmarked r hmem hid] at hactive
  exact Bool.false_ne_true hactive

/-- A step does not find a tenant that is gone. -/
theorem Glance.spares (h : Glance us vs c c' stage stage') (hs : us.Sound)
    (hmarked : ∀ u ∈ us, u.id = id → u.isActive = false)
    (hcached : c.isEnabled = true → ∀ e ∈ c.entries, e.value.Spares id)
    (hstage : stage.Spares id) : stage'.Spares id := by
  cases h with
  -- What is cached spares the tenant, and so does what was answered and is cached now.
  | hit he henabled => exact spares_tenant? (hcached henabled _ he)
  | miss => trivial
  -- The registry does not find a tenant that is marked as deleted.
  | answer => exact spares_find hs hmarked _
  | fill => exact spares_tenant? hstage
  | know _ => trivial
  | mark _ => trivial
  | forget _ => trivial
  | refuse => trivial
  | rest hsame =>
      rcases hsame with rfl | rfl
      · exact hstage
      · trivial

theorem Glance.clear (h : Glance us vs c c' stage stage') (hs : us.Sound)
    (hmarked : ∀ u ∈ us, u.id = id → u.isActive = false) (hstage : stage.Clear id) :
    stage'.Clear id := by
  cases h with
  -- Only the step that asks the registry brings in an answer, and there the tenant is gone.
  | answer => exact spares_find hs hmarked _
  | rest hsame =>
      rcases hsame with rfl | rfl
      · exact hstage
      · trivial
  | _ => trivial

end Going

namespace Gone

variable {svc : Service} {id : String} {fresh : Nat} {us vs : Roster} {w w' : Traffic}

theorem turn (h : Gone id fresh us w) (hs : us.Sound) (hturn : Turn us vs w w') :
    Gone id fresh vs w' := by
  cases hturn with
  -- A call that starts now has not found anything yet.
  | @start c hnarrow hroster hoffice hstages =>
      subst hroster
      refine ⟨h.marked, fun n stage hfresh hn => ?_, fun henabled => ?_⟩
      · rcases Traffic.getElem?_start hstages hn with hold | rfl
        · exact h.spared n stage hfresh hold
        · trivial
      · rw [hoffice] at henabled ⊢
        refine ⟨(h.uncached henabled).1, fun n stage hn => ?_⟩
        rcases Traffic.getElem?_start hstages hn with hold | rfl
        · exact (h.uncached henabled).2 n stage hold
        · trivial
  | pass hroster hregistry hcache hstages =>
      subst hroster
      refine ⟨h.marked, hstages ▸ h.spared, fun henabled => ?_⟩
      rw [hcache] at henabled ⊢
      rw [hstages]
      exact h.uncached henabled
  | @act task stage stage' hstage hstage' hothers hglanced =>
      -- The lifetime of entries is settled, so caching was on before if it is on after.
      have henabled : w'.office.env.resolver.cache.isEnabled =
          w.office.env.resolver.cache.isEnabled := by
        rw [Cache.isEnabled, hglanced.lifetime, Cache.isEnabled]
      refine ⟨hglanced.fades.inactive h.marked, fun n other hfresh hn => ?_, fun hon => ?_⟩
      · -- Of the operations that are new since, one has moved, and what it found spares the tenant.
        by_cases hnt : n = task
        · subst hnt
          rw [hstage', Option.some.injEq] at hn
          rw [← hn]
          exact hglanced.glance.spares hs h.marked (fun hon => (h.uncached hon).1)
            (h.spared n stage hfresh hstage)
        · rw [hothers n hnt] at hn
          exact h.spared n other hfresh hn
      · rw [henabled] at hon
        rcases h.uncached hon with ⟨hcached, hclear⟩
        refine ⟨fun e he => ?_, fun n other hn => ?_⟩
        · -- The one entry that may have come in is what the operation held, which was clear.
          rcases hglanced.entries e he with hold | hanswered
          · exact hcached e hold
          · have hspares := hclear task stage hstage
            rw [hanswered] at hspares
            exact hspares
        · by_cases hnt : n = task
          · subst hnt
            rw [hstage', Option.some.injEq] at hn
            rw [← hn]
            exact hglanced.glance.clear hs h.marked (hclear n stage hstage)
          · rw [hothers n hnt] at hn
            exact hclear n other hn

/-- A tenant that is gone stays gone. -/
theorem run (hattached : svc.attached = true) (h : Gone id fresh us w) (hcopies : Copies us w)
    {history : List TrafficEvent} (hnarrow : ∀ e ∈ history, e.Narrow) :
    ∃ vs, Gone id fresh vs (w.run svc history) := by
  induction history generalizing w us with
  | nil => exact ⟨us, h⟩
  | cons e rest ih =>
      rw [List.forall_mem_cons] at hnarrow
      rcases hcopies.next hattached hnarrow.1 with ⟨vs, hturn, hnext⟩
      exact ih (h.turn hcopies.serves.keeps.2 hturn) hnext hnarrow.2

end Gone

/-- Once the resolver has forgotten the keys of a copy, no entry with a copy of
    the same record is left: its key would be one of those. -/
theorem spares_of_forgotten {us : Roster} (hs : us.Sound) {t : Tenant}
    (ht : ∃ u ∈ us, t.SameKeys u) {e : CacheEntry Resolved} (hcopied : e.value.Copied us e.key)
    (hleft : ∀ key ∈ t.routingKeys, foldKey e.key ≠ foldKey key) : e.value.Spares t.id := by
  intro r hr hid
  rcases ht with ⟨u, hu, htu⟩
  rcases hcopied r hr with ⟨hanswers, v, hv, hrv⟩
  -- Both are copies of the one member with the id.
  have huv : v = u := hs.eq_of_id hv hu (by rw [← hrv.id, hid, htu.id])
  subst huv
  have hfold := (v.normalised_eq_self_iff).mp (hs.folded v hv)
  have hne : t.id ≠ "" := by
    rw [htu.id]
    exact Tenant.id_ne_empty (hs.checked v hv)
  have hnot : r.answersTo e.key = false := by
    refine not_answersTo_of_forgotten hne hid ?_ ?_ hleft
    · rw [hrv.domain, htu.domain, hfold.1]
    · rw [hrv.subdomain, htu.subdomain, hfold.2]
  rw [hnot] at hanswers
  exact Bool.false_ne_true hanswers

/-- When a deletion ends, its tenant is gone for all operations that start from
    then on, unless the cache keeps entries and some look-up is about to cache
    the tenant. -/
theorem gone_after_mark {svc : Service} (hattached : svc.attached = true) {us vs : Roster}
    {w : Traffic} (h : Copies us w) (hfades : us.Fades vs) {d : Nat} {t : Tenant}
    (hd : w.stages[d]? = some (.marked t))
    (hclear : w.office.env.resolver.cache.isEnabled = true →
      ∀ (n : Nat) (stage : Stage), w.stages[n]? = some stage → stage.Clear t.id) :
    Gone t.id w.stages.length vs (w.next svc (.step d)) := by
  have hmarked := h.held d _ hd
  have hoffice : (w.next svc (.step d)).office = w.office.forget svc t := by
    rw [Traffic.next_step, Traffic.office_act hd, Stage.step]
  have hresolver : (w.next svc (.step d)).office.env.resolver =
      w.office.env.resolver.invalidateTenant t := by
    rw [hoffice, Office.resolver_forget hattached]
  have hothers : ∀ n, n ≠ d → (w.next svc (.step d)).stages[n]? = w.stages[n]? := by
    intro n hnd
    rw [Traffic.next_step, Traffic.getElem?_act_of_ne hnd]
  have hself : (w.next svc (.step d)).stages[d]? = some (.done (.deleted (.ok ()))) := by
    rw [Traffic.next_step, Traffic.getElem?_act_self hd, Stage.step]
  refine ⟨hfades.inactive hmarked.2, fun n stage hfresh hn => ?_,
    fun hon => ⟨fun e he => ?_, fun n stage hn => ?_⟩⟩
  · -- There is no operation with such a number yet.
    have hnd : n ≠ d := by
      have hlt : d < w.stages.length := (List.getElem?_eq_some_iff.mp hd).1
      omega
    rw [hothers n hnd, List.getElem?_eq_none hfresh] at hn
    exact absurd hn (by simp only [reduceCtorEq, not_false_eq_true])
  · rw [hresolver] at he
    rcases (Resolver.mem_invalidateTenant_iff _ t e).mp he with ⟨hold, hleft⟩
    exact spares_of_forgotten h.serves.keeps.2 hmarked.1 (h.cached e hold) hleft
  · by_cases hnd : n = d
    · subst hnd
      rw [hself, Option.some.injEq] at hn
      rw [← hn]
      trivial
    · rw [hothers n hnd] at hn
      rw [Cache.isEnabled, hresolver, Resolver.lifetime_invalidateTenant] at hon
      exact hclear hon n stage hn

/-! ### What later look-ups find -/

namespace Traffic

/-- An office after a history of operations that ran alone, with nothing under
    way. -/
def opened (svc : Service) (o : Office) (events : List DeskEvent) : Traffic :=
  { office := o.history svc events }

variable {svc : Service} {o : Office}

theorem copies_opened (hattached : svc.attached = true) (hnew : o.IsNew)
    (events : List DeskEvent) : ∃ us, Copies us (opened svc o events) := by
  rcases Office.coherent_history hattached hnew.coherent events with ⟨us, hcoherent⟩
  -- At first no operation is under way, and what is cached is what the registry would say.
  have hnone : ∀ (n : Nat) (stage : Stage), (opened svc o events).stages[n]? ≠ some stage := by
    intro n stage
    simp only [opened, List.getElem?_nil, ne_eq, reduceCtorEq, not_false_eq_true]
  refine ⟨us, ⟨hcoherent.keeps, hcoherent.online⟩, fun n stage hn => absurd hn (hnone n stage),
    fun e he => ?_, fun n stage hn => absurd hn (hnone n stage)⟩
  rw [hcoherent.cached e he]
  exact copied_find hcoherent.keeps.2 e.key

/-- A look-up that is about to cache its answer does so, and the next look-up of
    the key has the same answer. -/
theorem found_after_fill {w : Traffic} (henabled : w.office.env.resolver.cache.isEnabled = true)
    {n : Nat} {key : String} {r : Tenant}
    (hn : w.stages[n]? = some (.answered key (.found r))) :
    (w.run svc [.step n, .start (.resolve key), .step w.stages.length]).stages[w.stages.length]? =
      some (.done (.resolved (some r))) := by
  have hcache : (w.next svc (.step n)).office.env.resolver.cache =
      w.office.env.resolver.cache.set w.office.env.clock key (.found r) := by
    rw [next_step, office_act hn]
    rfl
  have hclock : (w.next svc (.step n)).office.env.clock = w.office.env.clock := by
    rw [next_step, office_act hn]
    rfl
  have hlength : (w.next svc (.step n)).stages.length = w.stages.length := by
    rw [next_step, length_act]
  -- The second look-up is the last operation that was started.
  have hstart : ((w.next svc (.step n)).next svc (.start (.resolve key))).stages[w.stages.length]? =
      some (.begun (.resolve key)) := by
    rw [← hlength]
    exact List.getElem?_concat_length
  have hhit : ((w.next svc (.step n)).office.env.resolver.cache.get
      (w.next svc (.step n)).office.env.clock key).1 = some (.found r) := by
    rw [hcache, hclock, Cache.get_set_self henabled]
  have hrun : w.run svc [.step n, .start (.resolve key), .step w.stages.length] =
      ((w.next svc (.step n)).next svc (.start (.resolve key))).next svc
        (.step w.stages.length) := rfl
  rw [hrun, next_step, getElem?_act_self hstart, Option.some.injEq]
  have hoffice : ((w.next svc (.step n)).next svc (.start (.resolve key))).office =
      (w.next svc (.step n)).office := rfl
  rw [hoffice]
  rcases hget : (w.next svc (.step n)).office.env.resolver.cache.get
    (w.next svc (.step n)).office.env.clock key with ⟨hit, cache⟩
  rw [hget] at hhit
  simp only at hhit
  simp only [Stage.step, Office.start, Resolver.probe, hget, hhit, Resolved.tenant?]

/-- The tenant of a deletion that has marked it is not found by later look-ups,
    if nothing is cached or nobody is about to cache it. -/
theorem not_found_of_clear {us : Roster} {w : Traffic} (hattached : svc.attached = true)
    (hcopies : Copies us w) {d : Nat} {t : Tenant} (hd : w.stages[d]? = some (.marked t))
    (hclear : w.office.env.resolver.cache.isEnabled = false ∨
      ∀ (n : Nat) (key : String) (r : Tenant),
        w.stages[n]? = some (.answered key (.found r)) → r.id ≠ t.id)
    {later : List TrafficEvent} (hlater : ∀ e ∈ later, e.Narrow) {n : Nat} {r : Tenant}
    (hfresh : w.stages.length ≤ n)
    (hn : ((w.next svc (.step d)).run svc later).stages[n]? =
      some (.done (.resolved (some r)))) : r.id ≠ t.id := by
  -- The last step of the deletion makes everything in the cache fresh, and what is still held by a
  -- look-up spares the tenant.
  rcases hcopies.next hattached (e := .step d) trivial with ⟨vs, hturn, hnext⟩
  have hgone : Gone t.id w.stages.length vs (w.next svc (.step d)) := by
    refine gone_after_mark hattached hcopies hturn.fades hd fun henabled k stage hk => ?_
    rcases hclear with hdisabled | hclear
    · -- With caching switched off nothing is asked of the look-ups.
      rw [hdisabled] at henabled
      exact absurd henabled Bool.false_ne_true
    · cases stage with
      | answered key outcome => exact fun r hr => hclear k key r (hr ▸ hk)
      | _ => trivial
  rcases hgone.run hattached hnext hlater with ⟨us', hlast⟩
  exact hlast.spared n _ hfresh hn

/-- It is found by a later look-up, if somebody is about to cache it. -/
theorem found_of_answered {w : Traffic} (hattached : svc.attached = true) {d : Nat} {t : Tenant}
    (hd : w.stages[d]? = some (.marked t))
    (henabled : w.office.env.resolver.cache.isEnabled = true) {n : Nat} {key : String} {r : Tenant}
    (hn : w.stages[n]? = some (.answered key (.found r))) :
    ∃ later : List TrafficEvent, (∀ e ∈ later, e.Narrow) ∧
      ((w.next svc (.step d)).run svc later).stages[w.stages.length]? =
        some (.done (.resolved (some r))) := by
  have hnd : n ≠ d := by
    rintro rfl
    rw [hn] at hd
    exact absurd hd (by simp only [Option.some.injEq, reduceCtorEq, not_false_eq_true])
  -- The last step of the deletion is none of that look-up's business.
  have hn' : (w.next svc (.step d)).stages[n]? = some (.answered key (.found r)) := by
    rw [← hn, next_step, getElem?_act_of_ne hnd]
  have hlength : (w.next svc (.step d)).stages.length = w.stages.length := by
    rw [next_step, length_act]
  have henabled' : (w.next svc (.step d)).office.env.resolver.cache.isEnabled = true := by
    rw [next_step, office_act hd, Stage.step, Cache.isEnabled, Office.resolver_forget hattached,
      Resolver.lifetime_invalidateTenant]
    exact henabled
  refine ⟨[.step n, .start (.resolve key), .step w.stages.length], ?_, ?_⟩
  · simp only [List.forall_mem_cons, List.not_mem_nil, false_implies, implies_true, and_true]
    exact ⟨trivial, trivial, trivial⟩
  · rw [← hlength]
    exact found_after_fill henabled' hn'

/-- Any number of look-ups and deletions are under way, in any order of their
    steps, and one of the deletions takes its last step and is accepted. No
    look-up that starts after it finds the tenant, whatever key it has and
    whatever happens until it ends, exactly if at that step the cache keeps
    nothing or no look-up has the registry's answer for the tenant and is about
    to cache it. -/
theorem gone_iff (svc : Service) (hattached : svc.attached = true) (o : Office) (hnew : o.IsNew)
    (events : List DeskEvent) (before : List TrafficEvent) (hbefore : ∀ e ∈ before, e.Narrow)
    (d : Nat) (t : Tenant)
    (hd : ((opened svc o events).run svc before).stages[d]? = some (.marked t)) :
    let w := (opened svc o events).run svc before
    let after := w.next svc (.step d)
    after.stages[d]? = some (.done (.deleted (.ok ()))) ∧
      ((∀ later : List TrafficEvent, (∀ e ∈ later, e.Narrow) → ∀ (n : Nat) (r : Tenant),
          w.stages.length ≤ n →
            (after.run svc later).stages[n]? = some (.done (.resolved (some r))) → r.id ≠ t.id) ↔
        w.office.env.resolver.cache.isEnabled = false ∨
          ∀ (n : Nat) (key : String) (r : Tenant),
            w.stages[n]? = some (.answered key (.found r)) → r.id ≠ t.id) := by
  rcases copies_opened hattached hnew events with ⟨us, hopened⟩
  rcases hopened.run hattached hbefore with ⟨vs, hcopies⟩
  refine ⟨by rw [next_step, getElem?_act_self hd, Stage.step], fun hgone => ?_,
    fun hclear later hlater n r hfresh hn =>
      not_found_of_clear hattached hcopies hd hclear hlater hfresh hn⟩
  -- If caching is on and some look-up holds the tenant, let it cache the tenant and start another
  -- look-up, which finds it there.
  by_cases henabled :
      ((opened svc o events).run svc before).office.env.resolver.cache.isEnabled = true
  · right
    intro n key r hn
    rcases found_of_answered hattached hd henabled hn with ⟨later, hlater, hfound⟩
    exact hgone later hlater _ r (Nat.le_refl _) hfound
  · exact Or.inl (by rw [← Bool.not_eq_true]; exact henabled)

/-- A tenant with the domain `shop`, as it is stored. -/
def shopRecord : Tenant :=
  { (Tenant.new "acme" "Acme" ⟨0, 0⟩).withDomain "shop" with storeLocator := "sqlite::memory:" }

/-- An office with that tenant. -/
def shopEvents : List DeskEvent :=
  [.call (.create shopRecord)]

/-- A look-up of the domain misses and asks the registry; then the tenant is
    deleted, up to the last step. -/
def askedBefore : List TrafficEvent :=
  [.start (.resolve "shop"), .step 0, .step 0, .start (.delete "acme"), .step 1, .step 1]

/-- The deletion ends, and then the look-up does and caches its answer. The next
    look-up of the domain finds the deleted tenant. -/
theorem deleted_found_again :
    let w := (opened Office.memoryService Office.newOffice shopEvents).run Office.memoryService
      askedBefore
    let deleted := w.next Office.memoryService (.step 1)
    let last := deleted.run Office.memoryService [.step 0, .start (.resolve "shop"), .step 2]
    deleted.stages[1]? = some (.done (.deleted (.ok ()))) ∧ deleted.stages.length = 2 ∧
      last.stages[2]? = some (.done (.resolved (some shopRecord))) ∧
      deleted.office.env.registry.findById "acme" = .ok (Roster.buried shopRecord ⟨0, 0⟩) := by
  decide +kernel

/-- Without the look-up the tenant is gone for good. -/
theorem gone_iff_alone :
    let w := (opened Office.memoryService Office.newOffice shopEvents).run Office.memoryService
      [.start (.delete "acme"), .step 0, .step 0]
    w.stages = [.marked shopRecord] ∧
      ∀ later : List TrafficEvent, (∀ e ∈ later, e.Narrow) → ∀ (n : Nat) (r : Tenant), 1 ≤ n →
        ((w.next Office.memoryService (.step 0)).run Office.memoryService later).stages[n]? =
          some (.done (.resolved (some r))) → r.id ≠ "acme" := by
  -- Only the deletion is under way, so no look-up has an answer to cache.
  have hnew : Office.newOffice.IsNew := ⟨Or.inl rfl, rfl, rfl, rfl⟩
  have hstages : ((opened Office.memoryService Office.newOffice shopEvents).run
      Office.memoryService [.start (.delete "acme"), .step 0, .step 0]).stages =
      [.marked shopRecord] := by decide +kernel
  have hnarrow : ∀ e ∈ [TrafficEvent.start (.delete "acme"), .step 0, .step 0], e.Narrow := by
    simp only [List.forall_mem_cons, List.not_mem_nil, false_implies, implies_true, and_true]
    exact ⟨trivial, trivial, trivial⟩
  rcases gone_iff Office.memoryService rfl Office.newOffice hnew shopEvents _ hnarrow 0 shopRecord
    (by rw [hstages]; rfl) with ⟨_, hgone⟩
  refine ⟨hstages, fun later hlater n r hfresh hn => ?_⟩
  refine hgone.mpr (Or.inr fun k key other hk => ?_) later hlater n r
    (by rw [hstages]; exact hfresh) hn
  rw [hstages] at hk
  have hmem := List.mem_singleton.mp (List.mem_of_getElem? hk)
  exact absurd hmem (by simp only [reduceCtorEq, not_false_eq_true])

end Traffic

end Multitenancy
