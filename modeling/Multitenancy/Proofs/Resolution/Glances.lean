import Multitenancy.Proofs.Provisioning.Traffic
import Multitenancy.Proofs.Registry.Serving
import Multitenancy.Proofs.Resolution.Transparency
/-!
# Look-Ups and Deletions, Step by Step

What a step of a look-up or a deletion does to the roster and to the cache.

A look-up reads the cache, asks the registry and caches the answer; a deletion
reads the record, marks it and has its keys forgotten. `Glance` has one case
for each of these steps. In all of them records are marked at most, and the
only entry that may be new in the cache is the answer that a look-up had from
the registry before. What else a step does to the office is no matter of who
is found by whom, and the steps are opened here and nowhere else.

## Main definitions

* `Stage.Narrow`, `TrafficEvent.Narrow`: Look-ups and deletions.
* `Roster.Fades`: A roster of the same records, of which some were marked.
* `Glance`, `Glanced`: What one step does.
* `Turn`: What one event does.

## Theorems

* `Glanced.fades_softDelete`: A deletion leaves all keys as they are.
* `Glanced.of_step`: Every step of a look-up or a deletion is a glance.
* `Turn.of_next`: Every event takes one turn.
-/

namespace Multitenancy

/-! ### What one step does -/

/-- The stages of look-ups and deletions. -/
def Stage.Narrow : Stage → Prop
  | .begun (.resolve _) | .begun (.delete _) => True
  | .known _ | .marked _ | .missed _ | .answered _ _ | .done _ | .dropped => True
  | _ => False

/-- An event that starts nothing but a look-up or a deletion. -/
def TrafficEvent.Narrow : TrafficEvent → Prop
  | .start (.resolve _) | .start (.delete _) => True
  | .start _ => False
  | _ => True

/-- A roster of the same records, of which some were marked as deleted. -/
structure Roster.Fades (us vs : Roster) : Prop where
  /-- Each record is still there under its keys. -/
  forth : ∀ u ∈ us, ∃ v ∈ vs, u.SameKeys v ∧ (u.isActive = false → v.isActive = false)
  /-- No record is new, and none comes back. -/
  back : ∀ v ∈ vs, ∃ u ∈ us, u.id = v.id ∧ (u.isActive = false → v.isActive = false)

theorem Roster.Fades.refl (us : Roster) : us.Fades us :=
  ⟨fun u hu => ⟨u, hu, ⟨rfl, rfl, rfl⟩, id⟩, fun u hu => ⟨u, hu, rfl, id⟩⟩

/-- How a step takes a look-up or a deletion from one stage to the next. -/
inductive Glance (us vs : Roster) (c c' : Cache Resolved) : Stage → Stage → Prop where
  /-- A look-up finds its answer in the cache. -/
  | hit {e : CacheEntry Resolved} (he : e ∈ c.entries) (henabled : c.isEnabled = true) :
      Glance us vs c c' (.begun (.resolve e.key)) (.done (.resolved e.value.tenant?))
  /-- A look-up does not. -/
  | miss {key : String} : Glance us vs c c' (.begun (.resolve key)) (.missed key)
  /-- The registry answers. -/
  | answer {key : String} :
      Glance us vs c c' (.missed key) (.answered key (.ofLookup (us.find key)))
  /-- The answer is cached. -/
  | fill {key : String} {outcome : Resolved} :
      Glance us vs c c' (.answered key outcome) (.done (.resolved outcome.tenant?))
  /-- A deletion reads its record. -/
  | know {t : Tenant} (ht : t ∈ us) : Glance us vs c c' (.begun (.delete t.id)) (.known t)
  /-- A deletion marks its record. -/
  | mark {t : Tenant} (hmarked : ∀ v ∈ vs, v.id = t.id → v.isActive = false) :
      Glance us vs c c' (.known t) (.marked t)
  /-- The resolver forgets the keys of the record. -/
  | forget {t : Tenant} (hleft : ∀ e ∈ c'.entries, e ∈ c.entries ∧
      ∀ key ∈ t.routingKeys, foldKey e.key ≠ foldKey key) :
      Glance us vs c c' (.marked t) (.done (.deleted (.ok ())))
  /-- A deletion is refused. -/
  | refuse {stage : Stage} {f : Fault} : Glance us vs c c' stage (.done (.deleted (.error f)))
  /-- Nothing happens, or the operation is dropped. -/
  | rest {stage stage' : Stage} (hstage : stage' = stage ∨ stage' = .dropped) :
      Glance us vs c c' stage stage'

/-- What one step of a look-up or a deletion does: records are marked at most,
    and the only entry that may be new in the cache is the answer of the
    registry. -/
structure Glanced (us vs : Roster) (o o' : Office) (stage stage' : Stage) : Prop where
  serves : o'.env.registry.Serves vs
  fades : us.Fades vs
  lifetime : o'.env.resolver.cache.lifetime = o.env.resolver.cache.lifetime
  entries : ∀ e ∈ o'.env.resolver.cache.entries,
    e ∈ o.env.resolver.cache.entries ∨ stage = .answered e.key e.value
  narrow : stage'.Narrow
  glance : Glance us vs o.env.resolver.cache o'.env.resolver.cache stage stage'

namespace Glanced

variable {svc : Service} {o : Office} {us : Roster}

/-- Marking a record leaves all keys as they are. -/
theorem fades_softDelete {vs : Roster} {id : String} {now : Timestamp} (hs : us.Sound)
    (hc : us.softDelete id now = .ok vs) :
    us.Fades vs ∧ ∀ v ∈ vs, v.id = id → v.isActive = false := by
  rcases (Roster.softDelete_eq_ok_iff us vs id now).mp hc with ⟨existing, hex, rfl⟩
  rcases Roster.mem_of_byId? hex with ⟨hmem, hid⟩
  have hburied : (Roster.buried existing now).isActive = false := rfl
  by_cases hactive : existing.isActive = true
  · rw [if_pos hactive]
    refine ⟨⟨fun u hu => ?_, fun v hv => ?_⟩, fun v hv hvid => ?_⟩
    · by_cases huid : u.id = id
      · -- The member with the id is the one that is replaced.
        have hsame : u = existing := hs.eq_of_id hu hmem (huid.trans hid.symm)
        subst hsame
        exact ⟨Roster.buried u now, (Roster.mem_replace_iff us id _ _).mpr
          (Or.inr ⟨rfl, u, hu, huid⟩), ⟨rfl, rfl, rfl⟩, fun _ => hburied⟩
      · exact ⟨u, (Roster.mem_replace_iff us id _ _).mpr (Or.inl ⟨hu, huid⟩), ⟨rfl, rfl, rfl⟩,
          fun hinactive => hinactive⟩
    · rcases (Roster.mem_replace_iff us id _ v).mp hv with ⟨hv, _⟩ | ⟨rfl, _⟩
      · exact ⟨v, hv, rfl, fun hinactive => hinactive⟩
      · exact ⟨existing, hmem, rfl, fun _ => hburied⟩
    · rcases (Roster.mem_replace_iff us id _ v).mp hv with ⟨_, hne⟩ | ⟨rfl, _⟩
      · exact absurd hvid hne
      · exact hburied
  · -- The record was marked before.
    rw [if_neg hactive]
    refine ⟨.refl us, fun v hv hvid => ?_⟩
    rw [hs.eq_of_id hv hmem (hvid.trans hid.symm), ← Bool.not_eq_true]
    exact hactive

/-- A step that leaves the registry and the cache alone. -/
theorem of_env {o' : Office} {stage stage' : Stage} (h : o.env.registry.Serves us)
    (henv : o'.env = o.env) (hnarrow : stage'.Narrow)
    (hglance : Glance us us o.env.resolver.cache o.env.resolver.cache stage stage') :
    Glanced us us o o' stage stage' where
  serves := henv ▸ h
  fades := .refl us
  lifetime := by rw [henv]
  entries := by
    rw [henv]
    exact fun e he => Or.inl he
  narrow := hnarrow
  glance := by
    rw [henv]
    exact hglance

/-- The first step of a look-up. -/
theorem of_probe (h : o.env.registry.Serves us) (svc : Service) (key : String) (task : Nat) :
    Glanced us us o ((Stage.begun (.resolve key)).step svc o task).1 (.begun (.resolve key))
      ((Stage.begun (.resolve key)).step svc o task).2 := by
  -- Reading the cache moves entries and drops stale ones, but brings in none.
  rcases hget : o.env.resolver.cache.get o.env.clock key with ⟨hit, cache⟩
  have hentries : ∀ e ∈ cache.entries, e ∈ o.env.resolver.cache.entries := by
    intro e he
    have hread : e ∈ (o.env.resolver.cache.get o.env.clock key).2.entries := by
      rw [hget]
      exact he
    exact Cache.mem_of_mem_get hread
  have hlifetime : cache.lifetime = o.env.resolver.cache.lifetime := by
    rw [← o.env.resolver.cache.lifetime_get o.env.clock key, hget]
  cases hit with
  | some outcome =>
      have hstep : (Stage.begun (.resolve key)).step svc o task =
          (o.withResolver { o.env.resolver with cache }, .done (.resolved outcome.tenant?)) := by
        simp only [Stage.step, Office.start, Resolver.probe, hget, Office.withResolver]
      have hsome : (o.env.resolver.cache.get o.env.clock key).1 = some outcome := by
        rw [hget]
      -- What is found was in an entry of the key.
      rcases Cache.mem_of_get_eq_some hsome with ⟨e, he, rfl, rfl⟩
      rw [hstep]
      exact ⟨h, .refl us, hlifetime, fun e he => Or.inl (hentries e he), trivial,
        .hit he (Cache.isEnabled_of_get hsome)⟩
  | none =>
      have hstep : (Stage.begun (.resolve key)).step svc o task =
          (o.withResolver { o.env.resolver with cache }, .missed key) := by
        simp only [Stage.step, Office.start, Resolver.probe, hget, Office.withResolver]
      rw [hstep]
      exact ⟨h, .refl us, hlifetime, fun e he => Or.inl (hentries e he), trivial, .miss⟩

/-- The first step of a deletion. -/
theorem of_findById (h : o.env.registry.Serves us) (svc : Service) (id : String) (task : Nat) :
    Glanced us us o ((Stage.begun (.delete id)).step svc o task).1 (.begun (.delete id))
      ((Stage.begun (.delete id)).step svc o task).2 := by
  cases hid : o.env.registry.findById id with
  -- The record that is read is one of the roster, with the id that was asked for.
  | ok t =>
      have hstep : (Stage.begun (.delete id)).step svc o task = (o, .known t) := by
        simp only [Stage.step, Office.start, hid]
      rcases (h.findById_eq_ok_iff id t).mp hid with ⟨ht, rfl⟩
      rw [hstep]
      exact of_env h rfl trivial (.know ht)
  | error f =>
      have hstep : (Stage.begun (.delete id)).step svc o task =
          (o, .done (.deleted (.error f))) := by
        simp only [Stage.step, Office.start, hid]
      rw [hstep]
      exact of_env h rfl trivial .refuse

/-- The step at which a deletion writes. -/
theorem of_softDelete (h : o.env.registry.Serves us) (svc : Service) (t : Tenant) (task : Nat) :
    ∃ vs, Glanced us vs o ((Stage.known t).step svc o task).1 (.known t)
      ((Stage.known t).step svc o task).2 := by
  -- The registry takes the mark, or says why it does not and stays as it is.
  rcases h.softDelete t.id o.env.wall with ⟨vs, hvs, hok, hserves⟩ | ⟨f, _, herror⟩
  · rcases hdelete : o.env.registry.softDelete t.id o.env.wall with ⟨result, registry⟩
    rw [hdelete] at hok hserves
    simp only at hok hserves
    subst hok
    have hstep : (Stage.known t).step svc o task = (o.withRegistry registry, .marked t) := by
      simp only [Stage.step, hdelete, Office.withRegistry]
    -- Marking makes records fade and brings none in.
    rcases fades_softDelete h.keeps.2 hvs with ⟨hfades, hmarked⟩
    rw [hstep]
    exact ⟨vs, hserves, hfades, rfl, fun e he => Or.inl he, trivial, .mark hmarked⟩
  · have hstep : (Stage.known t).step svc o task = (o, .done (.deleted (.error f))) := by
      simp only [Stage.step, herror]
    rw [hstep]
    exact ⟨us, of_env h rfl trivial .refuse⟩

/-- Every step of a look-up or a deletion is a glance, on a service that tells
    the resolver about changes. -/
theorem of_step (hattached : svc.attached = true) (h : o.env.registry.Serves us) {stage : Stage}
    (hnarrow : stage.Narrow) (task : Nat) :
    ∃ vs, Glanced us vs o (stage.step svc o task).1 stage (stage.step svc o task).2 := by
  cases stage with
  | begun c =>
      cases c with
      | resolve key => exact ⟨us, of_probe h svc key task⟩
      | delete id => exact ⟨us, of_findById h svc id task⟩
      -- Creations and updates are not narrow.
      | create t => exact False.elim hnarrow
      | update id patch => exact False.elim hnarrow
  | known t => exact of_softDelete h svc t task
  | marked t =>
      -- The last step of a deletion is the invalidation: no entry is left under a key of the
      -- tenant.
      have hleft : ∀ e ∈ (o.forget svc t).env.resolver.cache.entries,
          e ∈ o.env.resolver.cache.entries ∧
            ∀ key ∈ t.routingKeys, foldKey e.key ≠ foldKey key := by
        intro e he
        rw [Office.resolver_forget hattached] at he
        exact (Resolver.mem_invalidateTenant_iff _ t e).mp he
      refine ⟨us, ?_, .refl us, ?_, fun e he => Or.inl (hleft e he).1, trivial, .forget hleft⟩
      · rw [Stage.step, Office.registry_forget]
        exact h
      · rw [Stage.step, Office.resolver_forget hattached, Resolver.lifetime_invalidateTenant]
  | missed key =>
      have hstep : (Stage.missed key).step svc o task =
          (o.withRegistry (o.env.registry.find key).2,
            .answered key (.ofLookup (us.find key))) := by
        rw [← h.find_eq]
        rfl
      rw [hstep]
      exact ⟨us, h.find_snd key, .refl us, rfl, fun e he => Or.inl he, trivial, .answer⟩
  -- Caching an answer adds the one entry that the operation held.
  | answered key outcome =>
      refine ⟨us, h, .refl us, Cache.lifetime_set _ _ _ _, fun e he => ?_, trivial, .fill⟩
      rcases Cache.mem_of_mem_set he with hold | ⟨rfl, rfl⟩
      · exact Or.inl hold
      · exact Or.inr rfl
  | done r => exact ⟨us, of_env h rfl trivial (.rest (Or.inl rfl))⟩
  | dropped => exact ⟨us, of_env h rfl trivial (.rest (Or.inl rfl))⟩
  | queued _ => exact False.elim hnarrow
  | entered _ => exact False.elim hnarrow
  | free _ => exact False.elim hnarrow
  | prepared _ _ => exact False.elim hnarrow
  | migrated _ _ => exact False.elim hnarrow
  | stored _ => exact False.elim hnarrow
  | read _ _ => exact False.elim hnarrow
  | written _ _ => exact False.elim hnarrow

end Glanced

/-! ### What one event does -/

/-- What an event does to look-ups and deletions under way: it starts one, or
    lets time pass, or one of them glances at the roster and the cache. -/
inductive Turn (us vs : Roster) (w w' : Traffic) : Prop where
  | start {c : Call} (hnarrow : (Stage.begun c).Narrow) (hroster : vs = us)
      (hoffice : w'.office = w.office) (hstages : w'.stages = w.stages ++ [.begun c])
  | pass (hroster : vs = us) (hregistry : w'.office.env.registry = w.office.env.registry)
      (hcache : w'.office.env.resolver.cache = w.office.env.resolver.cache)
      (hstages : w'.stages = w.stages)
  | act {task : Nat} {stage stage' : Stage} (hstage : w.stages[task]? = some stage)
      (hstage' : w'.stages[task]? = some stage')
      (hothers : ∀ n, n ≠ task → w'.stages[n]? = w.stages[n]?)
      (hglanced : Glanced us vs w.office w'.office stage stage')

namespace Turn

variable {svc : Service} {w : Traffic} {us : Roster}

theorem of_act {vs : Roster} {n : Nat} {stage : Stage} (hn : w.stages[n]? = some stage)
    {f : Office → Nat → Stage → Office × Stage}
    (h : Glanced us vs w.office (f w.office n stage).1 stage (f w.office n stage).2) :
    Turn us vs w (w.act n f) := by
  refine .act hn (Traffic.getElem?_act_self hn) (fun k hkn => Traffic.getElem?_act_of_ne hkn) ?_
  rw [Traffic.office_act hn]
  exact h

theorem of_next (hattached : svc.attached = true) (h : w.office.env.registry.Serves us)
    (hnarrow : ∀ (n : Nat) (stage : Stage), w.stages[n]? = some stage → stage.Narrow)
    {e : TrafficEvent} (he : e.Narrow) : ∃ vs, Turn us vs w (w.next svc e) := by
  cases e with
  | start c =>
      cases c with
      | resolve key => exact ⟨us, .start (c := .resolve key) trivial rfl rfl rfl⟩
      | delete id => exact ⟨us, .start (c := .delete id) trivial rfl rfl rfl⟩
      | create t => exact False.elim he
      | update id patch => exact False.elim he
  | pass elapsed wall => exact ⟨us, .pass rfl rfl rfl rfl⟩
  | cancel n =>
      rw [Traffic.next_cancel]
      cases hn : w.stages[n]? with
      | none =>
          rw [Traffic.act_of_none hn]
          exact ⟨us, .pass rfl rfl rfl rfl⟩
      | some stage =>
          -- Who is dropped has given up a lock at most.
          have henv : (stage.cancel w.office n).1.env = w.office.env := by
            cases stage <;> rfl
          have hstage : (stage.cancel w.office n).2 = stage ∨
              (stage.cancel w.office n).2 = .dropped := by
            cases stage <;> first | exact Or.inl rfl | exact Or.inr rfl
          have hstays : (stage.cancel w.office n).2.Narrow := by
            rcases hstage with hsame | hdropped
            · rw [hsame]
              exact hnarrow n stage hn
            · rw [hdropped]
              trivial
          exact ⟨us, of_act hn (.of_env h henv hstays (.rest hstage))⟩
  | step n =>
      rw [Traffic.next_step]
      cases hn : w.stages[n]? with
      | none =>
          rw [Traffic.act_of_none hn]
          exact ⟨us, .pass rfl rfl rfl rfl⟩
      | some stage =>
          rcases Glanced.of_step hattached h (hnarrow n stage hn) n with ⟨vs, hglanced⟩
          exact ⟨vs, of_act hn hglanced⟩

end Turn

end Multitenancy
