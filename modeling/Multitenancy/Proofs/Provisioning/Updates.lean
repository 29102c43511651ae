import Multitenancy.Proofs.Provisioning.Traffic
import Multitenancy.Proofs.Registry.Serving
import Multitenancy.Proofs.Resolution.Transparency
import Multitenancy.Proofs.Tenant.Patch
/-!
# Updates Side by Side

What is left of updates of one tenant that come in between each other.

An update reads the record, makes the new record from it, and writes that as a
whole. It takes no lock. So an update that reads before another one writes and
writes after it puts the fields of that one back to what they were, although
both are accepted and neither sets a field of the other. An update is safe
when nobody else has read and not yet written at the moment at which it
writes.

The proof follows the records that can still become the stored one: the stored
record itself, and what the updates that have read are about to write. Before
an update writes, no such record but its own has anything of it. When it
writes, either nobody else holds a record, and from then on all of them have
its values; or somebody does, and from then on each of them lacks one of the
two.

## Main definitions

* `Phase`: How far an update has come.
* `Traffic.updating`: Updates that were called for.
* `Traffic.Overtakes`: An update writes while another one holds a record.
* `Moved`: What an event does to the record and the phases.
* `Account`: The invariant.

## Theorems

* `Tracks.next`: Every event is one of three moves.
* `Account.next`: Every move keeps the invariant.
* `Traffic.carried_unless_overtakes`: Which updates survive, and which do not.
* `Traffic.updates_overtake`: An accepted update does get lost.
-/

namespace Multitenancy

/-- How far an update has come, as far as records are concerned. -/
inductive Phase where
  | waiting
  /-- It has read and holds the record that it will write. -/
  | holding (new : Tenant)
  | wrote
  /-- It was refused or dropped. -/
  | ended
  deriving DecidableEq

/-- The phase of a stage. -/
def Stage.phase : Stage → Phase
  | .begun _ => .waiting
  | .read _ new => .holding new
  | .written _ _ => .wrote
  | .done (.record (.ok _)) => .wrote
  | _ => .ended

/-- Who has an answer holds no record. -/
theorem Reply.phase_done_ne_holding (r : Reply) (new : Tenant) :
    (Stage.done r).phase ≠ .holding new := by
  rcases r with (_ | _) | _ | _ <;>
    simp only [Stage.phase, ne_eq, reduceCtorEq, not_false_eq_true]

namespace Traffic

/-- The phase of an operation. -/
def phase? (w : Traffic) (n : Nat) : Option Phase :=
  w.stages[n]?.map Stage.phase

/-- Updates of one tenant that were called for, none of which has begun. -/
def updating (o : Office) (id : String) (ps : List Patch) : Traffic :=
  { office := o, stages := ps.map fun p => .begun (.update id p) }

/-- At some moment of a history an update writes while another one, which has
    read already, has not written yet. -/
def Overtakes (svc : Service) (w : Traffic) (history : List TrafficEvent) (n m : Nat) : Prop :=
  n ≠ m ∧ ∃ before after new other, history = before ++ .step n :: after ∧
    (w.run svc before).phase? n = some (.holding new) ∧
      (w.run svc before).phase? m = some (.holding other)

end Traffic

/-! ### What an event does -/

/-- The stages that an update of a tenant goes through. -/
inductive Reached (id : String) (p : Patch) : Stage → Prop where
  | begun : Reached id p (.begun (.update id p))
  | read {previous : Tenant} {now : Timestamp} (hid : previous.id = id)
      (hfold : previous.normalised = previous) :
      Reached id p (.read previous (p.apply previous now))
  | written {previous new : Tenant} : Reached id p (.written previous new)
  | done {r : Reply} : Reached id p (.done r)
  | dropped : Reached id p .dropped

/-- The registry has an active record for an id, and each operation under way is
    an update of it. -/
structure Tracks (id : String) (ps : List Patch) (w : Traffic) (t : Tenant) : Prop where
  serves : ∃ ts, w.office.env.registry.Serves ts ∧ ts.activeById? id = some t
  reached : ∀ (n : Nat) (stage : Stage), w.stages[n]? = some stage →
    ∃ p, ps[n]? = some p ∧ Reached id p stage

/-- What an event does to the stored record and to the phases. -/
inductive Moved (ps : List Patch) (t t' : Tenant) (φ φ' : Nat → Option Phase) :
    TrafficEvent → Prop where
  /-- An update reads the stored record. -/
  | read {n : Nat} {p : Patch} {now : Timestamp} (hpatch : ps[n]? = some p)
      (hbefore : φ n = some .waiting) (hafter : φ' n = some (.holding (p.apply t now)))
      (hothers : ∀ k, k ≠ n → φ' k = φ k) (hsame : t' = t) : Moved ps t t' φ φ' (.step n)
  /-- An update writes the record that it holds. -/
  | write {n : Nat} {new : Tenant} (hbefore : φ n = some (.holding new))
      (hafter : φ' n = some .wrote) (hothers : ∀ k, k ≠ n → φ' k = φ k)
      (hsame : ∀ f, t'.value? f = new.value? f) : Moved ps t t' φ φ' (.step n)
  /-- Nothing happens to a record, but an update may end. One whose write is
      refused does. -/
  | quiet {e : TrafficEvent} (hphases : ∀ k, φ' k = φ k ∨ φ' k = some .ended)
      (hrefused : ∀ n new, e = .step n → φ n = some (.holding new) → φ' n = some .ended)
      (hsame : t' = t) : Moved ps t t' φ φ' e

namespace Tracks

variable {svc : Service} {id : String} {ps : List Patch} {w : Traffic} {t : Tenant}

/-- The record of the roster is the one that an update finds. -/
theorem activeById_eq (h : Tracks id ps w t) : w.office.activeById id = .ok t := by
  rcases h.serves with ⟨ts, hserves, ht⟩
  rcases Roster.mem_of_activeById? ht with ⟨hmem, hid, hactive⟩
  have hfound := (hserves.findById_eq_ok_iff id t).mpr ⟨hmem, hid⟩
  rw [Office.activeById, hfound]
  simp only [hactive, if_true]

theorem id_eq (h : Tracks id ps w t) : t.id = id := by
  rcases h.serves with ⟨ts, _, ht⟩
  exact (Roster.mem_of_activeById? ht).2.1

theorem normalised_eq (h : Tracks id ps w t) : t.normalised = t := by
  rcases h.serves with ⟨ts, hserves, ht⟩
  exact hserves.keeps.2.folded t (Roster.mem_of_activeById? ht).1

/-- What one operation does keeps the registry as it is, and takes that
    operation to a stage of an update. -/
theorem act (h : Tracks id ps w t) {n : Nat} {stage : Stage} (hn : w.stages[n]? = some stage)
    {f : Office → Nat → Stage → Office × Stage}
    (hregistry : (f w.office n stage).1.env.registry = w.office.env.registry)
    (hreached : ∀ p, ps[n]? = some p → Reached id p (f w.office n stage).2) :
    Tracks id ps (w.act n f) t where
  serves := by
    rw [Traffic.office_act hn, hregistry]
    exact h.serves
  reached := by
    -- The others are at the stages at which they were, and belong to the same updates.
    intro k other hk
    by_cases hkn : k = n
    · subst hkn
      rw [Traffic.getElem?_act_self hn, Option.some.injEq] at hk
      rcases h.reached k stage hn with ⟨p, hp, _⟩
      exact ⟨p, hp, hk ▸ hreached p hp⟩
    · rw [Traffic.getElem?_act_of_ne hkn] at hk
      exact h.reached k other hk

theorem phase?_act_of_ne {n k : Nat} {f : Office → Nat → Stage → Office × Stage} (hne : k ≠ n) :
    (w.act n f).phase? k = w.phase? k := by
  rw [Traffic.phase?, Traffic.getElem?_act_of_ne hne, Traffic.phase?]

theorem phase?_act_self {n : Nat} {stage : Stage} {f : Office → Nat → Stage → Office × Stage}
    (hn : w.stages[n]? = some stage) :
    (w.act n f).phase? n = some (f w.office n stage).2.phase := by
  rw [Traffic.phase?, Traffic.getElem?_act_self hn, Option.map_some]

theorem phase?_eq {n : Nat} {stage : Stage} (hn : w.stages[n]? = some stage) :
    w.phase? n = some stage.phase := by
  rw [Traffic.phase?, hn, Option.map_some]

/-- An operation that leaves the registry alone and its own phase as it is, or
    ends, has moved nothing. -/
theorem quiet_act (h : Tracks id ps w t) {n : Nat} {stage : Stage}
    (hn : w.stages[n]? = some stage) {f : Office → Nat → Stage → Office × Stage}
    {e : TrafficEvent} (hregistry : (f w.office n stage).1.env.registry = w.office.env.registry)
    (hreached : ∀ p, ps[n]? = some p → Reached id p (f w.office n stage).2)
    (hphase : (f w.office n stage).2.phase = stage.phase ∨
      (f w.office n stage).2.phase = .ended)
    (hrefused : ∀ new, e = .step n → stage.phase = .holding new →
      (f w.office n stage).2.phase = .ended)
    (hown : ∀ k, e = .step k → k = n) :
    ∃ t', Tracks id ps (w.act n f) t' ∧ Moved ps t t' w.phase? (w.act n f).phase? e := by
  refine ⟨t, h.act hn hregistry hreached, .quiet (fun k => ?_) (fun k new he hk => ?_) rfl⟩
  · -- Only the phase of this operation could have changed.
    by_cases hkn : k = n
    · subst hkn
      rw [phase?_act_self hn, phase?_eq hn, Option.some.injEq, Option.some.injEq]
      exact hphase
    · exact Or.inl (phase?_act_of_ne hkn)
  · -- If the event is a step, it is that of this operation.
    have hkn := hown k he
    subst hkn
    rw [phase?_eq hn, Option.some.injEq] at hk
    rw [phase?_act_self hn, hrefused new he hk]

/-- What a write does when the registry takes it. -/
theorem activeById?_update {ts us : Roster} {new : Tenant} (hs : us.Sound)
    (hid : new.id = id) (hfold : new.normalised = new) (hc : ts.update new = .ok us) :
    ∃ t', us.activeById? id = some t' ∧ ∀ f, t'.value? f = new.value? f := by
  rcases (Roster.update_eq_ok_iff ts us new).mp hc with ⟨existing, hex, _, rfl⟩
  rcases Roster.mem_of_activeById? hex with ⟨hmem, hexid, hactive⟩
  refine ⟨Roster.successor existing new, ?_, Tenant.value?_successor hfold⟩
  refine (hs.activeById?_eq_some_iff id _).mpr ⟨?_, hid, hactive⟩
  exact (Roster.mem_replace_iff ts new.id _ _).mpr (Or.inr ⟨rfl, existing, hmem, hexid⟩)

/-- The step of an update that holds a record: the registry takes the record,
    or the update ends. -/
theorem step_read (h : Tracks id ps w t) {n : Nat} {previous new : Tenant}
    (hn : w.stages[n]? = some (.read previous new)) (hid : new.id = id)
    (hfold : new.normalised = new) :
    ∃ t', Tracks id ps (w.next svc (.step n)) t' ∧
      Moved ps t t' w.phase? (w.next svc (.step n)).phase? (.step n) := by
  rw [Traffic.next_step]
  rcases h.serves with ⟨ts, hserves, _⟩
  rcases hserves.update new with ⟨us, hus, hok, hserves'⟩ | ⟨f, _, herror⟩
  · -- The record is the stored one from now on.
    rcases activeById?_update hserves'.keeps.2 hid hfold hus with ⟨t', ht', hsame⟩
    rcases hupdate : w.office.env.registry.update new with ⟨result, registry⟩
    rw [hupdate] at hok hserves'
    simp only at hok hserves'
    subst hok
    have hstep : (Stage.read previous new).step svc w.office n =
        (w.office.withRegistry registry, .written previous new) := by
      simp only [Stage.step, hupdate, Office.withRegistry]
    have hholding : w.phase? n = some (.holding new) := phase?_eq hn
    refine ⟨t', ⟨⟨us, ?_, ht'⟩, fun k stage hk => ?_⟩, .write hholding ?_ ?_ hsame⟩
    · rw [Traffic.office_act hn, hstep]
      exact hserves'
    · by_cases hkn : k = n
      · subst hkn
        rw [Traffic.getElem?_act_self hn, hstep, Option.some.injEq] at hk
        rcases h.reached k _ hn with ⟨p, hp, _⟩
        exact ⟨p, hp, hk ▸ .written⟩
      · rw [Traffic.getElem?_act_of_ne hkn] at hk
        exact h.reached k stage hk
    · rw [phase?_act_self hn, hstep, Stage.phase]
    · exact fun k hkn => phase?_act_of_ne hkn
  · -- Nothing is written, and the update answers with the fault.
    have hstep : (Stage.read previous new).step svc w.office n =
        (w.office, .done (.record (.error f))) := by
      simp only [Stage.step, herror]
    refine h.quiet_act hn ?_ ?_ ?_ ?_ fun k hk => ?_
    · rw [hstep]
    · intro p _
      rw [hstep]
      exact .done
    · rw [hstep]
      exact Or.inr rfl
    · intro _ _ _
      rw [hstep]
      rfl
    · rw [TrafficEvent.step.injEq] at hk
      exact hk.symm

/-- The step of an update that begins: it reads the stored record. -/
theorem step_begun (h : Tracks id ps w t) {n : Nat} {p : Patch} (hp : ps[n]? = some p)
    (hn : w.stages[n]? = some (.begun (.update id p))) :
    ∃ t', Tracks id ps (w.next svc (.step n)) t' ∧
      Moved ps t t' w.phase? (w.next svc (.step n)).phase? (.step n) := by
  -- An update that is accepted reads the stored record, and makes its own record of it at once.
  have hstep : (Stage.begun (.update id p)).step svc w.office n =
      (w.office, .read t (p.apply t w.office.env.wall)) := by
    simp only [Stage.step, Office.start, h.activeById_eq]
  rw [Traffic.next_step]
  refine ⟨t, h.act hn ?_ ?_, @Moved.read ps t t _ _ n p w.office.env.wall hp ?_ ?_ ?_ rfl⟩
  · rw [hstep]
  · intro q hq
    rw [hp, Option.some.injEq] at hq
    rw [hstep, ← hq]
    exact .read h.id_eq h.normalised_eq
  · exact phase?_eq hn
  · rw [phase?_act_self hn, hstep, Stage.phase]
  · exact fun k hkn => phase?_act_of_ne hkn

/-- Every event that starts nothing is one of the three moves. -/
theorem next (svc : Service) (h : Tracks id ps w t) (e : TrafficEvent)
    (hstart : ∀ c, e ≠ .start c) :
    ∃ t', Tracks id ps (w.next svc e) t' ∧
      Moved ps t t' w.phase? (w.next svc e).phase? e := by
  have hown : ∀ n k, TrafficEvent.step n = .step k → k = n := by
    intro n k hk
    rw [TrafficEvent.step.injEq] at hk
    exact hk.symm
  cases e with
  | start c => exact absurd rfl (hstart c)
  | pass elapsed wall =>
      refine ⟨t, ⟨h.serves, h.reached⟩, .quiet (fun k => Or.inl rfl) (fun n _ he => ?_) rfl⟩
      exact absurd he (by simp only [reduceCtorEq, not_false_eq_true])
  | cancel n =>
      rw [Traffic.next_cancel]
      cases hn : w.stages[n]? with
      | none =>
          rw [Traffic.act_of_none hn]
          refine ⟨t, h, .quiet (fun k => Or.inl rfl) (fun k _ he => ?_) rfl⟩
          exact absurd he (by simp only [reduceCtorEq, not_false_eq_true])
      | some stage =>
          -- Dropping an operation gives up a lock at most.
          refine h.quiet_act hn ?_ ?_ ?_ ?_ fun k hk => ?_
          · cases stage <;> rfl
          · intro p _
            cases stage <;> first | exact .done | exact .dropped
          · cases stage <;> first | exact Or.inl rfl | exact Or.inr rfl
          · intro _ he
            exact absurd he (by simp only [reduceCtorEq, not_false_eq_true])
          · exact absurd hk (by simp only [reduceCtorEq, not_false_eq_true])
  | step n =>
      cases hn : w.stages[n]? with
      | none =>
          rw [Traffic.next_step, Traffic.act_of_none hn]
          refine ⟨t, h, .quiet (fun k => Or.inl rfl) (fun k new he hk => ?_) rfl⟩
          rw [hown n k he, Traffic.phase?, hn] at hk
          exact absurd hk (by simp only [Option.map_none, reduceCtorEq, not_false_eq_true])
      | some stage =>
          rcases h.reached n stage hn with ⟨p, hp, hreached⟩
          cases hreached with
          | begun => exact h.step_begun hp hn
          | read hid hfold => exact h.step_read hn hid (Patch.normalised_apply p hfold _)
          | written =>
              rw [Traffic.next_step]
              refine h.quiet_act hn ?_ (fun _ _ => .done) (Or.inl rfl) ?_ (hown n)
              · rw [Stage.step, Office.registry_forget, Office.registry_forget]
              · intro new _ hk
                exact absurd hk (by simp only [Stage.phase, reduceCtorEq, not_false_eq_true])
          | @done r =>
              rw [Traffic.next_step]
              refine h.quiet_act hn rfl (fun _ _ => .done) (Or.inl rfl) ?_ (hown n)
              exact fun new _ hk => absurd hk (r.phase_done_ne_holding new)
          | dropped =>
              rw [Traffic.next_step]
              exact h.quiet_act hn rfl (fun _ _ => .dropped) (Or.inl rfl) (fun _ _ _ => rfl)
                (hown n)

end Tracks

/-! ### The records that may become the stored one -/

/-- A record is the stored one or is held by an update other than `n`. -/
def LiveBut (n : Nat) (t : Tenant) (φ : Nat → Option Phase) (r : Tenant) : Prop :=
  r = t ∨ ∃ k, k ≠ n ∧ φ k = some (.holding r)

/-- A record is the stored one or is held by an update. -/
def Live (t : Tenant) (φ : Nat → Option Phase) (r : Tenant) : Prop :=
  r = t ∨ ∃ k, φ k = some (.holding r)

/-- What is known of the live records. `lost n m` says that the update `n` has
    overtaken the update `m`. -/
structure Account (first : Tenant) (ps : List Patch) (lost : Nat → Nat → Prop) (t : Tenant)
    (φ : Nat → Option Phase) : Prop where
  /-- What an update is about to write has its own values. -/
  own : ∀ (n : Nat) (p : Patch) (new : Tenant), ps[n]? = some p →
    φ n = some (.holding new) → p.Carried new
  /-- Once an update has written without overtaking, all live records have its
      values. -/
  kept : ∀ (n : Nat) (p : Patch), ps[n]? = some p → (∀ m, ¬lost n m) → φ n = some .wrote →
    ∀ r, Live t φ r → p.Carried r
  /-- Before an update has written, no other live record has anything of it. -/
  pending : ∀ (n : Nat) (p : Patch), ps[n]? = some p →
    (φ n = some .waiting ∨ ∃ new, φ n = some (.holding new)) →
      ∀ r, LiveBut n t φ r → p.Undone first r
  /-- Once an update has overtaken another one, each live record lacks one of
      the two. -/
  overtaken : ∀ (n m : Nat) (p q : Patch), ps[n]? = some p → ps[m]? = some q → lost n m →
    φ n = some .ended ∨ (φ n ≠ some .waiting ∧ φ m ≠ some .waiting ∧
      ∀ r, Live t φ r → p.Undone first r ∨ q.Undone first r)

namespace Account

variable {first t t' : Tenant} {ps : List Patch} {lost lost' : Nat → Nat → Prop}
  {φ φ' : Nat → Option Phase}

/-- The updates that were overtaken after an event are those from before, and
    those that hold a record while another update takes a step with its own. -/
def Extends (lost lost' : Nat → Nat → Prop) (φ : Nat → Option Phase) (e : TrafficEvent) : Prop :=
  ∀ n m, lost' n m ↔ lost n m ∨ (n ≠ m ∧ e = .step n ∧ ∃ new other,
    φ n = some (.holding new) ∧ φ m = some (.holding other))

/-- An event that does nothing to records. -/
theorem quiet (h : Account first ps lost t φ) {e : TrafficEvent} (hlost : Extends lost lost' φ e)
    (hphases : ∀ k, φ' k = φ k ∨ φ' k = some .ended)
    (hrefused : ∀ n new, e = .step n → φ n = some (.holding new) → φ' n = some .ended) :
    Account first ps lost' t φ' := by
  -- No phase but the last is new.
  have hback : ∀ k phase, phase ≠ Phase.ended → φ' k = some phase → φ k = some phase := by
    intro k phase hne hk
    rcases hphases k with hsame | hended
    · rw [← hsame]
      exact hk
    · rw [hended, Option.some.injEq] at hk
      exact absurd hk.symm hne
  have hholding : ∀ k r, φ' k = some (.holding r) → φ k = some (.holding r) := fun k r =>
    hback k (.holding r) (by simp only [ne_eq, reduceCtorEq, not_false_eq_true])
  have hlive : ∀ r, Live t φ' r → Live t φ r := by
    rintro r (hr | ⟨k, hk⟩)
    · exact Or.inl hr
    · exact Or.inr ⟨k, hholding k r hk⟩
  have hforward : ∀ k, φ k ≠ some .waiting → φ' k ≠ some .waiting := by
    intro k hk hwaiting
    exact hk (hback k .waiting (by simp only [ne_eq, reduceCtorEq, not_false_eq_true]) hwaiting)
  refine ⟨fun n p new hp hn => h.own n p new hp (hholding n new hn), ?_, ?_, ?_⟩
  · intro n p hp hfree hn r hr
    refine h.kept n p hp (fun m hm => hfree m ((hlost n m).mpr (Or.inl hm))) ?_ r (hlive r hr)
    exact hback n .wrote (by simp only [ne_eq, reduceCtorEq, not_false_eq_true]) hn
  · rintro n p hp hn r hr
    refine h.pending n p hp ?_ r ?_
    · rcases hn with hn | ⟨new, hn⟩
      · exact Or.inl (hback n .waiting (by simp only [ne_eq, reduceCtorEq, not_false_eq_true]) hn)
      · exact Or.inr ⟨new, hholding n new hn⟩
    · rcases hr with hr | ⟨k, hkn, hk⟩
      · exact Or.inl hr
      · exact Or.inr ⟨k, hkn, hholding k r hk⟩
  · intro n m p q hp hq hnm
    rcases (hlost n m).mp hnm with hold | ⟨_, he, new, _, hn, _⟩
    · rcases h.overtaken n m p q hp hq hold with hended | ⟨hn, hm, hlacks⟩
      · left
        rcases hphases n with hsame | hended'
        · rw [hsame]
          exact hended
        · exact hended'
      · exact Or.inr ⟨hforward n hn, hforward m hm, fun r hr => hlacks r (hlive r hr)⟩
    · -- The step was a write that the registry has refused.
      exact Or.inl (hrefused n new he hn)

/-- An update reads: the record that it holds is made from the stored one, and
    differs from it in fields that no other update sets. -/
theorem read (h : Account first ps lost t φ)
    (hdisjoint : ps.Pairwise Patch.Disjoint) {i : Nat}
    {p : Patch} {now : Timestamp} (hlost : Extends lost lost' φ (.step i))
    (hpatch : ps[i]? = some p) (hbefore : φ i = some .waiting)
    (hafter : φ' i = some (.holding (p.apply t now))) (hothers : ∀ k, k ≠ i → φ' k = φ k) :
    Account first ps lost' t φ' := by
  -- A record that is live after the reading was live before, or is the one that was just made.
  have hlive : ∀ r, Live t φ' r → Live t φ r ∨ r = p.apply t now := by
    rintro r (hr | ⟨k, hk⟩)
    · exact Or.inl (Or.inl hr)
    · by_cases hki : k = i
      · rw [hki, hafter, Option.some.injEq, Phase.holding.injEq] at hk
        exact Or.inr hk.symm
      · rw [hothers k hki] at hk
        exact Or.inl (Or.inr ⟨k, hk⟩)
  have hstored : Live t φ t := Or.inl rfl
  refine ⟨?_, ?_, ?_, ?_⟩
  · intro n q new hq hn
    -- The update that reads carries its own values in the record that it has just made.
    by_cases hni : n = i
    · rw [hni, hpatch, Option.some.injEq] at hq
      rw [hni, hafter, Option.some.injEq, Phase.holding.injEq] at hn
      rw [← hq, ← hn]
      exact Patch.carried_apply p t now
    · rw [hothers n hni] at hn
      exact h.own n q new hq hn
  · intro n q hq hfree hn r hr
    have hni : n ≠ i := by
      rintro rfl
      rw [hafter] at hn
      exact absurd hn (by simp only [Option.some.injEq, reduceCtorEq, not_false_eq_true])
    rw [hothers n hni] at hn
    -- What is kept in the stored record is kept in a record made from it, since the two updates set
    -- no field in common.
    have hcarried := h.kept n q hq (fun m hm => hfree m ((hlost n m).mpr (Or.inl hm))) hn
    rcases hlive r hr with hr | rfl
    · exact hcarried r hr
    · exact (hcarried t hstored).apply (Patch.disjoint_of_pairwise hdisjoint hni hq hpatch) now
  · intro n q hq hn r hr
    by_cases hni : n = i
    · -- The update itself was waiting before, and the others hold what they held.
      subst hni
      refine h.pending n q hq (Or.inl hbefore) r ?_
      rcases hr with hr | ⟨k, hkn, hk⟩
      · exact Or.inl hr
      · rw [hothers k hkn] at hk
        exact Or.inr ⟨k, hkn, hk⟩
    · rw [hothers n hni] at hn
      rcases hr with hr | ⟨k, hkn, hk⟩
      · exact h.pending n q hq hn r (Or.inl hr)
      · by_cases hki : k = i
        · rw [hki, hafter, Option.some.injEq, Phase.holding.injEq] at hk
          -- The reader has made its record from the stored one, in which the field is not yet set.
          rw [← hk]
          exact (h.pending n q hq hn t (Or.inl rfl)).apply
            (Patch.disjoint_of_pairwise hdisjoint hni hq hpatch) now
        · rw [hothers k hki] at hk
          exact h.pending n q hq hn r (Or.inr ⟨k, hkn, hk⟩)
  · intro n m q q' hq hq' hnm
    rcases (hlost n m).mp hnm with hold | ⟨_, he, new, _, hn, _⟩
    · rcases h.overtaken n m q q' hq hq' hold with hended | ⟨hn, hm, hlacks⟩
      · have hni : n ≠ i := by
          rintro rfl
          rw [hbefore] at hended
          exact absurd hended (by simp only [Option.some.injEq, reduceCtorEq, not_false_eq_true])
        rw [hothers n hni]
        exact Or.inl hended
      · -- Neither of the two is the one that reads, since both have begun.
        have hni : n ≠ i := fun hni => hn (hni ▸ hbefore)
        have hmi : m ≠ i := fun hmi => hm (hmi ▸ hbefore)
        rw [hothers n hni, hothers m hmi]
        refine Or.inr ⟨hn, hm, fun r hr => ?_⟩
        rcases hlive r hr with hr | rfl
        · exact hlacks r hr
        · rcases hlacks t hstored with hundone | hundone
          · exact Or.inl (hundone.apply (Patch.disjoint_of_pairwise hdisjoint hni hq hpatch) now)
          · exact Or.inr (hundone.apply (Patch.disjoint_of_pairwise hdisjoint hmi hq' hpatch) now)
    · -- An update that reads does not write, so nothing new is lost at this event.
      rw [TrafficEvent.step.injEq] at he
      rw [← he, hbefore] at hn
      exact absurd hn (by simp only [Option.some.injEq, reduceCtorEq, not_false_eq_true])

/-- An update writes: the stored record is the one that it held, which was live
    before. -/
theorem write (h : Account first ps lost t φ) {i : Nat} {new : Tenant}
    (hlost : Extends lost lost' φ (.step i)) (hbefore : φ i = some (.holding new))
    (hafter : φ' i = some .wrote) (hothers : ∀ k, k ≠ i → φ' k = φ k)
    (hsame : ∀ f, t'.value? f = new.value? f) : Account first ps lost' t' φ' := by
  have hheld : Live t φ new := Or.inr ⟨i, hbefore⟩
  -- Whoever holds a record now is another update.
  have hother : ∀ k r, φ' k = some (.holding r) → k ≠ i ∧ φ k = some (.holding r) := by
    intro k r hk
    have hki : k ≠ i := by
      rintro rfl
      rw [hafter] at hk
      exact absurd hk (by simp only [Option.some.injEq, reduceCtorEq, not_false_eq_true])
    rw [hothers k hki] at hk
    exact ⟨hki, hk⟩
  refine ⟨fun n q r hq hn => h.own n q r hq (hother n r hn).2, ?_, ?_, ?_⟩
  · intro n q hq hfree hn r hr
    by_cases hni : n = i
    · subst hni
      rcases hr with rfl | ⟨k, hk⟩
      · exact (h.own n q new hq hbefore).congr hsame
      · -- Nobody else holds a record, or the update would overtake.
        rcases hother k r hk with ⟨hkn, hk'⟩
        exact absurd ((hlost n k).mpr (Or.inr ⟨hkn.symm, rfl, new, r, hbefore, hk'⟩)) (hfree k)
    · rw [hothers n hni] at hn
      have hcarried := h.kept n q hq (fun m hm => hfree m ((hlost n m).mpr (Or.inl hm))) hn
      rcases hr with rfl | ⟨k, hk⟩
      · exact (hcarried new hheld).congr hsame
      · exact hcarried r (Or.inr ⟨k, (hother k r hk).2⟩)
  · intro n q hq hn r hr
    have hni : n ≠ i := by
      rintro rfl
      rw [hafter] at hn
      exact absurd hn (by simp only [Option.some.injEq, reduceCtorEq, exists_false, or_self,
        not_false_eq_true])
    rw [hothers n hni] at hn
    rcases hr with rfl | ⟨k, hkn, hk⟩
    · exact (h.pending n q hq hn new (Or.inr ⟨i, hni.symm, hbefore⟩)).congr hsame
    · exact h.pending n q hq hn r (Or.inr ⟨k, hkn, (hother k r hk).2⟩)
  · intro n m p q hp hq hnm
    rcases (hlost n m).mp hnm with hold | ⟨hne, he, _, other, _, hm⟩
    · rcases h.overtaken n m p q hp hq hold with hended | ⟨hn, hm, hlacks⟩
      · have hni : n ≠ i := by
          rintro rfl
          rw [hbefore] at hended
          exact absurd hended (by simp only [Option.some.injEq, reduceCtorEq, not_false_eq_true])
        rw [hothers n hni]
        exact Or.inl hended
      · have hstill : ∀ k, φ k ≠ some .waiting → φ' k ≠ some .waiting := by
          intro k hk
          by_cases hki : k = i
          · rw [hki, hafter]
            simp only [ne_eq, Option.some.injEq, reduceCtorEq, not_false_eq_true]
          · rw [hothers k hki]
            exact hk
        refine Or.inr ⟨hstill n hn, hstill m hm, ?_⟩
        rintro r (rfl | ⟨k, hk⟩)
        · rcases hlacks new hheld with hundone | hundone
          · exact Or.inl (hundone.congr hsame)
          · exact Or.inr (hundone.congr hsame)
        · exact hlacks r (Or.inr ⟨k, (hother k r hk).2⟩)
    · -- The write is the one that overtakes: what is stored lacks the other
      -- update, and what anybody else holds lacks this one.
      rw [TrafficEvent.step.injEq] at he
      subst he
      right
      rw [hafter, hothers m hne.symm, hm]
      refine ⟨by simp only [ne_eq, Option.some.injEq, reduceCtorEq, not_false_eq_true],
        by simp only [ne_eq, Option.some.injEq, reduceCtorEq, not_false_eq_true], ?_⟩
      rintro r (rfl | ⟨k, hk⟩)
      · have hundone := h.pending m q hq (Or.inr ⟨other, hm⟩) new (Or.inr ⟨i, hne, hbefore⟩)
        exact Or.inr (hundone.congr hsame)
      · rcases hother k r hk with ⟨hki, hk'⟩
        exact Or.inl (h.pending i p hp (Or.inr ⟨new, hbefore⟩) r (Or.inr ⟨k, hki, hk'⟩))

/-- Every move keeps the account. -/
theorem next (h : Account first ps lost t φ)
    (hdisjoint : ps.Pairwise Patch.Disjoint)
    {e : TrafficEvent} (hlost : Extends lost lost' φ e) (hmoved : Moved ps t t' φ φ' e) :
    Account first ps lost' t' φ' := by
  cases hmoved with
  | read hpatch hbefore hafter hothers hsame =>
      rw [hsame]
      exact h.read hdisjoint hlost hpatch hbefore hafter hothers
  | write hbefore hafter hothers hsame => exact h.write hlost hbefore hafter hothers hsame
  | quiet hphases hrefused hsame =>
      rw [hsame]
      exact h.quiet hlost hphases hrefused

end Account

/-! ### Every history -/

namespace Traffic

variable {svc : Service} {o : Office} {id : String} {first : Tenant} {ps : List Patch}

/-- Whether an update has overtaken another one is decided event by event. -/
theorem overtakes_concat (svc : Service) (w : Traffic) (history : List TrafficEvent)
    (e : TrafficEvent) :
    Account.Extends (w.Overtakes svc history) (w.Overtakes svc (history ++ [e]))
      (w.run svc history).phase? e := by
  intro n m
  constructor
  · rintro ⟨hne, before, after, new, other, hsplit, hn, hm⟩
    rcases List.eq_nil_or_concat after with rfl | ⟨rest, last, rfl⟩
    · -- The moment is that of the last event.
      rcases List.append_inj' hsplit rfl with ⟨rfl, hlast⟩
      rw [List.cons.injEq] at hlast
      exact Or.inr ⟨hne, hlast.1, new, other, hn, hm⟩
    · rw [List.concat_eq_append, ← List.cons_append, ← List.append_assoc] at hsplit
      rcases List.append_inj' hsplit rfl with ⟨rfl, _⟩
      exact Or.inl ⟨hne, before, rest, new, other, rfl, hn, hm⟩
  · rintro (⟨hne, before, after, new, other, rfl, hn, hm⟩ | ⟨hne, rfl, new, other, hn, hm⟩)
    · -- A moment of the old history is one of the longer history.
      exact ⟨hne, before, after ++ [e], new, other, by
        rw [List.append_assoc, List.cons_append], hn, hm⟩
    · exact ⟨hne, history, [], new, other, rfl, hn, hm⟩

theorem tracks_updating (hreachable : o.env.registry.store.Reachable)
    (hfirst : o.activeById id = .ok first) : Tracks id ps (updating o id ps) first := by
  rcases hreachable.keepsSound with ⟨ts, hkeeps⟩
  -- A registry that has found the record can be read.
  have hfound : o.env.registry.findById id = .ok first ∧ first.isActive = true := by
    rw [Office.activeById] at hfirst
    split at hfirst
    · split at hfirst
      · rename_i t hid hactive
        rw [Except.ok.injEq] at hfirst
        rw [← hfirst]
        exact ⟨hid, hactive⟩
      · exact absurd hfirst (by simp only [reduceCtorEq, not_false_eq_true])
    · exact absurd hfirst (by simp only [reduceCtorEq, not_false_eq_true])
  have honline : o.env.registry.offline = false := by
    rw [← Bool.not_eq_true]
    intro hoffline
    rw [Registry.findById, Registry.guarded, if_pos hoffline] at hfound
    exact absurd hfound.1 (by simp only [reduceCtorEq, not_false_eq_true])
  have hserves : o.env.registry.Serves ts := ⟨hkeeps, honline⟩
  refine ⟨⟨ts, hserves, ?_⟩, fun n stage hn => ?_⟩
  · rcases (hserves.findById_eq_ok_iff id first).mp hfound.1 with ⟨hmem, hid⟩
    exact (hkeeps.2.activeById?_eq_some_iff id first).mpr ⟨hmem, hid, hfound.2⟩
  · rw [updating, List.getElem?_map, Option.map_eq_some_iff] at hn
    rcases hn with ⟨p, hp, rfl⟩
    exact ⟨p, hp, .begun⟩

theorem account_updating (svc : Service) (o : Office) (id : String) (first : Tenant)
    (ps : List Patch) :
    Account first ps ((updating o id ps).Overtakes svc []) first (updating o id ps).phase? := by
  -- At first all updates wait, and each of the four parts asks for one that does not, or for an
  -- event.
  have hphase : ∀ n phase, (updating o id ps).phase? n = some phase → phase = .waiting := by
    intro n phase hn
    rw [phase?, updating, List.getElem?_map, Option.map_map, Option.map_eq_some_iff] at hn
    rcases hn with ⟨p, _, rfl⟩
    rfl
  refine ⟨?_, ?_, ?_, ?_⟩
  · intro n p new _ hn
    exact absurd (hphase n _ hn) (by simp only [reduceCtorEq, not_false_eq_true])
  · intro n p _ _ hn
    exact absurd (hphase n _ hn) (by simp only [reduceCtorEq, not_false_eq_true])
  · rintro n p _ _ r (rfl | ⟨k, _, hk⟩)
    · exact p.undone_self r
    · exact absurd (hphase k _ hk) (by simp only [reduceCtorEq, not_false_eq_true])
  · rintro n m p q _ _ ⟨_, before, after, _, _, hsplit, _⟩
    exact absurd hsplit (by simp only [List.nil_eq, List.append_eq_nil_iff, reduceCtorEq, and_false,
      not_false_eq_true])

/-- Every history leads from one account to another. -/
theorem account_run (svc : Service) (hreachable : o.env.registry.store.Reachable)
    (hfirst : o.activeById id = .ok first) (hdisjoint : ps.Pairwise Patch.Disjoint)
    (history : List TrafficEvent) (hstart : ∀ c, .start c ∉ history) :
    ∃ last, Tracks id ps ((updating o id ps).run svc history) last ∧
      Account first ps ((updating o id ps).Overtakes svc history) last
        ((updating o id ps).run svc history).phase? := by
  -- The last event comes on top of a history that is accounted for.
  induction history using List.reverseRecOn with
  | nil => exact ⟨first, tracks_updating hreachable hfirst, account_updating svc o id first ps⟩
  | append_singleton history e ih =>
      rcases ih fun c hc => hstart c (List.mem_append_left _ hc) with ⟨t, htracks, haccount⟩
      have he : ∀ c, e ≠ .start c := by
        rintro c rfl
        exact hstart c (List.mem_append_right _ List.mem_cons_self)
      rcases htracks.next svc e he with ⟨t', htracks', hmoved⟩
      rw [run_concat]
      exact ⟨t', htracks', haccount.next hdisjoint (overtakes_concat svc _ history e) hmoved⟩

/-- Updates of one active tenant that set no field in common, in any order of
    their steps. An accepted update whose write does not come while another one
    holds a record that it has read before is carried by the stored record: every
    value that it gave is there. Of two accepted updates of which one writes while
    the other holds such a record, one is undone: in every field that it set, the
    stored record has what the tenant had at first. -/
theorem carried_unless_overtakes (svc : Service) (o : Office)
    (hreachable : o.env.registry.store.Reachable) (id : String) (first : Tenant)
    (hfirst : o.activeById id = .ok first) (ps : List Patch)
    (hdisjoint : ps.Pairwise Patch.Disjoint) (history : List TrafficEvent)
    (hstart : ∀ c, .start c ∉ history) :
    ∃ last, ((updating o id ps).run svc history).office.activeById id = .ok last ∧
      (∀ n p r, ps[n]? = some p →
        ((updating o id ps).run svc history).stages[n]? = some (.done (.record (.ok r))) →
          (∀ m, ¬(updating o id ps).Overtakes svc history n m) → p.Carried last) ∧
      ∀ n m p q r s, ps[n]? = some p → ps[m]? = some q →
        ((updating o id ps).run svc history).stages[n]? = some (.done (.record (.ok r))) →
          ((updating o id ps).run svc history).stages[m]? = some (.done (.record (.ok s))) →
            (updating o id ps).Overtakes svc history n m →
              p.Undone first last ∨ q.Undone first last := by
  rcases account_run svc hreachable hfirst hdisjoint history hstart with
    ⟨last, htracks, haccount⟩
  refine ⟨last, htracks.activeById_eq, fun n p r hp hn hfree => ?_,
    fun n m p q r s hp hq hn _ hnm => ?_⟩
  · exact haccount.kept n p hp hfree (Tracks.phase?_eq hn) last (Or.inl rfl)
  · rcases haccount.overtaken n m p q hp hq hnm with hended | ⟨_, _, hlacks⟩
    · -- An update that is accepted has not ended otherwise.
      rw [Tracks.phase?_eq hn] at hended
      exact absurd hended (by simp only [Stage.phase, Option.some.injEq, reduceCtorEq,
        not_false_eq_true])
    · exact hlacks last (Or.inl rfl)

/-- An update that gives the tenant a plan. -/
def planPatch : Patch :=
  { metadata := some [("plan", "pro")] }

/-- An update that gives the tenant a name. -/
def namePatch : Patch :=
  { name := some "Acme Corp" }

theorem disjoint_plan_name : [planPatch, namePatch].Pairwise Patch.Disjoint := by
  refine List.pairwise_pair.mpr fun f => ?_
  cases f with
  | name => exact Or.inl rfl
  | domain => exact Or.inl rfl
  | subdomain => exact Or.inl rfl
  | entry key => exact Or.inr rfl

/-- The record of a tenant without metadata. -/
def acmeTenant : Tenant :=
  { Tenant.new "acme" "Acme" ⟨0, 0⟩ with storeLocator := "sqlite::memory:" }

/-- An office with that tenant. -/
def acmeOffice : Office :=
  (Office.newOffice.run Office.memoryService (.create acmeTenant)).1

theorem reachable_acmeOffice : acmeOffice.env.registry.store.Reachable :=
  ⟨.indexed .empty, Or.inl rfl, [(⟨0, 0⟩, .create acmeTenant)], by decide +kernel⟩

theorem activeById_acmeOffice : acmeOffice.activeById "acme" = .ok acmeTenant := by
  decide +kernel

/-- Two updates side by side: both read, both write, both tell the resolver. -/
def abreast : List TrafficEvent :=
  [.step 0, .step 1, .step 0, .step 1, .step 0, .step 1]

theorem start_notMem_abreast (c : Call) : .start c ∉ abreast := by
  simp only [abreast, List.mem_cons, List.not_mem_nil, reduceCtorEq, or_self, not_false_eq_true]

/-- Both updates are accepted, and set no field in common. The record that is
    stored at the end is the one that the second has made, and the plan is
    gone. -/
theorem updates_overtake :
    acmeOffice.activeById "acme" = .ok acmeTenant ∧
      [planPatch, namePatch].Pairwise Patch.Disjoint ∧
      let w := (updating acmeOffice "acme" [planPatch, namePatch]).run Office.memoryService abreast
      let planned := planPatch.apply acmeTenant ⟨0, 0⟩
      let named := namePatch.apply acmeTenant ⟨0, 0⟩
      w.stages.map Stage.reply? = [some (.record (.ok planned)), some (.record (.ok named))] ∧
        w.office.activeById "acme" = .ok named ∧ ¬planPatch.Carried named := by
  refine ⟨activeById_acmeOffice, disjoint_plan_name, by decide +kernel, by decide +kernel, ?_⟩
  -- If the plan had been carried, the stored record would have it.
  intro hcarried
  have hplan := hcarried (.entry "plan") "pro" rfl
  exact absurd hplan (by decide)

/-- The two updates as the theorem has them: the first overtakes the second, and
    one of them is undone. -/
theorem carried_unless_overtakes_abreast :
    (updating acmeOffice "acme" [planPatch, namePatch]).Overtakes Office.memoryService abreast 0 1 ∧
      ∃ last, ((updating acmeOffice "acme" [planPatch, namePatch]).run Office.memoryService
          abreast).office.activeById "acme" = .ok last ∧
        (planPatch.Undone acmeTenant last ∨ namePatch.Undone acmeTenant last) := by
  -- The first update writes while the second holds what it has read.
  have hovertakes : (updating acmeOffice "acme" [planPatch, namePatch]).Overtakes
      Office.memoryService abreast 0 1 :=
    ⟨by decide, [.step 0, .step 1], [.step 1, .step 0, .step 1], planPatch.apply acmeTenant ⟨0, 0⟩,
      namePatch.apply acmeTenant ⟨0, 0⟩, rfl, by decide +kernel, by decide +kernel⟩
  rcases carried_unless_overtakes Office.memoryService acmeOffice reachable_acmeOffice "acme"
    acmeTenant activeById_acmeOffice [planPatch, namePatch] disjoint_plan_name abreast
    start_notMem_abreast with ⟨last, hlast, _, hlost⟩
  refine ⟨hovertakes, last, hlast, ?_⟩
  exact hlost 0 1 planPatch namePatch (planPatch.apply acmeTenant ⟨0, 0⟩)
    (namePatch.apply acmeTenant ⟨0, 0⟩) rfl rfl (by decide +kernel) (by decide +kernel) hovertakes

end Traffic

end Multitenancy
