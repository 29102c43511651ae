import Multitenancy.Proofs.Provisioning.Turns
/-!
# Racing Creations

What comes of any number of creations of one id that get in each other's way.

Nothing reserves an id but the lock, and the lock is given up whenever a
creation ends, be it that it was dropped in the middle of anything. What makes
up for this is when it is held: it is taken before the id is checked and given
up after the record is written. So whoever has found the id free is alone with
it until it has written, and what it has found stays true; and whoever writes
leaves an id that no later check finds free, since ids are never taken out of
the registry.

The invariant says this of all operations at once. The claims on the locks are
those that go with the phases, the id of a creation that has passed its check
is not in the registry, the id of one that has written is, and no two have
written one id.

## Main definitions

* `Rush.Claiming`, `Rush.Wrote`: An operation holds or waits for a lock, or has
  written its record.
* `Rush.Orderly`: The invariant.
* `Rush.Proceeds`: What one moment and a later one have in common.
* `Rush.Accepted`: A creation of an id has succeeded.
* `Rush.Within`: A creation of an id is between its check and its write.
* `Office.workFor`: What was done to stores for an id.

## Theorems

* `Rush.Orderly.alone`: Who holds the lock of an id is alone with it.
* `Rush.Orderly.put`: A turn keeps the invariant.
* `Rush.Orderly.next`, `Rush.Orderly.run`: So do an event and a history.
* `Traffic.alone_run`: The same for operations that wait between steps only.
* `Rush.Accepted.run`: An answer is final.
* `Rush.creations_of_one_id`: Of all creations of one id one is accepted at
  most, and none does anything to a store afterwards.
-/

namespace Multitenancy

/-- What was done to stores for an id. -/
def Office.workFor (o : Office) (id : String) : List Effect :=
  o.effects.filter fun e => e.id == id

namespace Rush

/-- An operation holds the lock of an id or waits for it. -/
def Claiming (w : Rush) (n : Nat) (key : String) (held : Bool) : Prop :=
  ∃ op, w.operations[n]? = some op ∧ op.progress.phase.claim? = some (key, held)

/-- A creation of an id has written its record. -/
def Wrote (w : Rush) (n : Nat) (id : String) : Prop :=
  ∃ op, w.operations[n]? = some op ∧ op.call.created? = some id ∧
    op.progress.phase.wrote = true

/-- What holds of racing operations at all times. -/
structure Orderly (ts : Roster) (w : Rush) : Prop where
  keeps : w.office.env.registry.store.KeepsSound ts
  sound : w.office.creating.Sound
  /-- The claims on locks are those of the phases. -/
  claims : ∀ {n : Nat} {key : String} {held : Bool},
    w.office.creating.Claims n key held ↔ w.Claiming n key held
  called : ∀ {n : Nat} {op : Operation}, w.operations[n]? = some op → op.progress.phase.Of op.call
  /-- An id that was found free is free until it is written. -/
  free : ∀ {n : Nat} {op : Operation} {id : String}, w.operations[n]? = some op →
    op.progress.phase = .building id → id ∉ ts.ids
  written : ∀ {n : Nat} {id : String}, w.Wrote n id → id ∈ ts.ids
  once : ∀ {m n : Nat} {id : String}, w.Wrote m id → w.Wrote n id → m = n

section Put

variable {w : Rush} {n : Nat} {op : Operation}

theorem claiming_put_iff (hn : w.operations[n]? = some op) (after : Office × Progress) {k : Nat}
    {key : String} {held : Bool} :
    (w.put n op after).Claiming k key held ↔
      (k ≠ n ∧ w.Claiming k key held) ∨
        (k = n ∧ after.2.phase.claim? = some (key, held)) := by
  unfold Claiming
  rw [getElem?_put hn]
  -- Only the operation whose turn it was has other claims, those of its new phase.
  by_cases hkn : k = n
  · simp only [hkn, if_true, Option.some.injEq, exists_eq_left', ne_eq, not_true_eq_false,
      false_and, true_and, false_or]
  · simp only [hkn, if_false, ne_eq, not_false_eq_true, true_and, false_and, or_false]

theorem claiming_iff_of_some (hn : w.operations[n]? = some op) (key : String) (held : Bool) :
    w.Claiming n key held ↔ op.progress.phase.claim? = some (key, held) := by
  unfold Claiming
  simp only [hn, Option.some.injEq, exists_eq_left']

end Put

/-- One moment and a later one: ids stay, and nothing is done to stores for an
    id that was there. -/
structure Proceeds (ts us : Roster) (o o' : Office) : Prop where
  ids : ts.ids <+: us.ids
  effects : ∃ log, o'.effects = o.effects ++ log ∧ ∀ e ∈ log, e.id ∉ ts.ids

namespace Proceeds

variable {ts us vs : Roster} {o o' o'' : Office}

theorem refl (ts : Roster) (o : Office) : Proceeds ts ts o o :=
  ⟨List.prefix_refl _, [], (List.append_nil _).symm, fun _ he => absurd he List.not_mem_nil⟩

theorem trans (h : Proceeds ts us o o') (h' : Proceeds us vs o' o'') : Proceeds ts vs o o'' where
  ids := h.ids.trans h'.ids
  effects := by
    rcases h.effects with ⟨log, hlog, hfree⟩
    rcases h'.effects with ⟨log', hlog', hfree'⟩
    refine ⟨log ++ log', by rw [hlog', hlog, List.append_assoc], fun e he => ?_⟩
    rcases List.mem_append.mp he with hfirst | hsecond
    · exact hfree e hfirst
    · exact fun hmem => hfree' e hsecond (h.ids.subset hmem)

/-- For an id that is there nothing is done any more. -/
theorem workFor_eq (h : Proceeds ts us o o') {id : String} (hid : id ∈ ts.ids) :
    o'.workFor id = o.workFor id := by
  rcases h.effects with ⟨log, hlog, hfree⟩
  have hnothing : (log.filter fun e => e.id == id) = [] := by
    refine List.filter_eq_nil_iff.mpr fun e he hsame => ?_
    exact hfree e he (eq_of_beq hsame ▸ hid)
  rw [Office.workFor, hlog, List.filter_append, hnothing, List.append_nil, Office.workFor]

end Proceeds

namespace Orderly

variable {ts us : Roster} {w : Rush} {n : Nat} {op : Operation} {log : List Effect}
  {new : List String} {after : Office × Progress}

/-- Two creations that hold the lock of one id are one. -/
theorem alone (h : Orderly ts w) {m n : Nat} {op op' : Operation} {id : String}
    (hm : w.operations[m]? = some op) (hn : w.operations[n]? = some op')
    (hop : op.progress.phase.claim? = some (id, true))
    (hop' : op'.progress.phase.claim? = some (id, true)) : m = n :=
  h.sound.holder_unique (h.claims.mpr ⟨op, hm, hop⟩) (h.claims.mpr ⟨op', hn, hop'⟩)

/-- Who has written after a turn had written before it, or has found its id free
    and writes. -/
theorem wrote_of_put (h : Orderly ts w) (hn : w.operations[n]? = some op)
    (ht : Turned n ts us log new (w.office, op.progress) after) {k : Nat} {id : String}
    (hk : (w.put n op after).Wrote k id) :
    w.Wrote k id ∨ (k = n ∧ op.progress.phase = .building id ∧ id ∈ new) := by
  rcases hk with ⟨op', hop', hcall, hwrote⟩
  rw [getElem?_put hn] at hop'
  split at hop'
  · rename_i hkn
    rw [Option.some.injEq] at hop'
    subst hop' hkn
    -- Whose turn it was is a creation that had written, no creation, or one that writes now.
    rcases ht.turn.of_wrote hwrote with hbefore | helse | ⟨other, hbuilding, hnew⟩
    · exact Or.inl ⟨op, hn, hcall, hbefore⟩
    · -- What is no creation is not one of an id.
      have hid := (h.called hn).id?_eq fun _ => by
        simp only [helse, ne_eq, reduceCtorEq, not_false_eq_true]
      rw [helse, hcall] at hid
      exact absurd hid (Option.some_ne_none id).symm
    · -- The id it was building for is the one it was called with.
      have hid := (h.called hn).id?_eq fun _ => by
        simp only [hbuilding, ne_eq, reduceCtorEq, not_false_eq_true]
      rw [hbuilding, hcall] at hid
      cases Option.some.inj hid
      exact Or.inr ⟨rfl, hbuilding, hnew⟩
  · exact Or.inl ⟨op', hop', hcall, hwrote⟩

/-- A turn keeps the invariant. -/
theorem put (h : Orderly ts w) (hn : w.operations[n]? = some op)
    (ht : Turned n ts us log new (w.office, op.progress) after) :
    Orderly us (w.put n op after) := by
  have hown : ∀ key held, w.office.creating.Claims n key held ↔
      op.progress.phase.claim? = some (key, held) := fun key held => by
    rw [h.claims, claiming_iff_of_some hn]
  constructor
  case keeps => exact ht.keeps
  case sound => exact ht.turn.sound h.sound hown
  case claims =>
    intro k key held
    rw [claiming_put_iff hn, ← h.claims]
    exact ht.turn.claims_iff h.sound hown
  case called =>
    intro k op' hk
    rw [getElem?_put hn] at hk
    split at hk
    · rw [Option.some.injEq] at hk
      subst hk
      exact ht.turn.of_call (h.called hn)
    · exact h.called hk
  case free =>
    intro k op' id hk hbuilding
    rw [ht.ids, List.mem_append, not_or]
    rw [getElem?_put hn] at hk
    split at hk
    · rw [Option.some.injEq] at hk
      subst hk
      rcases ht.turn.of_building hbuilding with ⟨hbefore | hfree, hnone⟩
      · exact ⟨h.free hn hbefore, hnone ▸ List.not_mem_nil⟩
      · exact ⟨hfree, hnone ▸ List.not_mem_nil⟩
    · -- Nobody else writes this id, for that takes the lock.
      rename_i hkn
      refine ⟨h.free hk hbuilding, fun hnew => hkn ?_⟩
      have hwriter := ht.turn.of_mem_new hnew
      exact h.alone hk hn (by rw [hbuilding]; rfl) (by rw [hwriter]; rfl)
  case written =>
    intro k id hk
    rw [ht.ids, List.mem_append]
    rcases h.wrote_of_put hn ht hk with hbefore | ⟨_, _, hnew⟩
    · exact Or.inl (h.written hbefore)
    · exact Or.inr hnew
  case once =>
    -- Who writes has found the id free, so nobody has written it before.
    intro m k id hm hk
    rcases h.wrote_of_put hn ht hm with hm | ⟨hmn, hbuilding, _⟩ <;>
      rcases h.wrote_of_put hn ht hk with hk | ⟨hkn, hbuilding', _⟩
    · exact h.once hm hk
    · exact absurd (h.written hm) (h.free hn hbuilding')
    · exact absurd (h.written hk) (h.free hn hbuilding)
    · exact hmn.trans hkn.symm

/-- What a turn does to ids and log. -/
theorem proceeds_put (h : Orderly ts w) (hn : w.operations[n]? = some op)
    (ht : Turned n ts us log new (w.office, op.progress) after) :
    Proceeds ts us w.office (w.put n op after).office where
  ids := ht.ids ▸ List.prefix_append _ _
  effects := ⟨log, ht.effects, fun _ he => h.free hn (ht.turn.of_mem_log he)⟩

/-- An event that is about one operation. -/
theorem act (h : Orderly ts w) (n : Nat) {f : Office → Nat → Progress → Office × Progress}
    (hf : ∀ p, ∃ us log new, Turned n ts us log new (w.office, p) (f w.office n p)) :
    ∃ us, Orderly us (w.act n f) ∧ Proceeds ts us w.office (w.act n f).office := by
  cases hn : w.operations[n]? with
  | none =>
      rw [act_of_none hn]
      exact ⟨ts, h, .refl ts _⟩
  | some op =>
      -- Whatever the operation does is a turn, and a turn keeps order.
      rcases hf op.progress with ⟨us, log, new, ht⟩
      rw [act_eq hn]
      exact ⟨us, h.put hn ht, h.proceeds_put hn ht⟩

/-- An operation that is started has no claim and has written nothing. -/
theorem start (h : Orderly ts w) (svc : Service) (c : Call) :
    Orderly ts (w.next svc (.start c)) := by
  have hfresh : (Progress.between (.begun c)).phase.id? = c.created? := by
    cases c <;> rfl
  have hclaim : (Progress.between (.begun c)).phase.claim? = none := by
    cases c <;> rfl
  have hwrote : (Progress.between (.begun c)).phase.wrote = false := by
    cases c <;> rfl
  have hbuilding : ∀ id, (Progress.between (.begun c)).phase ≠ .building id := by
    intro id
    cases c <;> simp only [Progress.phase, ne_eq, reduceCtorEq, not_false_eq_true]
  -- Who has written by then was there before.
  have hold : ∀ {n id}, (w.next svc (.start c)).Wrote n id → w.Wrote n id := by
    rintro n id ⟨op, hop, hcall, hw⟩
    rcases w.getElem?_start c hop with hop | ⟨_, rfl⟩
    · exact ⟨op, hop, hcall, hw⟩
    · exact absurd (hwrote.symm.trans hw) Bool.false_ne_true
  refine ⟨h.keeps, h.sound, fun {n key held} => ?_, fun {n op} hop => ?_,
    fun {n op id} hop hp => ?_, fun hw => h.written (hold hw),
    fun hm hn => h.once (hold hm) (hold hn)⟩
  · refine Iff.trans h.claims ⟨?_, ?_⟩
    · rintro ⟨op, hop, hop'⟩
      exact ⟨op, getElem?_start_of_some hop c, hop'⟩
    · rintro ⟨op, hop, hop'⟩
      rcases w.getElem?_start c hop with hop | ⟨_, rfl⟩
      · exact ⟨op, hop, hop'⟩
      · exact absurd (hclaim.symm.trans hop') (Option.some_ne_none _).symm
  · rcases w.getElem?_start c hop with hop | ⟨_, rfl⟩
    · exact h.called hop
    · exact Or.inr hfresh
  · rcases w.getElem?_start c hop with hop | ⟨_, rfl⟩
    · exact h.free hop hp
    · exact absurd hp (hbuilding id)

/-- Every event keeps the invariant. -/
theorem next (h : Orderly ts w) (svc : Service) (e : RushEvent) :
    ∃ us, Orderly us (w.next svc e) ∧ Proceeds ts us w.office (w.next svc e).office := by
  cases e with
  | start c => exact ⟨ts, h.start svc c, .refl ts _⟩
  | go n => exact h.act n (Progress.turned_go svc h.keeps n)
  | opened n outcome => exact h.act n fun p => Progress.turned_opened h.keeps n p outcome
  | migrated n outcome => exact h.act n fun p => Progress.turned_migrated h.keeps n p outcome
  | cancel n => exact h.act n (Progress.turned_cancel h.keeps n)
  | disturb | pass =>
      -- Registry, locks and operations are the same.
      exact ⟨ts, ⟨h.keeps, h.sound, h.claims, h.called, h.free, h.written, h.once⟩,
        List.prefix_refl _, [], (List.append_nil _).symm, fun _ he => absurd he List.not_mem_nil⟩

/-- So does every history. -/
theorem run (h : Orderly ts w) (svc : Service) (history : List RushEvent) :
    ∃ us, Orderly us (w.run svc history) ∧ Proceeds ts us w.office (w.run svc history).office := by
  induction history generalizing ts w with
  | nil => exact ⟨ts, h, .refl ts _⟩
  | cons e rest ih =>
      rcases h.next svc e with ⟨us, hnext, hfirst⟩
      rcases ih hnext with ⟨vs, hrun, hrest⟩
      exact ⟨vs, hrun, hfirst.trans hrest⟩

end Orderly

/-- There is order at first, when nobody has a lock and nothing was started. -/
theorem orderly_of_new {o : Office} (hlocks : o.creating = {}) {ts : Roster}
    (hkeeps : o.env.registry.store.KeepsSound ts) : Orderly ts { office := o } := by
  -- There is no operation yet, so only the locks have to be looked at.
  have hnone : ∀ {n : Nat} {op : Operation},
      ({ office := o } : Rush).operations[n]? ≠ some op := by
    simp only [List.getElem?_nil, ne_eq, reduceCtorEq, not_false_eq_true, implies_true]
  refine ⟨hkeeps, hlocks ▸ .empty, fun {n key held} => iff_of_false ?_ ?_,
    fun hop => absurd hop hnone, fun hop => absurd hop hnone,
    fun ⟨_, hop, _⟩ => absurd hop hnone, fun ⟨_, hop, _⟩ => absurd hop hnone⟩
  · rw [hlocks]
    exact Locks.not_claims_empty n key held
  · rintro ⟨_, hop, _⟩
    exact absurd hop hnone

end Rush

/-- Operations that wait between two steps only are among these, so of those
    too one at most holds the lock of an id. -/
theorem Traffic.alone_run (svc : Service) {o : Office} (hlocks : o.creating = {})
    (hreachable : o.env.registry.store.Reachable) (history : List TrafficEvent) {m n : Nat}
    {stage stage' : Stage} {id : String}
    (hm : (({ office := o } : Traffic).run svc history).stages[m]? = some stage)
    (hn : (({ office := o } : Traffic).run svc history).stages[n]? = some stage')
    (hstage : (Progress.between stage).phase.claim? = some (id, true))
    (hstage' : (Progress.between stage').phase.claim? = some (id, true)) : m = n := by
  rcases hreachable.keepsSound with ⟨ts, hkeeps⟩
  have hfirst : Rush.Mirrors { office := o } { office := o } := ⟨rfl, rfl⟩
  -- The same operations are started in a history of the finer kind, where the invariant holds.
  rcases Rush.mirrors_run svc hfirst history with ⟨events, hmirrors⟩
  rcases (Rush.orderly_of_new hlocks hkeeps).run svc events with ⟨us, horderly, _⟩
  rcases hmirrors.getElem? hm with ⟨c, hop⟩
  rcases hmirrors.getElem? hn with ⟨c', hop'⟩
  exact horderly.alone hop hop' hstage hstage'

namespace Rush

/-! ### Answers -/

section Done

variable {svc : Service} {w : Rush} {n : Nat} {c : Call} {r : Reply}

/-- An operation that has answered does nothing when it is its turn. -/
theorem getElem?_act_of_done
    (hn : w.operations[n]? = some { call := c, progress := .between (.done r) }) (task : Nat)
    {f : Office → Nat → Progress → Office × Progress}
    (hf : ∀ o n, (f o n (.between (.done r))).2 = .between (.done r)) :
    (w.act task f).operations[n]? = some { call := c, progress := .between (.done r) } := by
  cases htask : w.operations[task]? with
  | none =>
      rw [act_of_none htask]
      exact hn
  | some op =>
      rw [act_eq htask, getElem?_put htask]
      -- Its own turn does nothing any more, and that of another does not touch it.
      split
      · rename_i hsame
        rw [hsame, htask, Option.some.injEq] at hn
        rw [hn, hf]
      · exact hn

/-- An operation that has answered keeps its answer. -/
theorem getElem?_next_of_done
    (hn : w.operations[n]? = some { call := c, progress := .between (.done r) })
    (e : RushEvent) :
    (w.next svc e).operations[n]? = some { call := c, progress := .between (.done r) } := by
  -- Every event is the turn of one operation, or is about none.
  cases e with
  | start c' => exact getElem?_start_of_some hn c'
  | go task => exact getElem?_act_of_done hn task fun _ _ => rfl
  | opened task outcome => exact getElem?_act_of_done hn task fun _ _ => rfl
  | migrated task outcome => exact getElem?_act_of_done hn task fun _ _ => rfl
  | cancel task => exact getElem?_act_of_done hn task fun _ _ => rfl
  | disturb stores => exact hn
  | pass elapsed wall => exact hn

theorem getElem?_run_of_done
    (hn : w.operations[n]? = some { call := c, progress := .between (.done r) })
    (history : List RushEvent) :
    (w.run svc history).operations[n]? = some { call := c, progress := .between (.done r) } := by
  induction history generalizing w with
  | nil => exact hn
  | cons e rest ih => exact ih (getElem?_next_of_done hn e)

end Done

/-- A creation of an id has answered with its record. -/
def Accepted (w : Rush) (n : Nat) (id : String) : Prop :=
  ∃ t r, w.operations[n]? =
    some { call := .create t, progress := .between (.done (.record (.ok r))) } ∧ t.id = id

/-- A creation of an id has come to its check, and its write has not led to an
    answer yet. -/
def Within (w : Rush) (n : Nat) (id : String) : Prop :=
  ∃ t p, w.operations[n]? = some { call := .create t, progress := p } ∧ t.id = id ∧
    (p.phase = .checking id ∨ p.phase = .building id ∨ p.phase = .stored id)

theorem Accepted.wrote {w : Rush} {n : Nat} {id : String} (h : w.Accepted n id) :
    w.Wrote n id := by
  rcases h with ⟨t, r, hop, rfl⟩
  exact ⟨_, hop, rfl, rfl⟩

/-- Who is accepted stays so. -/
theorem Accepted.run {w : Rush} {n : Nat} {id : String} (h : w.Accepted n id) (svc : Service)
    (history : List RushEvent) : (w.run svc history).Accepted n id := by
  rcases h with ⟨t, r, hop, hid⟩
  exact ⟨t, r, getElem?_run_of_done hop history, hid⟩

/-- Whatever calls come in between each other, and wherever they fail or are
    dropped, of all that create one id no two are ever accepted. At no moment are
    two between their check of the id and the end of their write. And once one is
    accepted, no store is opened for the id any more, no migration is run, and
    nobody gets past the check. -/
theorem creations_of_one_id (svc : Service) (o : Office) (hlocks : o.creating = {})
    (hreachable : o.env.registry.store.Reachable) (id : String) (history : List RushEvent) :
    let w := fun events => ({ office := o } : Rush).run svc events
    (∀ before before' m n, before <+: history → before' <+: history → (w before).Accepted m id →
      (w before').Accepted n id → m = n) ∧
    (∀ m n, (w history).Within m id → (w history).Within n id → m = n) ∧
    ∀ before n, before <+: history → (w before).Accepted n id →
      (w history).office.workFor id = (w before).office.workFor id ∧
        ∀ (m : Nat) (op : Operation), (w history).operations[m]? = some op →
          op.progress.phase ≠ .building id := by
  intro w
  rcases hreachable.keepsSound with ⟨ts, hkeeps⟩
  have hfirst := orderly_of_new hlocks hkeeps
  rcases hfirst.run svc history with ⟨us, horderly, _⟩
  -- All answers are still there in the end.
  have hlater : ∀ {before n}, before <+: history → (w before).Accepted n id →
      (w history).Accepted n id := by
    rintro before n ⟨rest, rfl⟩ haccepted
    have hrun := haccepted.run svc rest
    rw [← run_append] at hrun
    exact hrun
  -- From the check to the write a creation holds the lock of its id.
  have hclaim : ∀ {n}, (w history).Within n id → (w history).Claiming n id true := by
    rintro n ⟨t, p, hop, _, hphase⟩
    refine ⟨_, hop, ?_⟩
    rcases hphase with hp | hp | hp
    · rw [hp]
      rfl
    · rw [hp]
      rfl
    · rw [hp]
      rfl
  refine ⟨fun before before' m n hb hb' hm hn => ?_, fun m n hm hn => ?_, ?_⟩
  · exact horderly.once (hlater hb hm).wrote (hlater hb' hn).wrote
  · exact horderly.sound.holder_unique (horderly.claims.mpr (hclaim hm))
      (horderly.claims.mpr (hclaim hn))
  · rintro before n ⟨rest, rfl⟩ haccepted
    -- The id is in the registry from then on.
    rcases hfirst.run svc before with ⟨vs, hbefore, _⟩
    rcases hbefore.run svc rest with ⟨_, hafter, hproceeds⟩
    rw [← run_append] at hafter hproceeds
    have hid := hbefore.written haccepted.wrote
    refine ⟨hproceeds.workFor_eq hid, fun m op hop hbuilding => ?_⟩
    exact hafter.free hop hbuilding (hproceeds.ids.subset hid)

/-- Three creations of one id. The first is dropped while its store is being
    opened, the second takes over and is accepted. -/
def raceForAcme : List RushEvent :=
  List.replicate 3 (.start (.create (Tenant.new "acme" "Acme" ⟨0, 0⟩))) ++
    [.go 0, .go 1, .go 0, .go 1, .go 0, .go 0, .cancel 0, .go 1, .go 2, .go 2, .go 1, .go 1,
      .opened 1 (.ok 0), .go 1, .migrated 1 (.ok ()), .go 1, .go 1, .go 1]

/-- The third gets the lock then, and finds the id taken. -/
def thirdForAcme : List RushEvent :=
  [.go 2, .go 2]

/-- The second is the only one that is ever accepted. Two stores were opened
    for the id on the way there, and nothing is done for it afterwards. -/
theorem creations_of_one_id_acme :
    Office.newOffice.creating = {} ∧ Office.newOffice.env.registry.store.Reachable ∧
      let w := fun events => ({ office := Office.newOffice } : Rush).run Office.fileService events
      (w raceForAcme).Accepted 1 "acme" ∧
        (∀ n, (w (raceForAcme ++ thirdForAcme)).Accepted n "acme" → n = 1) ∧
        (w raceForAcme).office.workFor "acme" =
          [.opening "acme" "sqlite://acme.db?mode=rwc",
            .opening "acme" "sqlite://acme.db?mode=rwc", .migrating "acme"] ∧
        (w (raceForAcme ++ thirdForAcme)).office.workFor "acme" =
          (w raceForAcme).office.workFor "acme" := by
  have hlocks : Office.newOffice.creating = {} := rfl
  have hreachable : Office.newOffice.env.registry.store.Reachable :=
    ⟨.indexed .empty, Or.inl rfl, [], rfl⟩
  rcases creations_of_one_id Office.fileService Office.newOffice hlocks hreachable "acme"
    (raceForAcme ++ thirdForAcme) with ⟨honce, _, hquiet⟩
  -- The second creation is accepted in the race already, as is computed.
  have hsecond : (({ office := Office.newOffice } : Rush).run Office.fileService
      raceForAcme).Accepted 1 "acme" :=
    ⟨Tenant.new "acme" "Acme" ⟨0, 0⟩,
      { Tenant.new "acme" "Acme" ⟨0, 0⟩ with storeLocator := "sqlite://acme.db?mode=rwc" }, rfl,
      rfl⟩
  have hprefix : raceForAcme <+: raceForAcme ++ thirdForAcme := List.prefix_append _ _
  refine ⟨hlocks, hreachable, hsecond, fun n hn => ?_, by decide +kernel, ?_⟩
  · exact honce _ _ n 1 (List.prefix_refl _) hprefix hn hsecond
  · exact (hquiet raceForAcme 1 hprefix hsecond).1

end Rush

end Multitenancy
