import Multitenancy.Proofs.Provisioning.Traffic
import Multitenancy.Provisioning.Waiting
/-!
# Waiting in the Middle of a Step

How the state of operations changes that may wait within a step, and that they
do everything which operations do that wait between steps only.

A step that opens a store, runs a migration or closes a store is a few events
of a `Rush`: the operation goes on to the place where it waits, the files
change, and the wait ends. Every other step is one event. So whatever is true
after every history of a `Rush` is true after every history of `Traffic`.

## Main definitions

* `Rush.put`: An operation comes to a place.
* `Progress.Reaches`: Where an operation comes by events that are about it.
* `Rush.Mirrors`: The operations all wait between two steps, at the stages that
  they have in `Traffic`.

## Theorems

* `Rush.run_append`, `Rush.run_concat`: A history in two parts.
* `Rush.act_eq`, `Rush.getElem?_put`: What an operation does when it is its
  turn.
* `Rush.getElem?_start`: Which operations there are after one is started.
* `Progress.reaches_step`: A step is a few events.
* `Rush.mirrors_run`: Every history of `Traffic` is one of a `Rush`.
-/

namespace Multitenancy

namespace Rush

variable {svc : Service}

theorem run_append (svc : Service) (w : Rush) (before after : List RushEvent) :
    w.run svc (before ++ after) = (w.run svc before).run svc after :=
  List.foldl_append

theorem run_concat (svc : Service) (w : Rush) (history : List RushEvent) (e : RushEvent) :
    w.run svc (history ++ [e]) = (w.run svc history).next svc e := by
  rw [run_append]
  rfl

/-! ### One operation -/

/-- An operation comes to a place, with the office as it is then. -/
def put (w : Rush) (n : Nat) (op : Operation) (after : Office × Progress) : Rush :=
  { office := after.1, operations := w.operations.set n { op with progress := after.2 } }

section Act

variable {w : Rush} {n : Nat} {op : Operation} {f : Office → Nat → Progress → Office × Progress}

/-- An operation that was never started does nothing. -/
theorem act_of_none (h : w.operations[n]? = none) : w.act n f = w := by
  unfold act
  rw [h]

theorem act_eq (h : w.operations[n]? = some op) :
    w.act n f = w.put n op (f w.office n op.progress) := by
  unfold act
  rw [h]
  rfl

/-- The operation is there, and every other one is where it was. -/
theorem getElem?_put (h : w.operations[n]? = some op) (after : Office × Progress) (k : Nat) :
    (w.put n op after).operations[k]? =
      if k = n then some { op with progress := after.2 } else w.operations[k]? := by
  have hlt : n < w.operations.length := (List.getElem?_eq_some_iff.mp h).1
  rw [put]
  split
  · rename_i hkn
    rw [hkn, List.getElem?_set_self hlt]
  · rename_i hkn
    rw [List.getElem?_set_ne fun he => hkn he.symm]

/-- Coming to a place and doing something there. -/
theorem act_put (h : w.operations[n]? = some op) (after : Office × Progress) :
    (w.put n op after).act n f = w.put n op (f after.1 n after.2) := by
  have hput : (w.put n op after).operations[n]? = some { op with progress := after.2 } := by
    rw [getElem?_put h, if_pos rfl]
  rw [act_eq hput, put, put, put]
  simp only [List.set_set]

end Act

/-- An operation is one of those that were there, or the one that has been
    started. -/
theorem getElem?_start (w : Rush) (c : Call) {n : Nat} {op : Operation}
    (hn : (w.next svc (.start c)).operations[n]? = some op) :
    w.operations[n]? = some op ∨
      (n = w.operations.length ∧ op = { call := c, progress := .between (.begun c) }) := by
  rw [next, List.getElem?_append] at hn
  -- The place is one of the old ones, or the new one at the end.
  split at hn
  · exact Or.inl hn
  · rename_i hge
    rcases List.getElem?_eq_some_iff.mp hn with ⟨hlt, hop⟩
    rw [List.length_singleton] at hlt
    rw [List.getElem_singleton] at hop
    exact Or.inr ⟨by omega, hop.symm⟩

/-- Who was there before one is started is there afterwards. -/
theorem getElem?_start_of_some {w : Rush} {n : Nat} {op : Operation}
    (hn : w.operations[n]? = some op) (c : Call) :
    (w.next svc (.start c)).operations[n]? = some op := by
  rw [next, List.getElem?_append_left (List.getElem?_eq_some_iff.mp hn).1]
  exact hn

end Rush

/-! ### Steps as events -/

namespace Progress

variable {svc : Service} {task : Nat} {o : Office}

/-- Where an operation comes by events that are about it, while the files
    change. -/
inductive Reaches (svc : Service) (task : Nat) (first : Office × Progress) :
    Office × Progress → Prop
  | refl : Reaches svc task first first
  | go {after : Office × Progress} (h : Reaches svc task first after) :
      Reaches svc task first (after.2.go svc after.1 task)
  | opened {after : Office × Progress} (h : Reaches svc task first after)
      (outcome : Except Fault Nat) :
      Reaches svc task first (after.2.opened outcome after.1 task)
  | migrated {after : Office × Progress} (h : Reaches svc task first after)
      (outcome : Except Fault Unit) :
      Reaches svc task first (after.2.migrated outcome after.1 task)
  | disturb {after : Office × Progress} (h : Reaches svc task first after) (stores : Stores) :
      Reaches svc task first ({ after.1 with stores }, after.2)

/-- The step at which a store is opened: the operation waits for it once. -/
theorem reaches_free (svc : Service) (o : Office) (task : Nat) (t : Tenant) :
    Reaches svc task (o, .between (.free t)) (reached ((Stage.free t).step svc o task)) := by
  have hgo := Reaches.go (.refl : Reaches svc task (o, .between (.free t)) _)
  simp only [go] at hgo
  rw [Stage.step, Office.openFor]
  by_cases hblank : Text.blankText (o.place svc t).storeLocator = true
  · rw [if_pos hblank] at hgo ⊢
    exact hgo
  · rw [if_neg hblank] at hgo ⊢
    simp only
    rcases (o.did (.opening (o.place svc t).id (o.place svc t).storeLocator)).stores.provision
      svc.pool (o.place svc t).storeLocator with ⟨outcome, stores⟩
    -- The files become what the step makes of them, and the wait ends as it says.
    have hopened := (hgo.disturb stores).opened outcome
    cases outcome with
    | ok handle => exact hopened
    | error f => exact hopened

/-- The step at which the migration runs, and the store is closed if it
    fails. -/
theorem reaches_prepared (svc : Service) (o : Office) (task : Nat) (t : Tenant) (handle : Nat) :
    Reaches svc task (o, .between (.prepared t handle))
      (reached ((Stage.prepared t handle).step svc o task)) := by
  have hgo := Reaches.go (.refl : Reaches svc task (o, .between (.prepared t handle)) _)
  simp only [go] at hgo
  rw [Stage.step, Office.migrate]
  cases hrun : svc.migration with
  | none =>
      rw [hrun] at hgo
      exact hgo
  | some run =>
      rw [hrun] at hgo
      simp only
      rcases run (o.did (.migrating t.id)).stores handle t with ⟨outcome, stores⟩
      have hmigrated := (hgo.disturb stores).migrated outcome
      cases outcome with
      | ok u => exact hmigrated
      | error f =>
          -- The store is closed at the next event.
          exact hmigrated.go

/-- The step at which the store is closed and the record written. -/
theorem reaches_migrated (svc : Service) (o : Office) (task : Nat) (t : Tenant) (handle : Nat) :
    Reaches svc task (o, .between (.migrated t handle))
      (reached ((Stage.migrated t handle).step svc o task)) := by
  -- Two events of the finer kind make up the step: the store is closed, the record written.
  have hgo := (Reaches.go (.refl : Reaches svc task (o, .between (.migrated t handle)) _)).go
  simp only [go] at hgo
  rw [Stage.step, Office.store]
  simp only
  rcases hcreate : o.env.registry.create t with ⟨result, registry⟩
  rw [hcreate] at hgo
  cases result with
  | ok u => exact hgo
  | error f => exact hgo

/-- Every step is a few events. -/
theorem reaches_step (svc : Service) (o : Office) (task : Nat) (stage : Stage) :
    Reaches svc task (o, .between stage) (reached (stage.step svc o task)) := by
  cases stage with
  | free t => exact reaches_free svc o task t
  | prepared t handle => exact reaches_prepared svc o task t handle
  | migrated t handle => exact reaches_migrated svc o task t handle
  | _ => exact .go .refl

end Progress

namespace Rush

/-- An operation comes where its events take it. -/
theorem exists_run_eq {svc : Service} {w : Rush} {n : Nat} {op : Operation}
    (hn : w.operations[n]? = some op) {after : Office × Progress}
    (h : Progress.Reaches svc n (w.office, op.progress) after) :
    ∃ events, w.run svc events = w.put n op after := by
  induction h with
  | refl =>
      -- Coming to where it is changes nothing.
      rcases List.getElem?_eq_some_iff.mp hn with ⟨hlt, rfl⟩
      refine ⟨[], ?_⟩
      rw [put, List.set_getElem_self hlt]
      rfl
  | go h ih =>
      rcases ih with ⟨events, hevents⟩
      refine ⟨events ++ [.go n], ?_⟩
      rw [run_concat, hevents, next, act_put hn]
  | opened h outcome ih =>
      rcases ih with ⟨events, hevents⟩
      refine ⟨events ++ [.opened n outcome], ?_⟩
      rw [run_concat, hevents, next, act_put hn]
  | migrated h outcome ih =>
      rcases ih with ⟨events, hevents⟩
      refine ⟨events ++ [.migrated n outcome], ?_⟩
      rw [run_concat, hevents, next, act_put hn]
  | disturb h stores ih =>
      rcases ih with ⟨events, hevents⟩
      refine ⟨events ++ [.disturb stores], ?_⟩
      rw [run_concat, hevents]
      rfl

/-- The operations wait between two steps, at the stages that they have in
    `Traffic`. -/
structure Mirrors (w : Traffic) (v : Rush) : Prop where
  office : v.office = w.office
  stages : v.operations.map Operation.progress = w.stages.map .between

namespace Mirrors

variable {w : Traffic} {v : Rush}

/-- The operation of a task is at the stage that it has in `Traffic`. -/
theorem getElem? (h : Mirrors w v) {n : Nat} {stage : Stage} (hn : w.stages[n]? = some stage) :
    ∃ c, v.operations[n]? = some { call := c, progress := .between stage } := by
  have hstages := congrArg (fun l => l[n]?) h.stages
  simp only [List.getElem?_map, hn, Option.map_some, Option.map_eq_some_iff] at hstages
  rcases hstages with ⟨op, hop, hprogress⟩
  exact ⟨op.call, by rw [hop, ← hprogress]⟩

/-- One operation does the same on both sides. -/
theorem put (h : Mirrors w v) {n : Nat} {stage : Stage} (hn : w.stages[n]? = some stage)
    (f : Office → Nat → Stage → Office × Stage) (op : Operation) :
    Mirrors (w.act n f) (v.put n op (Progress.reached (f w.office n stage))) where
  office := by
    rw [Traffic.office_act hn]
    rfl
  stages := by
    rw [Traffic.act_eq hn, Rush.put, List.map_set, h.stages, List.map_set]
    rfl

theorem next (svc : Service) (h : Mirrors w v) (e : TrafficEvent) :
    ∃ events, Mirrors (w.next svc e) (v.run svc events) := by
  cases e with
  | start c =>
      refine ⟨[.start c], h.office, ?_⟩
      rw [run, List.foldl_cons, List.foldl_nil, Rush.next, Traffic.next, List.map_append, h.stages,
        List.map_append]
      rfl
  | pass elapsed wall =>
      refine ⟨[.pass elapsed wall], ?_, h.stages⟩
      rw [run, List.foldl_cons, List.foldl_nil, Rush.next, Traffic.next, h.office]
  | step n =>
      rw [Traffic.next_step]
      cases hn : w.stages[n]? with
      | none =>
          rw [Traffic.act_of_none hn]
          exact ⟨[], h⟩
      | some stage =>
          -- The step is a few events here, which end at the same stage.
          rcases h.getElem? hn with ⟨c, hc⟩
          rcases exists_run_eq hc (Progress.reaches_step svc v.office n stage) with
            ⟨events, hevents⟩
          refine ⟨events, ?_⟩
          rw [hevents, h.office]
          exact h.put hn _ _
  | cancel n =>
      rw [Traffic.next_cancel]
      cases hn : w.stages[n]? with
      | none =>
          rw [Traffic.act_of_none hn]
          exact ⟨[], h⟩
      | some stage =>
          rcases h.getElem? hn with ⟨c, hc⟩
          refine ⟨[.cancel n], ?_⟩
          rw [run, List.foldl_cons, List.foldl_nil, Rush.next, act_eq hc, h.office]
          exact h.put hn (fun o task stage => stage.cancel o task) _

end Mirrors

/-- Every history of `Traffic` is one of a `Rush`, with a few events for each
    step. -/
theorem mirrors_run (svc : Service) {w : Traffic} {v : Rush} (h : Mirrors w v)
    (history : List TrafficEvent) :
    ∃ events, Mirrors (w.run svc history) (v.run svc events) := by
  induction history generalizing w v with
  | nil => exact ⟨[], h⟩
  | cons e rest ih =>
      -- The events for the first step come before those for the rest.
      rcases h.next svc e with ⟨first, hfirst⟩
      rcases ih hfirst with ⟨later, hlater⟩
      refine ⟨first ++ later, ?_⟩
      rw [run_append]
      exact hlater

end Rush

end Multitenancy
