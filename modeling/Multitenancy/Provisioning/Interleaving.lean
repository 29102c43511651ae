import Multitenancy.Provisioning.Call
/-!
# Operations Side by Side

Any number of operations, interleaved in any order between their steps.

An operation is known by its place in the list of those that were started. An
event starts one, takes one of them a step further, drops one, or lets time
pass; a history is a list of events.

## Main definitions

* `Traffic`: The office and the operations under way.
* `TrafficEvent`: What may happen next.
* `Traffic.run`: The state after a history.
-/

namespace Multitenancy

/-- The office and the operations that were started, by their number. -/
structure Traffic where
  office : Office
  stages : List Stage := []

/-- What may happen next. -/
inductive TrafficEvent where
  | start (c : Call)
  | step (task : Nat)
  | cancel (task : Nat)
  /-- The steady clock goes forward, and the wall clock is read anew. -/
  | pass (elapsed : Nat) (wall : Timestamp)

namespace Traffic

/-- Let the operation of a task do something. -/
def act (w : Traffic) (task : Nat) (f : Office → Nat → Stage → Office × Stage) : Traffic :=
  match w.stages[task]? with
  | none => w
  | some stage =>
    let (office, stage) := f w.office task stage
    { office, stages := w.stages.set task stage }

/-- The state after an event. -/
def next (svc : Service) (w : Traffic) : TrafficEvent → Traffic
  | .start c => { w with stages := w.stages ++ [.begun c] }
  | .step task => w.act task fun o task stage => stage.step svc o task
  | .cancel task => w.act task fun o task stage => stage.cancel o task
  | .pass elapsed wall =>
    { w with office := { w.office with
        env := { w.office.env with clock := w.office.env.clock + elapsed, wall } } }

/-- The state after a history. -/
def run (svc : Service) (w : Traffic) (history : List TrafficEvent) : Traffic :=
  history.foldl (next svc) w

end Traffic

end Multitenancy
