import Multitenancy.Provisioning.Interleaving
/-!
# Operations Under Way

How the state of interleaved operations changes from one event to the next.

An event that is about one operation moves that operation alone: every other
one stays at its stage, and what the event does to the office is what the step
or the cancellation says. A history is followed from its front, one event
after the other, or from its end, where the last event comes on top of all
before it.

## Theorems

* `run_append`, `run_concat`: A history in two parts.
* `next_step`, `next_cancel`: The events that are about one operation.
* `act_of_none`, `office_act`, `getElem?_act_self`, `getElem?_act_of_ne`,
  `length_act`: What an operation does when it is its turn.
* `getElem?_start`: Which operations there are after one is started.
-/

namespace Multitenancy

namespace Traffic

theorem run_append (svc : Service) (w : Traffic) (before after : List TrafficEvent) :
    w.run svc (before ++ after) = (w.run svc before).run svc after :=
  List.foldl_append

theorem run_concat (svc : Service) (w : Traffic) (history : List TrafficEvent)
    (e : TrafficEvent) : w.run svc (history ++ [e]) = (w.run svc history).next svc e := by
  rw [run_append]
  rfl

theorem next_step (svc : Service) (w : Traffic) (task : Nat) :
    w.next svc (.step task) = w.act task fun o task stage => stage.step svc o task := rfl

theorem next_cancel (svc : Service) (w : Traffic) (task : Nat) :
    w.next svc (.cancel task) = w.act task fun o task stage => stage.cancel o task := rfl

section Act

variable {w : Traffic} {task n : Nat} {stage : Stage}
  {f : Office → Nat → Stage → Office × Stage}

/-- An operation that was never started does nothing. -/
theorem act_of_none (h : w.stages[task]? = none) : w.act task f = w := by
  unfold act
  rw [h]

theorem act_eq (h : w.stages[task]? = some stage) :
    w.act task f =
      { office := (f w.office task stage).1
        stages := w.stages.set task (f w.office task stage).2 } := by
  unfold act
  rw [h]

theorem office_act (h : w.stages[task]? = some stage) :
    (w.act task f).office = (f w.office task stage).1 := by
  rw [act_eq h]

theorem getElem?_act_self (h : w.stages[task]? = some stage) :
    (w.act task f).stages[task]? = some (f w.office task stage).2 := by
  have hlt : task < w.stages.length := (List.getElem?_eq_some_iff.mp h).1
  rw [act_eq h, List.getElem?_set_self hlt]

theorem getElem?_act_of_ne (hne : n ≠ task) : (w.act task f).stages[n]? = w.stages[n]? := by
  cases h : w.stages[task]? with
  | none => rw [act_of_none h]
  | some stage => rw [act_eq h, List.getElem?_set_ne hne.symm]

theorem length_act : (w.act task f).stages.length = w.stages.length := by
  cases h : w.stages[task]? with
  | none => rw [act_of_none h]
  | some stage => rw [act_eq h, List.length_set]

end Act

/-- An operation is one of those that were there, or the one that has been
    started. -/
theorem getElem?_start {w w' : Traffic} {first : Stage} (hstages : w'.stages = w.stages ++ [first])
    {n : Nat} {stage : Stage} (hn : w'.stages[n]? = some stage) :
    w.stages[n]? = some stage ∨ stage = first := by
  rw [hstages, List.getElem?_append] at hn
  split at hn
  · exact Or.inl hn
  · exact Or.inr (List.mem_singleton.mp (List.mem_of_getElem? hn))

end Traffic

end Multitenancy
