import Mathlib.Data.List.Basic
import Multitenancy.Http.Chains
import Multitenancy.Proofs.Histories
/-!
# Sharing Is Not Seen

Pipelines that refer to shared lists behave like pipelines that each have a
list of their own.

Copying a pipeline and copying its list are the same as long as nobody writes a
list. `Refers` says what each pipeline refers to, and that every pipeline
refers to something. A new list goes to the end and takes the place of no
other, so whatever was referred to before still is.

From this follows what a copy is for: whatever happens to other pipelines, a
pipeline keeps its middlewares until one is added to itself.

## Main definitions

* `ChainEvent.onValues`: What an event does to pipelines without sharing.
* `Chains.Refers`: What the pipelines refer to.

## Theorems

* `Chains.Refers.next`: One event.
* `Chains.refers_run`: A history.
* `Chains.pipeline?_run`: The middlewares after a history.
* `Chains.pipeline?_run_append`: A pipeline that nothing is added to.
-/

namespace Multitenancy

namespace Http

variable {m : Type → Type} {ρ α : Type}

/-- What an event does to pipelines that each have their own list. -/
def ChainEvent.onValues (ps : List (Pipeline m ρ α)) :
    ChainEvent m ρ α → List (Pipeline m ρ α)
  | .new => ps ++ [[]]
  | .clone k => ps ++ ps[k]?.toList
  | .add k w => ps.modify k fun p => p.add w

/-- An event that adds nothing to a pipeline leaves it as it is. -/
theorem ChainEvent.getElem?_onValues {ps : List (Pipeline m ρ α)} {k : Nat} {p : Pipeline m ρ α}
    (hp : ps[k]? = some p) {e : ChainEvent m ρ α} (he : ∀ w, e ≠ .add k w) :
    (e.onValues ps)[k]? = some p := by
  -- New pipelines and copies come last; an addition is to another pipeline.
  cases e with
  | new => exact getElem?_mono (List.prefix_append ps _) hp
  | clone j => exact getElem?_mono (List.prefix_append ps _) hp
  | add j w =>
      have hne : j ≠ k := by
        rintro rfl
        exact he w rfl
      rw [onValues, List.getElem?_modify_ne _ _ hne, hp]

namespace Chains

/-- The pipelines refer to the lists `ps`, in their order. -/
def Refers (s : Chains m ρ α) (ps : List (Pipeline m ρ α)) : Prop :=
  s.places.map (fun place => s.lists[place]?) = ps.map some

namespace Refers

variable {s : Chains m ρ α} {ps : List (Pipeline m ρ α)}

theorem getElem? (h : s.Refers ps) (k : Nat) :
    s.places[k]?.map (fun place => s.lists[place]?) = ps[k]?.map some := by
  rw [← List.getElem?_map, h, List.getElem?_map]

theorem pipeline? (h : s.Refers ps) (k : Nat) : s.pipeline? k = ps[k]? := by
  -- The reference invariant says the two lists are the same, place by place.
  have hk := h.getElem? k
  rw [Chains.pipeline?]
  cases hplace : s.places[k]? with
  | none =>
      rw [hplace, Option.map_none] at hk
      exact (Option.map_eq_none_iff.mp hk.symm).symm
  | some place =>
      rw [hplace, Option.map_some] at hk
      rcases Option.map_eq_some_iff.mp hk.symm with ⟨p, hp, hlist⟩
      rw [hp]
      exact hlist.symm

/-- Lists that are made later disturb nobody. -/
theorem more (h : s.Refers ps) (new : List (Pipeline m ρ α)) :
    s.places.map (fun place => (s.lists ++ new)[place]?) = ps.map some := by
  rw [← h]
  refine List.map_congr_left fun place hplace => ?_
  have hmem : s.lists[place]? ∈ ps.map some := by
    rw [← h]
    exact List.mem_map_of_mem hplace
  rcases List.mem_map.mp hmem with ⟨p, _, hp⟩
  rw [← hp, getElem?_mono (List.prefix_append s.lists new) hp.symm]

/-- An event does to what is referred to what it does without sharing. -/
theorem next (h : s.Refers ps) (e : ChainEvent m ρ α) : (s.next e).Refers (e.onValues ps) := by
  cases e with
  -- The new list is referred to by the place behind the old lists.
  | new =>
      rw [Refers, Chains.next, ChainEvent.onValues, List.map_append, List.map_append, h.more,
        List.map_singleton, List.map_singleton, List.getElem?_concat_length]
  | clone k =>
      -- A copy refers to the list that the original refers to, which must not be written again.
      have hk := h.getElem? k
      rw [Chains.next, ChainEvent.onValues]
      cases hplace : s.places[k]? with
      | none =>
          rw [hplace, Option.map_none] at hk
          rw [Option.map_eq_none_iff.mp hk.symm, Option.toList_none, List.append_nil]
          exact h
      | some place =>
          rw [hplace, Option.map_some] at hk
          rcases Option.map_eq_some_iff.mp hk.symm with ⟨p, hp, hlist⟩
          rw [hp, Option.toList_some, Refers, List.map_append, List.map_append, h,
            List.map_singleton, List.map_singleton, hlist]
  | add k w =>
      -- An addition writes a longer list behind the others and moves one reference to it.
      rw [Chains.next, h.pipeline?, ChainEvent.onValues]
      cases hp : ps[k]? with
      | none =>
          rw [List.modify_eq_self (List.getElem?_eq_none_iff.mp hp)]
          exact h
      | some p =>
          have hset : ps.modify k (fun p => p.add w) = ps.set k (p.add w) := by
            rw [List.modify_eq_set_getElem?, hp]
            rfl
          rw [hset, Refers, List.map_set, List.map_set, h.more, List.getElem?_concat_length]

end Refers

/-- Pipelines behave as if each had its own list. -/
theorem refers_run (history : List (ChainEvent m ρ α)) :
    (Chains.run {} history).Refers (history.foldl ChainEvent.onValues []) := by
  have hall : ∀ (s : Chains m ρ α) (ps : List (Pipeline m ρ α)), s.Refers ps →
      (s.run history).Refers (history.foldl ChainEvent.onValues ps) := by
    induction history with
    | nil => exact fun s ps h => h
    | cons e rest ih => exact fun s ps h => ih (s.next e) (e.onValues ps) (h.next e)
  exact hall {} [] rfl

theorem pipeline?_run (history : List (ChainEvent m ρ α)) (k : Nat) :
    (Chains.run {} history).pipeline? k = (history.foldl ChainEvent.onValues [])[k]? :=
  (refers_run history).pipeline? k

/-- A pipeline to which nothing is added keeps its middlewares, whatever is
    added to its copies and to what it was copied from. -/
theorem pipeline?_run_append {history more : List (ChainEvent m ρ α)} {k : Nat}
    {p : Pipeline m ρ α} (hp : (Chains.run {} history).pipeline? k = some p)
    (hmore : ∀ w, ChainEvent.add k w ∉ more) :
    (Chains.run {} (history ++ more)).pipeline? k = some p := by
  rw [pipeline?_run] at hp ⊢
  rw [List.foldl_append]
  -- Without sharing, all this is about values, and the induction is on the later events.
  generalize history.foldl ChainEvent.onValues [] = ps at hp ⊢
  induction more generalizing ps with
  | nil => exact hp
  | cons e rest ih =>
      refine ih (fun w hw => hmore w (List.mem_cons_of_mem e hw)) (e.onValues ps) ?_
      -- The event is one of the later ones, so it adds nothing to the pipeline.
      refine ChainEvent.getElem?_onValues hp fun w he => hmore w ?_
      rw [he]
      exact List.mem_cons_self

end Chains

end Http

end Multitenancy
