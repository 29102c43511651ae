import Multitenancy.Http.Middleware
/-!
# Pipelines That Share Their Middlewares

Pipelines are copied all the time, by whoever serves a request. A copy costs
nothing, because it refers to the list that the original refers to. What is
shared must then not be written: adding a middleware makes a new list, and only
the pipeline that it was added to refers to the new list afterwards.

## Main definitions

* `Chains`: Lists of middlewares, and the pipelines that refer to them.
* `ChainEvent`: A new pipeline, a copy of one, or one more middleware.
* `Chains.pipeline?`: The middlewares of a pipeline.
* `Chains.run`: The state after a history.
-/

namespace Multitenancy

namespace Http

variable {m : Type → Type} {ρ α : Type}

/-- Lists of middlewares, and the pipelines that refer to them. -/
structure Chains (m : Type → Type) (ρ α : Type) where
  /-- The lists, in the order in which they were made. -/
  lists : List (Pipeline m ρ α) := []
  /-- The place of its list, for each pipeline. -/
  places : List Nat := []

/-- What may happen to pipelines, which are known by their numbers. -/
inductive ChainEvent (m : Type → Type) (ρ α : Type) where
  | new
  | clone (k : Nat)
  | add (k : Nat) (w : Middleware m ρ α)

namespace Chains

/-- The middlewares of a pipeline. -/
def pipeline? (s : Chains m ρ α) (k : Nat) : Option (Pipeline m ρ α) :=
  match s.places[k]? with
  | some place => s.lists[place]?
  | none => none

/-- The state after an event. What is said of a pipeline that does not exist
    is ignored. -/
def next (s : Chains m ρ α) : ChainEvent m ρ α → Chains m ρ α
  | .new => { lists := s.lists ++ [[]], places := s.places ++ [s.lists.length] }
  | .clone k =>
    match s.places[k]? with
    | some place => { s with places := s.places ++ [place] }
    | none => s
  | .add k w =>
    match s.pipeline? k with
    | some p => { lists := s.lists ++ [p.add w], places := s.places.set k s.lists.length }
    | none => s

/-- The state after a history. -/
def run (s : Chains m ρ α) (history : List (ChainEvent m ρ α)) : Chains m ρ α :=
  history.foldl next s

end Chains

end Http

end Multitenancy
