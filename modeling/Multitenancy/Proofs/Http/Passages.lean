import Multitenancy.Http.Middleware
/-!
# The Passage of a Request

What a request meets on its way through a pipeline.

A pipeline is a program, and two pipelines that answer alike may still have
done different work. To see the work, every middleware and the handler are made
to write down when they are given a request, what they decide, and when an
answer comes back to them. The pipeline that is watched is run by the same
function as any other, and forgetting what was written down gives back the
pipeline that was not watched.

`Course` is the order in which things are written down: one middleware after
the other, each given the request that the one before it forwarded, up to a
middleware that answers or to the handler, and back through those that
forwarded. It is proved of every run by going through the pipeline, for
middlewares of any kind: they may read and write any state, or fail.

## Main definitions

* `Always`: What is true of every result of a program.
* `Passage`: What is written down.
* `Middleware.watched`, `Handler.watched`, `Pipeline.watched`: With the writing.
* `Course`: The order of what is written down.

## Theorems

* `Always.bind`: One program after the other.
* `always_state_iff`: Programs over a state.
* `Middleware.run_watched`, `Handler.run_watched`: What is written down at one
  place.
* `Pipeline.unwatched`: Watching changes nothing.
* `Pipeline.always_course`: Every run has its order.
-/

namespace Multitenancy

namespace Http

/-! ### What is true of every result -/

section Results

variable {m : Type → Type} [Monad m] {α β : Type}

/-- Every result of the program has the property: it is a program whose
    results are known to have it. -/
def Always (P : α → Prop) (x : m α) : Prop :=
  ∃ y : m { a // P a }, Subtype.val <$> y = x

variable [LawfulMonad m] {P P' : α → Prop} {Q : β → Prop}

theorem Always.imp {x : m α} (hx : Always P x) (h : ∀ a, P a → P' a) : Always P' x := by
  rcases hx with ⟨y, rfl⟩
  exact ⟨(fun a => ⟨a.1, h a.1 a.2⟩) <$> y, Functor.map_map _ _ _⟩

theorem always_pure {a : α} (h : P a) : Always P (pure a : m α) :=
  ⟨pure ⟨a, h⟩, map_pure _ _⟩

theorem Always.bind {x : m α} {f : α → m β} (hx : Always P x) (hf : ∀ a, P a → Always Q (f a)) :
    Always Q (x >>= f) := by
  rcases hx with ⟨y, rfl⟩
  refine ⟨y >>= fun a => (hf a.1 a.2).choose, ?_⟩
  rw [map_bind, bind_map_left]
  exact bind_congr fun a => (hf a.1 a.2).choose_spec

/-- A program whose results are used whatever they are. -/
theorem always_bind {x : m α} {f : α → m β} (hf : ∀ a, Always Q (f a)) : Always Q (x >>= f) := by
  have hx : Always (fun _ => True) x :=
    ⟨(fun a => ⟨a, trivial⟩) <$> x, (Functor.map_map _ _ x).trans (id_map' x)⟩
  exact hx.bind fun a _ => hf a

/-- For programs over a state these are the results from every state. -/
theorem always_state_iff {σ : Type} {x : StateM σ α} : Always P x ↔ ∀ s, P (x.run s).1 := by
  constructor
  · rintro ⟨y, rfl⟩ s
    exact (y.run s).1.2
  · intro h
    exact ⟨fun s => (⟨(x.run s).1, h s⟩, (x.run s).2), rfl⟩

end Results

/-! ### Watching -/

/-- What is written down about the middleware at a place, or the handler. -/
inductive Passage (ρ : Type) where
  | given (i : Nat) (request : ρ)
  | answered (i : Nat)
  | forwarded (i : Nat) (request : ρ)
  | returned (i : Nat)
  | handled (request : ρ)
  deriving DecidableEq, Repr

/-- A program that also writes down. -/
abbrev Watched (m : Type → Type) (ρ : Type) := StateT (List (Passage ρ)) m

section Watching

variable {m : Type → Type} [Monad m] {ρ α : Type}

/-- Write down. -/
def Passage.record (x : Passage ρ) : Watched m ρ Unit :=
  modify fun seen => seen ++ [x]

/-- The middleware at a place, watched. -/
def Middleware.watched (w : Middleware m ρ α) (i : Nat) : Middleware (Watched m ρ) ρ α :=
  fun request => do
    Passage.record (.given i request)
    match ← StateT.lift (w request) with
    | .answer a => do
      Passage.record (.answered i)
      return .answer a
    | .forward request after => do
      Passage.record (.forwarded i request)
      return .forward request fun a => do
        Passage.record (.returned i)
        StateT.lift (after a)

/-- The handler, watched. -/
def Handler.watched (handler : Handler m ρ α) : Handler (Watched m ρ) ρ α :=
  fun request => do
    Passage.record (.handled request)
    StateT.lift (handler request)

/-- The middlewares of a pipeline, watched, the first of them at a place. -/
def Pipeline.watchedFrom (i : Nat) : Pipeline m ρ α → Pipeline (Watched m ρ) ρ α
  | [] => []
  | w :: rest => w.watched i :: watchedFrom (i + 1) rest

/-- The middlewares of a pipeline, watched. -/
def Pipeline.watched (p : Pipeline m ρ α) : Pipeline (Watched m ρ) ρ α :=
  p.watchedFrom 0

variable [LawfulMonad m]

theorem Handler.run_watched (handler : Handler m ρ α) (request : ρ) (seen : List (Passage ρ)) :
    (handler.watched request).run seen =
      handler request >>= fun a => pure (a, seen ++ [.handled request]) := by
  rw [Handler.watched, StateT.run_bind, Passage.record, StateT.run_modify, pure_bind,
    StateT.run_lift]

/-- What is written down where a middleware surrounds a handler. -/
theorem Middleware.run_watched (w : Middleware m ρ α) (i : Nat) (next : Handler (Watched m ρ) ρ α)
    (request : ρ) (seen : List (Passage ρ)) :
    ((w.watched i).around next request).run seen = w request >>= fun
      | .answer a => pure (a, seen ++ [.given i request] ++ [.answered i])
      | .forward passed after =>
        (next passed).run (seen ++ [.given i request] ++ [.forwarded i passed]) >>= fun out =>
          after out.1 >>= fun a => pure (a, out.2 ++ [.returned i]) := by
  -- What is written down is pushed through the binds, up to the step of the middleware.
  rw [Middleware.around, StateT.run_bind, Middleware.watched, StateT.run_bind, Passage.record,
    StateT.run_modify, pure_bind, StateT.run_bind, StateT.run_lift, bind_assoc, bind_assoc]
  refine bind_congr fun step => ?_
  cases step with
  | answer a =>
      simp only [pure_bind, StateT.run_bind, Passage.record, StateT.run_modify, StateT.run_pure]
  | forward passed after =>
      simp only [pure_bind, StateT.run_bind, Passage.record, StateT.run_modify, StateT.run_pure,
        StateT.run_lift]

/-- Forgetting what was written down gives back the pipeline. -/
theorem Pipeline.unwatchedFrom (handler : Handler m ρ α) (p : Pipeline m ρ α) (i : Nat)
    (request : ρ) (seen : List (Passage ρ)) :
    Prod.fst <$> ((p.watchedFrom i).apply handler.watched request).run seen =
      p.apply handler request := by
  induction p generalizing i request seen with
  | nil =>
      -- Writing down the call of the handler does not change its result.
      rw [watchedFrom, apply, apply, Handler.run_watched, map_bind]
      simp only [map_pure, bind_pure]
  | cons w rest ih =>
      rw [watchedFrom, apply, apply, Middleware.run_watched, Middleware.around, map_bind]
      refine bind_congr fun step => ?_
      cases step with
      -- A middleware that answers ends the run in both pipelines.
      | answer a => exact map_pure _ _
      | forward passed after =>
          -- After a forward the rest of the pipeline has the induction hypothesis, for whatever was
          -- written down before.
          simp only [← ih (i + 1) passed (seen ++ [.given i request] ++ [.forwarded i passed]),
            map_bind, bind_map_left, map_pure, bind_pure]

theorem Pipeline.unwatched (handler : Handler m ρ α) (p : Pipeline m ρ α) (request : ρ) :
    Prod.fst <$> (p.watched.apply handler.watched request).run [] = p.apply handler request :=
  p.unwatchedFrom handler 0 request []

end Watching

/-! ### The order of what is written down -/

/-- The course of a request that is given to the `i`-th of `n` middlewares, or
    to the handler behind them. -/
inductive Course {ρ : Type} (n : Nat) : Nat → ρ → List (Passage ρ) → Prop where
  /-- Behind the last middleware is the handler. -/
  | handled (request : ρ) : Course n n request [.handled request]
  /-- A middleware that answers is the last that is reached. -/
  | answered {i : Nat} (request : ρ) (h : i < n) :
      Course n i request [.given i request, .answered i]
  /-- The next one is given what this one forwards, and answers to it. -/
  | forwarded {i : Nat} (request : ρ) {passed : ρ} {rest : List (Passage ρ)} (h : i < n)
      (hrest : Course n (i + 1) passed rest) :
      Course n i request (.given i request :: .forwarded i passed :: rest ++ [.returned i])

section Order

variable {m : Type → Type} [Monad m] [LawfulMonad m] {ρ α : Type}

theorem Pipeline.always_courseFrom (handler : Handler m ρ α) (p : Pipeline m ρ α) (i : Nat)
    (request : ρ) (seen : List (Passage ρ)) :
    Always (fun out => ∃ course, out.2 = seen ++ course ∧ Course (i + p.length) i request course)
      (((p.watchedFrom i).apply handler.watched request).run seen) := by
  -- The induction is for any number and any record so far; a course begins where that record ends.
  induction p generalizing i request seen with
  | nil =>
      rw [watchedFrom, apply, Handler.run_watched]
      exact always_bind fun a => always_pure ⟨_, rfl, .handled request⟩
  | cons w rest ih =>
      -- The rest of the pipeline counts on from the next number, and ends at the same one.
      have hlt : i < i + (w :: rest).length := Nat.lt_add_of_pos_right (Nat.succ_pos _)
      have hlength : i + 1 + rest.length = i + (w :: rest).length := by
        rw [List.length_cons]
        omega
      rw [watchedFrom, apply, Middleware.run_watched]
      refine always_bind fun step => ?_
      cases step with
      | answer a => exact always_pure ⟨_, List.append_assoc _ _ _, .answered request hlt⟩
      | forward passed after =>
          refine (ih (i + 1) passed _).bind fun out hout => always_bind fun a => always_pure ?_
          -- The course of the rest follows the forward, and the return is written down behind it.
          rcases hout with ⟨course, hcourse, hrest⟩
          rw [hlength] at hrest
          refine ⟨_, ?_, .forwarded request hlt hrest⟩
          rw [hcourse]
          simp only [List.append_assoc, List.cons_append, List.nil_append]

/-- In every run the middlewares that are reached are given one request each,
    in their order: the first the request itself, and every other one what the
    one before it forwarded. A middleware that answers is the last. -/
theorem Pipeline.always_course (handler : Handler m ρ α) (p : Pipeline m ρ α) (request : ρ) :
    Always (fun out => Course p.length 0 request out.2)
      ((p.watched.apply handler.watched request).run []) := by
  refine (p.always_courseFrom handler 0 request []).imp fun out hout => ?_
  rcases hout with ⟨course, hcourse, h⟩
  rw [hcourse, List.nil_append]
  rwa [Nat.zero_add] at h

end Order

end Http

end Multitenancy
