import Multitenancy.Proofs.Http.Chains
import Multitenancy.Proofs.Http.Passages
/-!
# Pipelines Compose

A pipeline of two lists of middlewares is the first list around the second.

Whoever runs a pipeline by counting gives each middleware, as the handler
behind it, the run from the next place on. What a middleware does with that
handler does not matter for the law: it may run it, drop it, run it twice or
stop it half way. So the law is first proved for anything that makes a handler
out of a handler, by going up with the count, and a pipeline is the case in
which every wrapper is a middleware.

A middleware that never forwards closes the pipeline. What stands behind it can
then be left out, whatever it is, and the handler too.

## Main definitions

* `Wrapper`: A handler made out of a handler.
* `runFrom`: Wrappers run by counting.

## Theorems

* `runFrom_eq_foldr`: A run by counting is a right fold.
* `Pipeline.apply_eq_foldr`, `Pipeline.apply_eq_runFrom`: A pipeline is both.
* `Pipeline.apply_append`: Two lists of middlewares.
* `Pipeline.apply_of_silent`: Behind a middleware that never forwards.
* `Pipeline.composes`: All that is said of pipelines, with the course of a
  request and the sharing of lists.
-/

namespace Multitenancy

namespace Http

/-! ### Wrappers -/

section Wrappers

variable {m : Type → Type} {ρ α : Type}

/-- A handler made out of a handler. -/
abbrev Wrapper (m : Type → Type) (ρ α : Type) := Handler m ρ α → Handler m ρ α

/-- Wrappers run by counting: each is given the run from the next place on, and
    behind the last one is the handler. -/
def runFrom (handler : Handler m ρ α) (ws : List (Wrapper m ρ α)) (i : Nat) : Handler m ρ α :=
  if h : i < ws.length then ws[i] (runFrom handler ws (i + 1)) else handler
termination_by ws.length - i

theorem runFrom_eq_foldr (handler : Handler m ρ α) (ws : List (Wrapper m ρ α)) (i : Nat) :
    runFrom handler ws i = (ws.drop i).foldr (fun w inner => w inner) handler := by
  fun_induction runFrom handler ws i with
  | case1 i h ih => rw [List.drop_eq_getElem_cons h, List.foldr_cons, ih]
  | case2 i h => rw [List.drop_eq_nil_of_le (Nat.le_of_not_lt h), List.foldr_nil]

theorem runFrom_append (handler : Handler m ρ α) (ws vs : List (Wrapper m ρ α)) :
    runFrom handler (ws ++ vs) 0 = runFrom (runFrom handler vs 0) ws 0 := by
  rw [runFrom_eq_foldr, runFrom_eq_foldr, runFrom_eq_foldr, List.drop_zero, List.drop_zero,
    List.drop_zero, List.foldr_append]

end Wrappers

/-! ### Middlewares -/

namespace Pipeline

section Adding

variable {m : Type → Type} {ρ α : Type}

theorem foldl_add (p q : Pipeline m ρ α) : q.foldl add p = p ++ q := by
  induction q generalizing p with
  | nil => rw [List.foldl_nil, List.append_nil]
  | cons w rest ih => rw [List.foldl_cons, ih, add, List.append_assoc, List.singleton_append]

end Adding

variable {m : Type → Type} [Monad m] {ρ α : Type}

theorem apply_eq_foldr (handler : Handler m ρ α) (p : Pipeline m ρ α) :
    p.apply handler = p.foldr Middleware.around handler := by
  induction p with
  | nil => rfl
  | cons w rest ih => rw [apply, ih, List.foldr_cons]

theorem apply_eq_runFrom (handler : Handler m ρ α) (p : Pipeline m ρ α) :
    p.apply handler = runFrom handler (p.map Middleware.around) 0 := by
  rw [runFrom_eq_foldr, List.drop_zero, List.foldr_map, apply_eq_foldr]

theorem apply_append (handler : Handler m ρ α) (p q : Pipeline m ρ α) :
    Pipeline.apply handler (p ++ q) = p.apply (q.apply handler) := by
  rw [apply_eq_foldr, apply_eq_foldr, apply_eq_foldr, List.foldr_append]

variable [LawfulMonad m]

/-- Behind a middleware that never forwards nothing is run: the middlewares
    before it are around its own answers. -/
theorem apply_of_silent (handler : Handler m ρ α) (p q : Pipeline m ρ α)
    {w : Middleware m ρ α} {answers : Handler m ρ α}
    (hw : ∀ request, w request = Step.answer <$> answers request) :
    Pipeline.apply handler (p ++ w :: q) = p.apply answers := by
  -- What a silent middleware is put around makes no difference to it.
  have haround : ∀ next : Handler m ρ α, w.around next = answers := by
    intro next
    funext request
    rw [Middleware.around, hw, bind_map_left]
    exact bind_pure (answers request)
  rw [apply_append, apply, haround]

/-- Pipelines compose. A pipeline to which first some middlewares are added and
    then others is the first ones around the pipeline of the others, which is
    also true of anything else that makes a handler out of a handler; and a
    pipeline is the right fold of its middlewares over the handler, by counting
    or not. In every run, which is the same whether it is watched or not, each
    middleware that is reached is given one request, in the order of adding,
    and that is the request which the one before it forwarded; one that answers
    is the last. Behind one that never forwards nothing matters. And pipelines
    that were copied and added to are what they would be without sharing, so
    that a pipeline is the same after any history in which nothing is added to
    itself. -/
theorem composes (handler : Handler m ρ α) (p q : Pipeline m ρ α) :
    Pipeline.apply handler (q.foldl add (p.foldl add [])) =
        Pipeline.apply (Pipeline.apply handler (q.foldl add [])) (p.foldl add []) ∧
    (∀ ws vs : List (Wrapper m ρ α),
      runFrom handler (ws ++ vs) 0 = runFrom (runFrom handler vs 0) ws 0) ∧
    p.apply handler = runFrom handler (p.map Middleware.around) 0 ∧
    p.apply handler = p.foldr Middleware.around handler ∧
    (∀ request,
      Prod.fst <$> (p.watched.apply handler.watched request).run [] = p.apply handler request ∧
      Always (fun out => Course p.length 0 request out.2)
        ((p.watched.apply handler.watched request).run [])) ∧
    (∀ (w : Middleware m ρ α) (answers : Handler m ρ α),
      (∀ request, w request = Step.answer <$> answers request) →
        Pipeline.apply handler (p ++ w :: q) = p.apply answers) ∧
    (∀ (history : List (ChainEvent m ρ α)) (k : Nat),
      (Chains.run {} history).pipeline? k = (history.foldl ChainEvent.onValues [])[k]?) ∧
    (∀ (history more : List (ChainEvent m ρ α)) (k : Nat) (c : Pipeline m ρ α),
      (Chains.run {} history).pipeline? k = some c → (∀ w, ChainEvent.add k w ∉ more) →
        (Chains.run {} (history ++ more)).pipeline? k = some c) := by
  refine ⟨?_, runFrom_append handler, p.apply_eq_runFrom handler, p.apply_eq_foldr handler,
    fun request => ⟨p.unwatched handler request, p.always_course handler request⟩,
    fun w answers hw => apply_of_silent handler p q hw, Chains.pipeline?_run,
    fun history more k c hc hmore => Chains.pipeline?_run_append hc hmore⟩
  -- Adding one by one is appending, and the first law is left.
  rw [foldl_add, foldl_add, foldl_add, List.nil_append, List.nil_append, apply_append]

/-- A middleware that counts its runs and changes the request and the answer. -/
def marking (k : Nat) : Middleware (StateM Nat) Nat (List Nat) := fun request => do
  modify (· + 1)
  return .forward (request * 10 + k) fun answer => return k :: answer

/-- A middleware that answers every request with it. -/
def closing : Middleware (StateM Nat) Nat (List Nat) := fun request =>
  return .answer [request]

/-- A pipeline in which the second of three middlewares answers, and a pipeline
    that something is added to after it was copied. -/
theorem composes_closing :
    LawfulMonad (StateM Nat) ∧
      (∀ request, closing request = Step.answer <$> (pure [request] : StateM Nat (List Nat))) ∧
      Pipeline.apply (fun _ => pure []) [marking 1, closing, marking 2] =
        Pipeline.apply (fun request => pure [request]) [marking 1] ∧
      Course 3 0 7 [.given 0 7, .forwarded 0 71, .given 1 71, .answered 1, .returned 0] ∧
      (∀ w, ChainEvent.add 0 w ∉ [ChainEvent.clone 0, .add 1 closing]) ∧
      (Chains.run {} ([.new, .add 0 (marking 1)] ++ [.clone 0, .add 1 closing])).pipeline? 0 =
        some [marking 1] := by
  -- Every part is read off the theorem; the laws about answers need a second pipeline.
  have hall := composes (fun _ => pure []) [marking 1, closing, marking 2] []
  have hclosing : ∀ request,
      closing request = Step.answer <$> (pure [request] : StateM Nat (List Nat)) := fun _ => rfl
  have hother : ∀ w, ChainEvent.add 0 w ∉ [ChainEvent.clone 0, .add 1 closing] := by
    intro w hw
    rcases List.mem_pair.mp hw with h | h
    · exact absurd h (by simp only [reduceCtorEq, not_false_eq_true])
    · exact absurd (ChainEvent.add.inj h).1 (by decide)
  refine ⟨inferInstance, hclosing, ?_, ?_, hother, ?_⟩
  · exact (composes (fun _ => pure []) [marking 1] [marking 2]).2.2.2.2.2.1 closing _ hclosing
  · exact always_state_iff.mp (hall.2.2.2.2.1 7).2 0
  · exact hall.2.2.2.2.2.2.2 _ _ 0 _ rfl hother

end Pipeline

end Http

end Multitenancy
