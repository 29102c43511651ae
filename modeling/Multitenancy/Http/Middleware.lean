/-!
# Middleware

Work done around a handler. A middleware sees a request on its way in and
either answers it, or forwards a request, the same or a changed one, and sees
the answer on its way out.

What a middleware decides is a value, a `Step`, so it can forward once or not
at all, and what it does to the answer cannot reach the request again. A
pipeline is a list of middlewares in the order in which they see a request. It
is run by recursion on the list, the rest of the pipeline being the handler of
its first middleware.

## Main definitions

* `Step`: What a middleware decides.
* `Middleware`: A decision for each request.
* `Middleware.around`: A handler with a middleware around it.
* `Pipeline.apply`: A handler with a list of middlewares around it.
-/

namespace Multitenancy

namespace Http

/-- What a middleware decides about a request: an answer of its own, or a
    request to forward and what to do with the answer that comes back. -/
inductive Step (m : Type → Type) (ρ α : Type) where
  | answer (a : α)
  | forward (request : ρ) (after : α → m α)

/-- A decision for each request. -/
abbrev Middleware (m : Type → Type) (ρ α : Type) := ρ → m (Step m ρ α)

/-- An answer for each request. -/
abbrev Handler (m : Type → Type) (ρ α : Type) := ρ → m α

variable {m : Type → Type} [Monad m] {ρ α : Type}

/-- A handler with a middleware around it. -/
def Middleware.around (w : Middleware m ρ α) (next : Handler m ρ α) : Handler m ρ α :=
  fun request => do
    match ← w request with
    | .answer a => pure a
    | .forward request after => after (← next request)

/-- Middlewares, the outermost first. -/
abbrev Pipeline (m : Type → Type) (ρ α : Type) := List (Middleware m ρ α)

namespace Pipeline

/-- A handler with all middlewares of a pipeline around it. -/
def apply (handler : Handler m ρ α) : Pipeline m ρ α → Handler m ρ α
  | [] => handler
  | w :: rest => w.around (apply handler rest)

/-- A pipeline with one more middleware, inside all others. -/
def add (p : Pipeline m ρ α) (w : Middleware m ρ α) : Pipeline m ρ α :=
  p ++ [w]

end Pipeline

end Http

end Multitenancy
