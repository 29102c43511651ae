import Multitenancy.App.Env
import Multitenancy.Http.Response
/-!
# Hooks

What is told about the tenant of a request before the tenant's handler runs,
and may still refuse the request.

Hooks run in the order in which they were added, and the first refusal ends
the request. `Hook` is the kind of hook this library comes with: it notes that
it was called and refuses the tenants on its list.

## Main definitions

* `TenantHook`: Any hook.
* `notify`: All hooks in order.
* `Hook`: A hook that notes and may refuse.
-/

namespace Multitenancy

/-- The outcome of a request. -/
abbrev Outcome := Except Http.Error Http.Response

/-- A hook: it may refuse a request of a tenant. -/
abbrev TenantHook := Tenant → AppRequest → AppM (Except Http.Error Unit)

/-- Tell hooks in order, up to the first refusal. -/
def notify (t : Tenant) (request : AppRequest) :
    List TenantHook → AppM (Except Http.Error Unit)
  | [] => pure (.ok ())
  | hook :: rest => do
    match ← hook t request with
    | .ok () => notify t request rest
    | .error e => pure (.error e)

/-- Add a line to the log. -/
def note (line : String) : AppM Unit :=
  modify fun env => env.note line

/-- A list of ids, or all of them. -/
def listed (ids : List String) (id : String) : Bool :=
  ids.contains id || ids.contains "*"

/-- A hook that notes and may refuse. -/
structure Hook where
  name : String
  /-- The ids of the tenants that are refused; `*` refuses all. -/
  deny : List String := []
  /-- What a refused request fails with. -/
  refusal : Http.Error
  deriving DecidableEq, Repr

namespace Hook

/-- The note of a call, which also shows which tenant the request carries. -/
def line (h : Hook) (t : Tenant) (request : AppRequest) : String :=
  h.name ++ ":" ++ t.id ++ ":" ++ (AppRequest.tenantId? request).getD ""

/-- What the hook does. -/
def run (h : Hook) : TenantHook := fun t request => do
  note (h.line t request)
  if listed h.deny t.id then pure (.error h.refusal) else pure (.ok ())

end Hook

end Multitenancy
