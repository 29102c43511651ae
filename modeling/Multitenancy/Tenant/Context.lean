import Multitenancy.Http.Request
import Multitenancy.Tenant.Basic
/-!
# The Tenant of a Request

The tenant a request belongs to travels with the request, as request-scoped
state of the kind `Scope.tenant`. The router and the tenant middleware attach
it; handlers and hooks read it back.

A request may carry a context that holds no tenant, which differs from no
context at all only for those who ask for the context itself.

## Main definitions

* `Scope`: The kinds of state that requests of this library carry.
* `TenantContext`: What is attached.
* `AppRequest`: Requests with that state.
* `AppRequest.setTenant`, `AppRequest.tenant?`: Attach a tenant and read it.
* `AppRequest.requireTenant`: The tenant, or the fault of a request without
  one.
-/

namespace Multitenancy

/-- What is attached to a request. -/
structure TenantContext where
  tenant : Option Tenant := none
  deriving DecidableEq, Repr

/-- The kinds of state that requests carry. -/
inductive Scope where
  | tenant
  deriving DecidableEq, Repr

/-- The type of the value of a kind. -/
abbrev Scope.Value : Scope → Type
  | .tenant => TenantContext

/-- A request that can carry a tenant. -/
abbrev AppRequest := Http.Request Scope.Value

namespace AppRequest

/-- Attach a context in place of any former one. -/
def setContext (r : AppRequest) (c : TenantContext) : AppRequest :=
  { r with extensions := r.extensions.insert Scope.tenant c }

/-- Attach a tenant in place of any former one. -/
def setTenant (r : AppRequest) (t : Tenant) : AppRequest :=
  r.setContext { tenant := some t }

/-- Detach the context. -/
def forgetTenant (r : AppRequest) : AppRequest :=
  { r with extensions := r.extensions.erase Scope.tenant }

/-- The context that is attached. -/
def context? (r : AppRequest) : Option TenantContext :=
  r.extensions.get? Scope.tenant

/-- The tenant that is attached. -/
def tenant? (r : AppRequest) : Option Tenant :=
  r.context?.bind TenantContext.tenant

/-- The id of the tenant that is attached. -/
def tenantId? (r : AppRequest) : Option String :=
  r.tenant?.map Tenant.id

/-- The tenant that is attached, for those who cannot do without. -/
def requireTenant (r : AppRequest) : Except Fault Tenant :=
  match r.tenant? with
  | some t => .ok t
  | none => .error .unresolved

end AppRequest

end Multitenancy
