import Multitenancy.App.Layer
/-!
# Applications

What answers the requests of a tenant: an endpoint, layers around it, and the
session cookie it uses.

The router does not care what a handler is. It asks for two things, to handle
a request and to name the session cookie, which is what `TenantHandler` says.

## Main definitions

* `TenantHandler`: What the router asks of a handler.
* `Endpoint`: The innermost handlers, as data.
* `App`: An endpoint with layers and a session cookie.
-/

namespace Multitenancy

/-- What the router asks of a handler. -/
class TenantHandler (η : Type) where
  handle : η → AppRequest → AppM Outcome
  /-- The session cookie; without one the router's default is used. -/
  sessionCookie? : η → Option String

/-- The innermost handlers, as data. -/
inductive Endpoint where
  | text (body : String)
  | status (code : Nat)
  | fail (e : Http.Error)
  /-- Answer with the tenant's name and one of its cache keys. -/
  | tenantCard
  /-- Answer with what the request says. -/
  | echo
  deriving DecidableEq, Repr

namespace Endpoint

/-- The key of which `tenantCard` shows the tenant's own form. -/
def cardKey : String := "orders"

/-- The metadata that `echo` shows. -/
def planKey : String := "plan"

/-- What a request says. -/
def echoed (request : AppRequest) : Json :=
  let tenant := AppRequest.tenant? request
  .object [
    ("body", .text (Utf8.decodeLossy request.body)),
    ("headers", .ofTexts request.headers),
    ("method", .text request.method),
    ("path", .text request.path),
    ("plan", .textOrNull (tenant.bind fun t => t.metadata.get? planKey)),
    ("query", .ofTexts request.query),
    ("tenant", .textOrNull (tenant.map Tenant.id))]

/-- The answer of an endpoint. -/
def handle (request : AppRequest) : Endpoint → Outcome
  | .text body => .ok (.text body)
  | .status code => .ok { status := code }
  | .fail e => .error e
  | .tenantCard =>
    match AppRequest.requireTenant request with
    | .ok t => .ok (.text (t.name ++ "|" ++ t.cacheKey cardKey))
    | .error f => .error f.toRequestError
  | .echo => .ok (Http.Response.ok.withJson (echoed request))

end Endpoint

/-- An endpoint with layers, the outermost first, and a session cookie. -/
structure App where
  endpoint : Endpoint
  layers : List Layer := []
  sessionCookie : Option String := none
  deriving DecidableEq, Repr

namespace App

/-- The answer of an application. -/
def handle (app : App) : AppRequest → AppM Outcome :=
  Http.Pipeline.apply (fun request => pure (app.endpoint.handle request))
    (app.layers.map Layer.middleware)

instance : TenantHandler App where
  handle := handle
  sessionCookie? := App.sessionCookie

end App

end Multitenancy
