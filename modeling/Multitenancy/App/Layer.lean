import Multitenancy.App.Hook
import Multitenancy.Http.Middleware
/-!
# Layers

The middlewares this library comes with, as data: classifying requests by
tenant, marking which layers a request went through, refusing, answering,
changing the request, and turning errors into responses.

## Main definitions

* `Layer`: A middleware as data.
* `Layer.middleware`: What it does.
-/

namespace Multitenancy

/-- A middleware as data. -/
inductive Layer where
  /-- Resolve the tenant, attach it and tell the hooks. A request without a
      tenant is refused unless `optional`. -/
  | tenant (optional : Bool) (hooks : List Hook)
  /-- Note the request on its way in and the outcome on its way out, and put
      the name in front of those in the response's list. -/
  | tag (name : String)
  | reject (e : Http.Error)
  | answer (body : String)
  | setHeader (name value : String)
  /-- Detach the tenant. -/
  | forgetTenant
  /-- Answer an error with its response. -/
  | rescue
  deriving DecidableEq, Repr

namespace Layer

/-- The response header that lists the tags a request went through. -/
def orderHeader : String := "x-order"

/-- A response with a name in front of those in its list. -/
def tagged (name : String) (r : Http.Response) : Http.Response :=
  r.withHeader orderHeader
    (match r.headers.get? orderHeader with
      | some others => name ++ "," ++ others
      | none => name)

/-- The refusal of a request without a tenant. -/
def noTenant : Http.Error := { kind := .notFound, text := "Tenant could not be resolved" }

/-- Forward a request and leave its answer alone. -/
def pass (request : AppRequest) : Http.Step AppM AppRequest Outcome :=
  .forward request pure

/-- The decision of the tenant layer. -/
def classify (optional : Bool) (hooks : List Hook) : Http.Middleware AppM AppRequest Outcome :=
  fun request => do
    let env ← get
    let (resolved, env) := env.resolve request
    set env
    match resolved with
    | some t =>
      let request := AppRequest.setTenant request t
      match ← notify t request (hooks.map Hook.run) with
      | .ok () => return pass request
      | .error e => return .answer (.error e)
    | none => return if optional then pass request else .answer (.error noTenant)

/-- What a layer does. -/
def middleware : Layer → Http.Middleware AppM AppRequest Outcome
  | .tenant optional hooks => classify optional hooks
  | .tag name => fun request => do
    note (name ++ ":in")
    return .forward request fun
      | .ok response => do
        note (name ++ ":ok")
        return .ok (tagged name response)
      | .error e => do
        note (name ++ ":err")
        return .error e
  | .reject e => fun _ => return .answer (.error e)
  | .answer body => fun _ => return .answer (.ok (.text body))
  | .setHeader name value => fun request => return pass (request.withHeader name value)
  | .forgetTenant => fun request => return pass (AppRequest.forgetTenant request)
  | .rescue => fun request => return .forward request fun
    | .ok response => return .ok response
    | .error e => return .ok (.ofError e)

end Layer

end Multitenancy
