import Multitenancy.App.Basic
import Multitenancy.Deployment.Backend
/-!
# Factories

What makes handlers for tenants that have none registered.

A factory takes its time. It counts its attempts, over all tenants, and may
fail the first few of them or all of those for certain tenants. A handler it
makes always answers with the tenant's id and the number of the attempt, and
with the migrations of the tenant's store if the factory uses stores.

## Main definitions

* `Factory`: A factory as data.
* `Factory.make`: The outcome of an attempt.
-/

namespace Multitenancy

/-- A factory as data. -/
structure Factory where
  /-- How long an attempt takes. -/
  delay : Duration := 0
  /-- The tenants whose attempts break off. -/
  panicFor : List String := []
  /-- How many attempts fail at first. -/
  failFirst : Nat := 0
  /-- The tenants whose attempts fail. -/
  failFor : List String := []
  /-- What a failed attempt fails with. -/
  fault : Fault
  /-- The session cookie of the handlers. -/
  sessionCookie : Option String := none
  /-- Whether handlers show the migrations of the tenant's store. -/
  usesStore : Bool := false
  deriving DecidableEq, Repr

namespace Factory

/-- The handler that an attempt makes. -/
def handler (f : Factory) (body : String) : App :=
  { endpoint := .text body, sessionCookie := f.sessionCookie }

/-- What the handler of an attempt answers, but for the store. -/
def label (attempt : Nat) (t : Tenant) : String :=
  t.id ++ "#" ++ toString attempt

/-- The outcome of an attempt, once its time is over. -/
def make (f : Factory) (b : Backend) (attempt : Nat) (t : Tenant) :
    Except Fault App × Backend :=
  if f.panicFor.contains t.id then (.error .buildAborted, b)
  else if attempt ≤ f.failFirst || f.failFor.contains t.id then (.error f.fault, b)
  else if f.usesStore then
    match b.appliedMigrations t with
    | (.ok versions, b) =>
      (.ok (f.handler (label attempt t ++ " " ++ ",".intercalate versions)), b)
    | (.error fault, b) => (.error fault, b)
  else (.ok (f.handler (label attempt t)), b)

end Factory

end Multitenancy
