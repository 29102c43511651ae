import Multitenancy.Provisioning.Basic
/-!
# Operations on Tenants, Step by Step

Creating, updating, deleting and resolving, each as a sequence of steps with a
stage between any two of them. Other operations may come in at every stage,
and an operation may be dropped there.

Creating holds the lock of its id from before the id is checked until the
record is stored, so that a second creation of the id sees the first one's
record. Updating and deleting take no lock: they read, write, and then tell
the resolver.

An operation that runs alone is the same steps one after the other.

## Main definitions

* `Call`: An operation with its arguments.
* `Reply`: Its answer.
* `Stage`: How far it has come.
* `Stage.step`: The next step.
* `Office.run`: An operation run alone.
-/

namespace Multitenancy

/-- An operation with its arguments. -/
inductive Call where
  | create (t : Tenant)
  | update (id : String) (patch : Patch)
  | delete (id : String)
  | resolve (key : String)
  deriving DecidableEq, Repr

/-- The answer of an operation. -/
inductive Reply where
  /-- Of creating and updating: the record. -/
  | record (r : Except Fault Tenant)
  /-- Of deleting. -/
  | deleted (r : Except Fault Unit)
  /-- Of resolving. -/
  | resolved (t : Option Tenant)

/-- How far an operation has come. -/
inductive Stage where
  | begun (c : Call)
  /-- Creating: waits for the lock of its id. -/
  | queued (t : Tenant)
  /-- Creating: holds the lock. -/
  | entered (t : Tenant)
  /-- Creating: the id is free. -/
  | free (t : Tenant)
  /-- Creating: the store is open and prepared. -/
  | prepared (t : Tenant) (handle : Nat)
  /-- Creating: the migration is done. -/
  | migrated (t : Tenant) (handle : Nat)
  /-- Creating: the record is stored. -/
  | stored (t : Tenant)
  /-- Updating: the current record is read and the new one made. -/
  | read (previous new : Tenant)
  /-- Updating: the new record is stored. -/
  | written (previous new : Tenant)
  /-- Deleting: the record is read. -/
  | known (t : Tenant)
  /-- Deleting: the record is marked as deleted. -/
  | marked (t : Tenant)
  /-- Resolving: the cache has no answer. -/
  | missed (key : String)
  /-- Resolving: the registry has answered. -/
  | answered (key : String) (outcome : Resolved)
  | done (r : Reply)
  /-- Dropped before it was done. -/
  | dropped

namespace Office

/-- Give up the lock of a task and answer a creation with a fault. -/
def fail (o : Office) (task : Nat) (f : Fault) : Office × Stage :=
  ({ o with creating := o.creating.drop task }, .done (.record (.error f)))

/-- The record that a creation goes on with: active, stamped, and with a
    locator. -/
def place (svc : Service) (o : Office) (t : Tenant) : Tenant :=
  let t := { t with status := .active, createdAt := o.env.wall, updatedAt := o.env.wall }
  if Text.blankText t.storeLocator then { t with storeLocator := svc.generate t } else t

/-- An active tenant by its id. -/
def activeById (o : Office) (id : String) : Except Fault Tenant :=
  match o.env.registry.findById id with
  | .ok t => if t.isActive then .ok t else .error (.unknownTenant id)
  | .error f => .error f

/-- Open and prepare the store of a placed record. -/
def openFor (svc : Service) (o : Office) (task : Nat) (t : Tenant) : Office × Stage :=
  if Text.blankText t.storeLocator then o.fail task (.locatorNotDerived t.id)
  else
    let o := o.did (.opening t.id t.storeLocator)
    match o.stores.provision svc.pool t.storeLocator with
    | (.ok handle, stores) => ({ o with stores }, .prepared t handle)
    | (.error f, stores) => { o with stores }.fail task f

/-- A fault of a migration. One that is about provisioning already is passed
    on as it is. -/
def migrationFault (t : Tenant) (f : Fault) : Fault :=
  if f.kind == .provisioning then f else .migrationFailed t.id f

/-- Run the migration on a prepared store. -/
def migrate (svc : Service) (o : Office) (task : Nat) (t : Tenant) (handle : Nat) :
    Office × Stage :=
  match svc.migration with
  | none => (o, .migrated t handle)
  | some run =>
    let o := o.did (.migrating t.id)
    match run o.stores handle t with
    | (.ok (), stores) => ({ o with stores }, .migrated t handle)
    | (.error f, stores) =>
      { o with stores := stores.close handle }.fail task (migrationFault t f)

/-- Close the store of a migrated tenant and write its record. -/
def store (o : Office) (task : Nat) (t : Tenant) (handle : Nat) : Office × Stage :=
  let o := { o with stores := o.stores.close handle }
  match o.env.registry.create t with
  | (.ok (), registry) => ({ o with env := { o.env with registry } }, .stored t)
  | (.error f, registry) => { o with env := { o.env with registry } }.fail task f

/-- The first step of an operation. -/
def start (o : Office) (task : Nat) : Call → Office × Stage
  | .create t =>
    match t.check with
    | .ok () => ({ o with creating := o.creating.request task t.id }, .queued t)
    | .error f => (o, .done (.record (.error f)))
  | .update id patch =>
    match o.activeById id with
    | .ok t => (o, .read t (patch.apply t o.env.wall))
    | .error f => (o, .done (.record (.error f)))
  | .delete id =>
    match o.env.registry.findById id with
    | .ok t => (o, .known t)
    | .error f => (o, .done (.deleted (.error f)))
  | .resolve key =>
    match o.env.resolver.probe o.env.clock key with
    | (some outcome, resolver) =>
      ({ o with env := { o.env with resolver } }, .done (.resolved outcome.tenant?))
    | (none, resolver) => ({ o with env := { o.env with resolver } }, .missed key)

end Office

namespace Stage

/-- The next step of the operation of a task. A creation that waits for a lock
    which is held stays where it is. -/
def step (svc : Service) (o : Office) (task : Nat) : Stage → Office × Stage
  | .begun c => o.start task c
  | .queued t =>
    match o.creating.grant? task with
    | some creating => ({ o with creating }, .entered t)
    | none => (o, .queued t)
  | .entered t =>
    match o.env.registry.findById t.id with
    | .ok _ => o.fail task (.idTaken t.id)
    | .error f => if f.isNotFound then (o, .free t) else o.fail task f
  | .free t => o.openFor svc task (o.place svc t)
  | .prepared t handle => o.migrate svc task t handle
  | .migrated t handle => o.store task t handle
  | .stored t =>
    let o := o.forget svc t
    ({ o with creating := o.creating.drop task }, .done (.record (.ok t)))
  | .read previous new =>
    match o.env.registry.update new with
    | (.ok (), registry) => ({ o with env := { o.env with registry } }, .written previous new)
    | (.error f, registry) =>
      ({ o with env := { o.env with registry } }, .done (.record (.error f)))
  | .written previous new =>
    ((o.forget svc previous).forget svc new, .done (.record (.ok new)))
  | .known t =>
    match o.env.registry.softDelete t.id o.env.wall with
    | (.ok (), registry) => ({ o with env := { o.env with registry } }, .marked t)
    | (.error f, registry) =>
      ({ o with env := { o.env with registry } }, .done (.deleted (.error f)))
  | .marked t => (o.forget svc t, .done (.deleted (.ok ())))
  | .missed key =>
    let (answer, registry) := o.env.registry.find key
    ({ o with env := { o.env with registry } }, .answered key (.ofLookup answer))
  | .answered key outcome =>
    let resolver := o.env.resolver.fill o.env.clock key outcome
    ({ o with env := { o.env with resolver } }, .done (.resolved outcome.tenant?))
  | .done r => (o, .done r)
  | .dropped => (o, .dropped)

/-- Drop an operation where it is. A lock that it holds or waits for is given
    up; what was done so far stays. -/
def cancel (o : Office) (task : Nat) : Stage → Office × Stage
  | .done r => (o, .done r)
  | _ => ({ o with creating := o.creating.drop task }, .dropped)

/-- The answer, once there is one. -/
def reply? : Stage → Option Reply
  | .done r => some r
  | _ => none

end Stage

namespace Office

/-- A number of steps of one operation, with no other in between. -/
def runSteps (svc : Service) (task : Nat) : Nat → Office → Stage → Office × Stage
  | 0, o, stage => (o, stage)
  | n + 1, o, stage =>
    let (o, stage) := stage.step svc o task
    runSteps svc task n o stage

/-- The most steps that an operation takes. -/
def maxSteps : Nat := 7

/-- A task number that no claim has. -/
def freshTask (o : Office) : Nat :=
  (o.creating.claims.map fun c => c.task + 1).foldl max 0

/-- Run an operation alone. There is no answer only if the lock of its id is
    held for ever. -/
def run (svc : Service) (o : Office) (c : Call) : Office × Option Reply :=
  let (o, stage) := runSteps svc o.freshTask maxSteps o (.begun c)
  (o, stage.reply?)

end Office

end Multitenancy
