import Multitenancy.Provisioning.Interleaving
/-!
# Operations That Wait in the Middle of a Step

Any number of operations, interleaved at every place where one of them waits.

Opening a store, running a migration and closing a store take their time.
Between the steps of a `Stage` each of them is over at once; here an operation
waits while one of them is under way, others come in meanwhile, and it may be
dropped at that point. Whether a store opens and whether a migration succeeds
is not worked out but said by the event that ends the wait, and the files may
change at any time. So every mixture of failures is a history.

## Main definitions

* `Progress`: How far an operation has come, perhaps within a step.
* `Progress.go`: On to the next place where the operation waits.
* `Progress.opened`, `Progress.migrated`: The end of a wait.
* `Rush`: The office and the operations under way.
* `RushEvent`: What may happen next.
* `Rush.run`: The state after a history.
-/

namespace Multitenancy

/-- How far an operation has come, perhaps within a step. -/
inductive Progress where
  /-- Between two steps. -/
  | between (s : Stage)
  /-- Creating: the store is being opened and prepared. -/
  | opening (t : Tenant)
  /-- Creating: the migration is running. -/
  | migrating (t : Tenant) (handle : Nat)
  /-- Creating: the migration has failed, and the store is still open. -/
  | failing (t : Tenant) (handle : Nat) (f : Fault)
  /-- Creating: the store is closed, and the record is not written yet. -/
  | closed (t : Tenant)

namespace Progress

/-- Nothing of the step is left to do. -/
def reached (after : Office × Stage) : Office × Progress :=
  (after.1, .between after.2)

/-- Take the operation of a task on to the next place where it waits. While its
    store is being opened, or its migration is running, it stays where it is. -/
def go (svc : Service) (o : Office) (task : Nat) : Progress → Office × Progress
  | .between (.free t) =>
    let t := o.place svc t
    if Text.blankText t.storeLocator then reached (o.fail task (.locatorNotDerived t.id))
    else (o.did (.opening t.id t.storeLocator), .opening t)
  | .between (.prepared t handle) =>
    match svc.migration with
    | none => (o, .between (.migrated t handle))
    | some _ => (o.did (.migrating t.id), .migrating t handle)
  | .between (.migrated t handle) => ({ o with stores := o.stores.close handle }, .closed t)
  | .between stage => reached (stage.step svc o task)
  | .opening t => (o, .opening t)
  | .migrating t handle => (o, .migrating t handle)
  | .failing t handle f =>
    reached ({ o with stores := o.stores.close handle }.fail task (Office.migrationFault t f))
  | .closed t =>
    match o.env.registry.create t with
    | (.ok (), registry) =>
      ({ o with env := { o.env with registry } }, .between (.stored t))
    | (.error f, registry) => reached ({ o with env := { o.env with registry } }.fail task f)

/-- The store is open and prepared, or is not going to be. -/
def opened (outcome : Except Fault Nat) (o : Office) (task : Nat) :
    Progress → Office × Progress
  | .opening t =>
    match outcome with
    | .ok handle => (o, .between (.prepared t handle))
    | .error f => reached (o.fail task f)
  | p => (o, p)

/-- The migration has ended. -/
def migrated (outcome : Except Fault Unit) (o : Office) (_ : Nat) :
    Progress → Office × Progress
  | .migrating t handle =>
    match outcome with
    | .ok () => (o, .between (.migrated t handle))
    | .error f => (o, .failing t handle f)
  | p => (o, p)

/-- Drop an operation where it is. -/
def cancel (o : Office) (task : Nat) : Progress → Office × Progress
  | .between stage => reached (stage.cancel o task)
  | _ => reached ({ o with creating := o.creating.drop task }, .dropped)

end Progress

/-- An operation and how far it has come. -/
structure Operation where
  call : Call
  progress : Progress

/-- The office and the operations that were started, by their number. -/
structure Rush where
  office : Office
  operations : List Operation := []

/-- What may happen next. -/
inductive RushEvent where
  | start (c : Call)
  | go (task : Nat)
  | opened (task : Nat) (outcome : Except Fault Nat)
  | migrated (task : Nat) (outcome : Except Fault Unit)
  | cancel (task : Nat)
  /-- Files and handles become others, whoever has changed them. -/
  | disturb (stores : Stores)
  | pass (elapsed : Nat) (wall : Timestamp)

namespace Rush

/-- Let the operation of a task do something. -/
def act (w : Rush) (task : Nat) (f : Office → Nat → Progress → Office × Progress) : Rush :=
  match w.operations[task]? with
  | none => w
  | some op =>
    let (office, progress) := f w.office task op.progress
    { office, operations := w.operations.set task { op with progress } }

/-- The state after an event. -/
def next (svc : Service) (w : Rush) : RushEvent → Rush
  | .start c =>
    { w with operations := w.operations ++ [{ call := c, progress := .between (.begun c) }] }
  | .go task => w.act task (Progress.go svc)
  | .opened task outcome => w.act task (Progress.opened outcome)
  | .migrated task outcome => w.act task (Progress.migrated outcome)
  | .cancel task => w.act task Progress.cancel
  | .disturb stores => { w with office := { w.office with stores } }
  | .pass elapsed wall =>
    { w with office := { w.office with
        env := { w.office.env with clock := w.office.env.clock + elapsed, wall } } }

/-- The state after a history. -/
def run (svc : Service) (w : Rush) (history : List RushEvent) : Rush :=
  history.foldl (next svc) w

end Rush

end Multitenancy
