import Multitenancy.Storage.Stores
import Multitenancy.Tenant.Basic
/-!
# One Open Store for Each Tenant

Stores of tenants that are in use, each opened when it is first asked for and
then shared. Only stores that exist are opened; none is ever made.

Stores are opened one at a time, whichever tenants they belong to. Who wants to
open one looks at the open stores, waits for its turn, and looks again, since
the one before may have opened the same store. Removing stores takes no turn:
they are forgotten first and closed afterwards.

Like operations on tenants, those on pools are sequences of steps with a stage
between any two of them, where others may come in and where an operation may be
dropped.

## Main definitions

* `Pools`: The open stores.
* `PoolCall`, `PoolReply`: The operations and their answers.
* `PoolStage`: How far an operation has come.
* `PoolStage.step`: The next step.
* `Pools.run`: An operation run alone.
-/

namespace Multitenancy

/-- The open stores of tenants. -/
structure Pools where
  /-- How stores are opened. -/
  settings : PoolSettings
  /-- The handle of each tenant's open store, by the tenant's id. -/
  handles : Assoc String Nat := []
  /-- The task whose turn it is to open a store. -/
  turn : Option Nat := none
  /-- How many stores were opened. -/
  opened : Nat := 0
  deriving DecidableEq, Repr

/-- An operation with its arguments. -/
inductive PoolCall where
  /-- The store of a tenant, opened if need be. -/
  | get (t : Tenant)
  | evict (id : String)
  | closeAll
  deriving DecidableEq, Repr

/-- The answer of an operation. -/
inductive PoolReply where
  /-- Of getting a store. -/
  | handle (r : Except Fault Nat)
  /-- Of removing: the stores that were forgotten and closed. -/
  | removed (handles : List Nat)

/-- How far an operation has come. -/
inductive PoolStage where
  | begun (c : PoolCall)
  /-- Getting: the store was not open; waits for its turn. -/
  | queued (t : Tenant)
  /-- Getting: has its turn, and the store is being opened. -/
  | opening (t : Tenant)
  /-- Removing: forgot stores, some of which are not yet closed. -/
  | closing (left forgotten : List Nat)
  | done (r : PoolReply)
  /-- Dropped before it was done. -/
  | dropped

namespace Pools

/-- How many stores are open. -/
def size (p : Pools) : Nat :=
  p.handles.length

/-- Whether no store is open. -/
def isEmpty (p : Pools) : Bool :=
  p.handles.isEmpty

/-- Whether a tenant's store is open. -/
def contains (p : Pools) (id : String) : Bool :=
  p.handles.contains id

/-- The first step of an operation. -/
def start (p : Pools) : PoolCall → Pools × PoolStage
  | .get t =>
    match p.handles.get? t.id with
    | some handle => (p, .done (.handle (.ok handle)))
    | none =>
      if t.storeLocator.isEmpty then (p, .done (.handle (.error (.noLocator t.id))))
      else (p, .queued t)
  | .evict id =>
    let handles := (p.handles.get? id).toList
    ({ p with handles := p.handles.erase id }, .closing handles handles)
  | .closeAll =>
    let handles := p.handles.map Prod.snd
    ({ p with handles := [] }, .closing handles handles)

/-- Take the turn if it is free. A store that was opened meanwhile is taken as
    it is. -/
def enter (p : Pools) (task : Nat) (t : Tenant) : Pools × PoolStage :=
  if p.turn.isSome then (p, .queued t)
  else match p.handles.get? t.id with
    | some handle => (p, .done (.handle (.ok handle)))
    | none => ({ p with turn := some task }, .opening t)

/-- Open the store and give up the turn. -/
def finish (s : Stores) (p : Pools) (t : Tenant) : Stores × Pools × PoolStage :=
  match s.openStore p.settings t.storeLocator false with
  | (.ok handle, s) =>
    (s, { p with turn := none, opened := p.opened + 1, handles := p.handles.insert t.id handle },
      .done (.handle (.ok handle)))
  | (.error f, s) => (s, { p with turn := none }, .done (.handle (.error f)))

end Pools

namespace PoolStage

/-- The next step of the operation of a task. One that waits for its turn while
    another has it stays where it is. -/
def step (s : Stores) (p : Pools) (task : Nat) : PoolStage → Stores × Pools × PoolStage
  | .begun c => (s, p.start c)
  | .queued t => (s, p.enter task t)
  | .opening t => p.finish s t
  | .closing (handle :: left) forgotten => (s.close handle, p, .closing left forgotten)
  | .closing [] forgotten => (s, p, .done (.removed forgotten))
  | .done r => (s, p, .done r)
  | .dropped => (s, p, .dropped)

/-- Drop an operation where it is. A turn that it has is given up. -/
def cancel (p : Pools) (task : Nat) : PoolStage → Pools × PoolStage
  | .done r => (p, .done r)
  | _ => (if p.turn = some task then { p with turn := none } else p, .dropped)

/-- The answer, once there is one. -/
def reply? : PoolStage → Option PoolReply
  | .done r => some r
  | _ => none

end PoolStage

namespace Pools

/-- A number of steps of one operation, with no other in between. -/
def runSteps (task : Nat) : Nat → Stores → Pools → PoolStage → Stores × Pools × PoolStage
  | 0, s, p, stage => (s, p, stage)
  | n + 1, s, p, stage =>
    let (s, p, stage) := stage.step s p task
    runSteps task n s p stage

/-- A task number that does not have the turn. -/
def freshTask (p : Pools) : Nat :=
  match p.turn with
  | some task => task + 1
  | none => 0

/-- Run an operation alone. There is no answer only if another has the turn for
    ever. -/
def run (s : Stores) (p : Pools) (c : PoolCall) : Stores × Pools × Option PoolReply :=
  let (s, p, stage) := runSteps p.freshTask (p.size + 3) s p (.begun c)
  (s, p, stage.reply?)

/-- The store of a tenant, opened if need be. -/
def get (s : Stores) (p : Pools) (t : Tenant) : Except Fault Nat × Stores × Pools :=
  match p.run s (.get t) with
  | (s, p, some (.handle r)) => (r, s, p)
  | (s, p, _) => (.error (.store .closed), s, p)

/-- Forget and close the store of a tenant, and say whether it was open. -/
def evict (s : Stores) (p : Pools) (id : String) : Bool × Stores × Pools :=
  let (s, q, _) := p.run s (.evict id)
  (p.contains id, s, q)

/-- Forget and close all stores. -/
def closeAll (s : Stores) (p : Pools) : Stores × Pools :=
  let (s, p, _) := p.run s .closeAll
  (s, p)

end Pools

/-- Stores, pools and the operations that were started, by their number. -/
structure PoolTraffic where
  stores : Stores
  pools : Pools
  stages : List PoolStage := []

/-- What may happen next. -/
inductive PoolEvent where
  | start (c : PoolCall)
  | step (task : Nat)
  | cancel (task : Nat)
  /-- Others change the files. -/
  | change (files : FileSystem)

namespace PoolTraffic

/-- The state after an event. -/
def next (w : PoolTraffic) : PoolEvent → PoolTraffic
  | .start c => { w with stages := w.stages ++ [.begun c] }
  | .step task =>
    match w.stages[task]? with
    | none => w
    | some stage =>
      let (stores, pools, stage) := stage.step w.stores w.pools task
      { stores, pools, stages := w.stages.set task stage }
  | .cancel task =>
    match w.stages[task]? with
    | none => w
    | some stage =>
      let (pools, stage) := stage.cancel w.pools task
      { w with pools, stages := w.stages.set task stage }
  | .change files => { w with stores := { w.stores with files } }

/-- The state after a history. -/
def run (w : PoolTraffic) (history : List PoolEvent) : PoolTraffic :=
  history.foldl next w

end PoolTraffic

end Multitenancy
