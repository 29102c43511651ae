import Multitenancy.Deployment.Factory
import Multitenancy.Router.Dispatch
/-!
# The Frontend

The router at work: which dispatch or build goes on when.

The switchboard says what may happen; here one of the possible orders is
chosen. Whoever can go on waits in a queue and goes on until it has to wait for
somebody else. A build that is started queues behind all others. When the
queue is empty, the clock jumps to the next time that a build or the caller
waits for.

The caller comes before the queue. It may wait for one dispatch, which then is
not queued at all, for a number of dispatches, or for a time. Time that is up
counts before anything that happens at that time, so a dispatch with a
deadline fails if its handler is ready no earlier than that.

## Main definitions

* `Frontend`: The switchboard, the queue and the timers.
* `Frontend.tryDispatch`, `Frontend.dispatch`: One request.
* `Frontend.dispatchWithin`: One request with a deadline.
* `Frontend.dispatchAll`: Requests side by side.
* `Frontend.sleep`, `Frontend.advance`: Time passes.
-/

namespace Multitenancy

/-- When a build goes on. -/
structure Timer where
  deadline : Nat
  build : Nat
  deriving DecidableEq, Repr

/-- The switchboard, the queue and the timers. -/
structure Frontend where
  board : Switchboard App
  factory : Option Factory := none
  /-- Who can go on, the first one first. -/
  ready : List Party := []
  /-- What builds wait for, in the order in which they began to. -/
  timers : List Timer := []
  /-- The attempt of each build that the factory has begun with. -/
  attempts : Assoc Nat Nat := []

namespace Frontend

/-- How many attempts the factory has begun. -/
def attemptCount (f : Frontend) : Nat :=
  f.attempts.length

/-! ### Going on -/

/-- Let something happen on the switchboard. -/
def act (b : Backend) (f : Frontend) (e : RouterEvent App) : Backend × Frontend :=
  let (env, board) := f.board.next b.office.env e
  (b.withEnv env, { f with board })

/-- The most steps that a dispatch takes. -/
def maxSteps (f : Frontend) : Nat :=
  f.board.router.hooks.length + 6

/-- Let a dispatch go on until it has to wait or is done. -/
def goOn (n : Nat) : Nat → Backend → Frontend → Backend × Frontend
  | 0, b, f => (b, f)
  | k + 1, b, f =>
    if f.board.isStuck n then (b, f)
    else
      let (b, f) := f.act b (.step n)
      goOn n k b f

/-- End a build with what the factory makes. -/
def endBuild (b : Backend) (f : Frontend) (build attempt : Nat) : Backend × Frontend :=
  match f.factory, f.board.builds[build]? with
  | some factory, some { tenant := t, .. } =>
    let (outcome, b) := factory.make b attempt t
    f.act b (.finish build outcome)
  | _, _ => (b, f)

/-- Let a build go on. It begins an attempt and waits as long as the factory
    takes, and then ends. -/
def goOnBuilding (b : Backend) (f : Frontend) (build : Nat) : Backend × Frontend :=
  match f.factory, f.attempts.get? build with
  | none, _ => (b, f)
  | some _, some attempt => f.endBuild b build attempt
  | some factory, none =>
    let attempt := f.attemptCount + 1
    let f := { f with attempts := f.attempts.insert build attempt }
    if factory.delay == 0 then f.endBuild b build attempt
    else (b, { f with timers := f.timers ++ [{ deadline := b.clock + factory.delay, build }] })

/-! ### The queue -/

/-- Whether a dispatch waits for the lock of its tenant. -/
def awaitsLock (board : Switchboard App) (n : Nat) : Bool :=
  match board.dispatches[n]? with
  | some (.waiting _ _) => true
  | _ => false

/-- The dispatches that can go on, those that were given a lock before those
    whose build has ended. -/
def free (board : Switchboard App) : List Nat :=
  let free := (List.range board.dispatches.length).filter fun n => !board.isStuck n
  free.filter (awaitsLock board) ++ free.filter fun n => !awaitsLock board n

/-- The builds that were started and the dispatches that were set free between
    two states of the switchboard. -/
def woken (before after : Switchboard App) : List Party :=
  let started := (List.range after.builds.length).drop before.builds.length
  let known := free before
  started.map .build ++ ((free after).filter fun n => !known.contains n).map .dispatch

/-- Queue those that are not queued yet. -/
def enqueue (f : Frontend) (parties : List Party) : Frontend :=
  { f with ready := f.ready ++ parties.filter fun p => !f.ready.contains p }

/-- Do something, and queue whom it wakes except for the caller's dispatch. -/
def waking (caller : Option Nat) (b : Backend) (f : Frontend)
    (work : Backend → Frontend → Backend × Frontend) : Backend × Frontend :=
  let (b, g) := work b f
  (b, g.enqueue ((woken f.board g.board).filter fun p => some p != caller.map Party.dispatch))

/-- Let a dispatch or a build go on. -/
def poll (caller : Option Nat) (b : Backend) (f : Frontend) : Party → Backend × Frontend
  | .dispatch n => f.waking caller b fun b f => goOn n f.maxSteps b f
  | .build k => f.waking caller b fun b f => f.goOnBuilding b k

/-- Let those in the queue go on, at most a number of times. -/
def drainFor (caller : Option Nat) : Nat → Backend → Frontend → Backend × Frontend
  | 0, b, f => (b, f)
  | k + 1, b, f =>
    match f.ready with
    | [] => (b, f)
    | p :: rest =>
      let (b, f) := { f with ready := rest }.poll caller b p
      drainFor caller k b f

/-- How often those under way can go on, at most: a dispatch when it arrives,
    when it is given a lock and when its build has ended, and a build of its own
    before and after the attempt. -/
def maxPolls (f : Frontend) : Nat :=
  6 * (f.board.dispatches.length + f.board.builds.length + 1)

/-- Let those in the queue go on until nobody can. -/
def drain (caller : Option Nat) (b : Backend) (f : Frontend) : Backend × Frontend :=
  drainFor caller f.maxPolls b f

/-! ### Time -/

/-- The next time that a build waits for. -/
def nextTimer? (f : Frontend) : Option Nat :=
  (f.timers.map Timer.deadline).min?

/-- Queue the builds whose time has come, the earliest first. -/
def fire (b : Backend) (f : Frontend) : Frontend :=
  let (due, left) := f.timers.partition fun t => t.deadline ≤ b.clock
  let due := due.mergeSort fun a b => a.deadline ≤ b.deadline
  { f with timers := left }.enqueue (due.map fun (t : Timer) => .build t.build)

/-- Let the clock go on to a time, and queue the builds that waited for it. -/
def passUntil (b : Backend) (f : Frontend) (time : Nat) : Backend × Frontend :=
  let b := b.passUntil time
  (b, f.fire b)

/-- How often the clock can jump while a caller waits, at most. -/
def maxJumps (f : Frontend) : Nat :=
  f.maxPolls + f.timers.length + 4

/-- The clock goes forward at once. Those in the queue go on, and those whose
    time has come queue up. -/
def advance (b : Backend) (f : Frontend) (elapsed : Duration) : Backend × Frontend :=
  let (b, f) := f.drain none (b.passUntil (b.clock + elapsed))
  (b, f.fire b)

/-- Everybody goes on until a time. -/
def sleepUntil (time : Nat) : Nat → Backend → Frontend → Backend × Frontend
  | 0, b, f => f.passUntil b time
  | k + 1, b, f =>
    let (b, f) := f.drain none b
    match f.nextTimer? with
    | some deadline =>
      if deadline < time then
        let (b, f) := f.passUntil b deadline
        sleepUntil time k b f
      else f.passUntil b time
    | none => f.passUntil b time

/-- Everybody goes on for a while. -/
def sleep (b : Backend) (f : Frontend) (elapsed : Duration) : Backend × Frontend :=
  if elapsed == 0 then (b, f) else sleepUntil (b.clock + elapsed) f.maxJumps b f

/-! ### Requests -/

/-- Let a request arrive. The answer is the number of its dispatch. -/
def arrive (b : Backend) (f : Frontend) (request : AppRequest) : Nat × Backend × Frontend :=
  let (b, g) := f.act b (.arrive request)
  (f.board.dispatches.length, b, g)

/-- The earlier of two times, either of which may be missing. -/
def earlier : Option Nat → Option Nat → Option Nat
  | some a, some b => some (min a b)
  | a, none => a
  | none, b => b

/-- Wait for a dispatch, up to a deadline. -/
def await (n : Nat) (deadline : Option Nat) :
    Nat → Backend → Frontend → Option Outcome × Backend × Frontend
  | 0, b, f => (none, b, f)
  | k + 1, b, f =>
    let (b, f) := f.poll (some n) b (.dispatch n)
    match f.board.answer? n with
    | some outcome => (some outcome, b, f)
    | none =>
      if deadline.any (· ≤ b.clock) then
        let (b, f) := f.waking none b fun b f => f.act b (.cancel n)
        (none, b, f)
      else
        let (b, f) := f.drain (some n) b
        if !f.board.isStuck n then await n deadline k b f
        else match earlier f.nextTimer? deadline with
          | none => (none, b, f)
          | some time =>
            let (b, f) := f.passUntil b time
            await n deadline k b f

/-- The outcome of a request, or `none` if the deadline passes before there is
    one. -/
def outcomeWithin (b : Backend) (f : Frontend) (deadline : Option Nat) (request : AppRequest) :
    Option Outcome × Backend × Frontend :=
  let (n, b, f) := f.arrive b request
  await n deadline f.maxJumps b f

/-- The outcome of a request. It is missing only if nothing can happen any
    more. -/
def tryDispatch (b : Backend) (f : Frontend) (request : AppRequest) :
    Option Outcome × Backend × Frontend :=
  f.outcomeWithin b none request

/-- The response to the outcome of a request. -/
def respond : Outcome → Http.Response
  | .ok response => response
  | .error e => .ofError e

/-- The response to a request. -/
def dispatch (b : Backend) (f : Frontend) (request : AppRequest) :
    Option Http.Response × Backend × Frontend :=
  let (outcome, b, f) := f.tryDispatch b request
  (outcome.map respond, b, f)

/-- The response to a request, or `none` if there is none in time. -/
def dispatchWithin (b : Backend) (f : Frontend) (limit : Duration) (request : AppRequest) :
    Option Http.Response × Backend × Frontend :=
  let (outcome, b, f) := f.outcomeWithin b (some (b.clock + limit)) request
  (outcome.map respond, b, f)

/-- Wait for dispatches. -/
def awaitAll (ns : List Nat) : Nat → Backend → Frontend → Backend × Frontend
  | 0, b, f => (b, f)
  | k + 1, b, f =>
    let (b, f) := f.drain none b
    if ns.all fun n => (f.board.answer? n).isSome then (b, f)
    else match f.nextTimer? with
      | none => (b, f)
      | some time =>
        let (b, f) := f.passUntil b time
        awaitAll ns k b f

/-- Let requests arrive and queue them. -/
def arriveAll : List AppRequest → Backend → Frontend → List Nat × Backend × Frontend
  | [], b, f => ([], b, f)
  | request :: rest, b, f =>
    let (n, b, f) := f.arrive b request
    let (ns, b, f) := arriveAll rest b (f.enqueue [.dispatch n])
    (n :: ns, b, f)

/-- The responses to requests that arrive together. -/
def dispatchAll (b : Backend) (f : Frontend) (requests : List AppRequest) :
    List (Option Http.Response) × Backend × Frontend :=
  let (ns, b, f) := arriveAll requests b f
  let (b, f) := awaitAll ns f.maxJumps b f
  (ns.map fun n => (f.board.answer? n).map respond, b, f)

end Frontend

end Multitenancy
