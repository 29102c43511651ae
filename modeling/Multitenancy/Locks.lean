import Multitenancy.Text.Assoc
/-!
# A Lock for Each Key

Locks that serialise work on one key without holding up other keys, and that
exist only while somebody holds or waits for them.

A task that wants a key takes up a claim. The first claim on a key brings the
key's mutex into being and enters it in the map; later ones find it there. A
claim holds on to the mutex twice: once as the claim itself, and once as its
place in the queue or its hold on the mutex. A claim that ends gives up its
place or hold first, and then takes the entry out of the map if the map and
the claim itself are the only ones left that hold on to the mutex.

Who is served next is not decided here: a key that nobody holds may be granted
to any of its claims.

## Main definitions

* `Claim`: A task that holds or waits for a key.
* `Locks`: The map and the claims.
* `Locks.request`, `Locks.grant?`, `Locks.drop`: The life of a claim.
* `Locks.handOver`: A held key passed on to another task.
-/

namespace Multitenancy

/-- A task that holds or waits for a key. -/
structure Claim (τ : Type) where
  task : τ
  key : String
  mutex : Nat
  held : Bool
  deriving DecidableEq, Repr

/-- The locks of all keys. -/
structure Locks (τ : Type) where
  /-- The mutex of each key that is entered. -/
  entries : Assoc String Nat := []
  /-- The claims in the order in which they were taken up. -/
  claims : List (Claim τ) := []
  /-- The number of the next mutex. -/
  next : Nat := 0
  deriving DecidableEq, Repr

namespace Locks

variable {τ : Type} [DecidableEq τ]

/-- Take up a claim on a key. -/
def request (l : Locks τ) (task : τ) (key : String) : Locks τ :=
  match l.entries.get? key with
  | some mutex =>
    { l with claims := l.claims ++ [{ task, key, mutex, held := false }] }
  | none =>
    { entries := l.entries.insert key l.next
      claims := l.claims ++ [{ task, key, mutex := l.next, held := false }]
      next := l.next + 1 }

/-- The claim of a task. -/
def claim? (l : Locks τ) (task : τ) : Option (Claim τ) :=
  l.claims.find? fun c => decide (c.task = task)

/-- Whether a mutex is held. -/
def isHeld (l : Locks τ) (mutex : Nat) : Bool :=
  l.claims.any fun c => c.mutex == mutex && c.held

/-- Whether a task holds its key. -/
def holds (l : Locks τ) (task : τ) : Bool :=
  match l.claim? task with
  | some c => c.held
  | none => false

/-- Grant a waiting task its key, if nobody holds it. -/
def grant? (l : Locks τ) (task : τ) : Option (Locks τ) :=
  match l.claim? task with
  | none => none
  | some c =>
    if c.held || l.isHeld c.mutex then none
    else some { l with
      claims := l.claims.map fun d => if d.task = task then { d with held := true } else d }

/-- How often a mutex is held on to: once by its entry, twice by each claim. -/
def owners (l : Locks τ) (mutex : Nat) : Nat :=
  (l.entries.filter fun e => e.2 == mutex).length +
    2 * (l.claims.filter fun c => c.mutex == mutex).length

/-- End the claim of a task, whether it holds its key or waits for it. The
    entry goes with the last claim. -/
def drop (l : Locks τ) (task : τ) : Locks τ :=
  match l.claim? task with
  | none => l
  | some c =>
    let left := { l with claims := l.claims.filter fun d => decide (d.task ≠ task) }
    if left.owners c.mutex + 1 == 2 && left.entries.get? c.key == some c.mutex then
      { left with entries := left.entries.erase c.key }
    else left

/-- Pass a claim on to another task. -/
def handOver (l : Locks τ) (giver taker : τ) : Locks τ :=
  { l with
    claims := l.claims.map fun c => if c.task = giver then { c with task := taker } else c }

/-- The first task that waits for a key that nobody holds. -/
def nextWaiting? (l : Locks τ) (key : String) : Option τ :=
  match l.claims.find? fun c => c.key == key && !c.held with
  | some c => if l.isHeld c.mutex then none else some c.task
  | none => none

end Locks

end Multitenancy
