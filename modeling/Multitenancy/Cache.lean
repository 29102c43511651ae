import Multitenancy.Time.Duration
/-!
# A Bounded Cache Whose Entries Expire

The cache behind resolved tenants and behind handlers that a factory built.

Entries are kept with the most recently used first. A new key that finds the
cache full displaces the last entry. An entry is live while it is younger than
the lifetime; a stale one is dropped by the read that finds it, or by a sweep.
With a lifetime of zero nothing is ever kept.

Time comes in as a number of nanoseconds on a clock of the caller, so the
cache is a value and an operation is a function.

## Main definitions

* `Cache`: Entries, bounds and counters.
* `Cache.get`: A read, which marks the entry as used.
* `Cache.contains`: A look that changes nothing.
* `Cache.set`: A write, which may displace an entry.
* `Cache.delete`, `Cache.deleteMatching`, `Cache.clear`: Removal.
* `Cache.purge`: Removal of all stale entries.
-/

namespace Multitenancy

/-- A value with the time at which it was stored. -/
structure CacheEntry (α : Type) where
  key : String
  value : α
  stored : Nat
  deriving Repr

/-- What has happened to a cache. -/
structure CacheStats where
  hits : Nat := 0
  misses : Nat := 0
  /-- Entries displaced by new keys. -/
  evictions : Nat := 0
  /-- Entries dropped because they were stale. -/
  expirations : Nat := 0
  deriving DecidableEq, Repr

/-- A cache. The most recently used entry comes first. -/
structure Cache (α : Type) where
  /-- How many entries are kept; at least one. -/
  capacity : Nat
  /-- How long an entry lives. -/
  lifetime : Duration
  entries : List (CacheEntry α) := []
  stats : CacheStats := {}
  capacity_pos : 0 < capacity

namespace Cache

variable {α : Type}

/-- An empty cache. A capacity of zero counts as one. -/
def empty (capacity : Nat) (lifetime : Duration) : Cache α :=
  { capacity := max 1 capacity, lifetime, capacity_pos := by omega }

/-- Whether the cache keeps anything. -/
def isEnabled (c : Cache α) : Bool :=
  c.lifetime != 0

/-- Whether an entry is too old at `now`. -/
def isStale (c : Cache α) (now : Nat) (e : CacheEntry α) : Bool :=
  c.lifetime ≤ now - e.stored

/-- The entry of a key, live or stale. -/
def find? (c : Cache α) (key : String) : Option (CacheEntry α) :=
  c.entries.find? fun e => e.key == key

/-- The entries of other keys. -/
def without (c : Cache α) (key : String) : List (CacheEntry α) :=
  c.entries.filter fun e => !(e.key == key)

/-- The value of a live entry, which becomes the most recently used one. A
    stale entry is dropped. -/
def get (c : Cache α) (now : Nat) (key : String) : Option α × Cache α :=
  match c.find? key with
  | none => (none, { c with stats := { c.stats with misses := c.stats.misses + 1 } })
  | some e =>
    if c.isStale now e then
      (none, { c with
        entries := c.without key
        stats := { c.stats with
          misses := c.stats.misses + 1
          expirations := c.stats.expirations + 1 } })
    else
      (some e.value, { c with
        entries := e :: c.without key
        stats := { c.stats with hits := c.stats.hits + 1 } })

/-- Whether a live entry is there. -/
def contains (c : Cache α) (now : Nat) (key : String) : Bool :=
  match c.find? key with
  | none => false
  | some e => !c.isStale now e

/-- Store a value as the most recently used entry. A new key that finds the
    cache full displaces the least recently used entry. -/
def set (c : Cache α) (now : Nat) (key : String) (value : α) : Cache α :=
  if c.isEnabled then
    let entry : CacheEntry α := { key, value, stored := now }
    if (c.find? key).isSome then { c with entries := entry :: c.without key }
    else if c.entries.length < c.capacity then { c with entries := entry :: c.entries }
    else { c with
      entries := entry :: c.entries.dropLast
      stats := { c.stats with evictions := c.stats.evictions + 1 } }
  else c

/-- Remove a key, and say whether it was there. -/
def delete (c : Cache α) (key : String) : Bool × Cache α :=
  ((c.find? key).isSome, { c with entries := c.without key })

/-- Remove every key that passes a test, and say how many there were. -/
def deleteMatching (c : Cache α) (doomed : String → Bool) : Nat × Cache α :=
  let kept := c.entries.filter fun e => !doomed e.key
  (c.entries.length - kept.length, { c with entries := kept })

/-- Remove everything. -/
def clear (c : Cache α) : Cache α :=
  { c with entries := [] }

/-- Remove every stale entry, and say how many there were. -/
def purge (c : Cache α) (now : Nat) : Nat × Cache α :=
  let kept := c.entries.filter fun e => !c.isStale now e
  let dropped := c.entries.length - kept.length
  (dropped, { c with
    entries := kept
    stats := { c.stats with expirations := c.stats.expirations + dropped } })

/-- How many entries are stored, stale ones included. -/
def size (c : Cache α) : Nat :=
  c.entries.length

/-- Whether nothing is stored. -/
def isEmpty (c : Cache α) : Bool :=
  c.entries.isEmpty

/-- A short description for logs. -/
def describe (c : Cache α) : String :=
  "ExpiringCache \x7b len: " ++ toString c.size ++ ", capacity: " ++ toString c.capacity ++
    ", ttl: " ++ c.lifetime.brief ++ " \x7d"

end Cache

end Multitenancy
