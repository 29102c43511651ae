/-!
# Request-Scoped State

State that middleware attaches to a request for those that come after it,
such as the tenant the request belongs to.

Values are filed by kind, and the kind fixes the type of the value, so a
reader needs no conversion that could fail. A kind holds one value at most.

## Main definitions

* `Extensions`: At most one value for each kind.
* `Extensions.get?`: The value of a kind.
* `Extensions.insert`: Attach a value in place of the kind's former one.
* `Extensions.erase`: Detach the kind's value.
-/

namespace Multitenancy

namespace Http

/-- Values filed by kind; `β k` is the type of the value of kind `k`. -/
structure Extensions {κ : Type} (β : κ → Type) where
  entries : List ((k : κ) × β k) := []

namespace Extensions

variable {κ : Type} [DecidableEq κ] {β : κ → Type}

/-- Nothing attached. -/
def empty : Extensions β := {}

/-- The value of a kind in a list of entries. -/
def find : List ((k : κ) × β k) → (key : κ) → Option (β key)
  | [], _ => none
  | ⟨k, v⟩ :: rest, key => if h : k = key then some (h ▸ v) else find rest key

/-- The value of a kind. -/
def get? (e : Extensions β) (key : κ) : Option (β key) :=
  find e.entries key

/-- Whether a kind has a value. -/
def contains (e : Extensions β) (key : κ) : Bool :=
  (e.get? key).isSome

/-- Detach the value of a kind. -/
def erase (e : Extensions β) (key : κ) : Extensions β :=
  { entries := e.entries.filter fun x => decide (x.1 ≠ key) }

/-- Attach a value; the kind's former value is dropped. -/
def insert (e : Extensions β) (key : κ) (value : β key) : Extensions β :=
  { entries := ⟨key, value⟩ :: (e.erase key).entries }

/-- How many kinds have a value. -/
def size (e : Extensions β) : Nat :=
  e.entries.length

/-- Whether nothing is attached. -/
def isEmpty (e : Extensions β) : Bool :=
  e.entries.isEmpty

/-- A short description for logs, which never shows the values. -/
def describe (e : Extensions β) : String :=
  "Extensions \x7b count: " ++ toString e.size ++ " \x7d"

end Extensions

end Http

end Multitenancy
