import Multitenancy.Resolution.Strategy
import Multitenancy.Text.Quoted
/-!
# Strategies in Order

A request may name a tenant at several places. The order of the chain says
which place counts: the first strategy that finds a key wins, and those after
it are not asked.

## Main definitions

* `Chain`: Strategies in order of precedence.
* `Chain.key?`: The winning strategy's name and its key.
-/

namespace Multitenancy

/-- Strategies in order of precedence. -/
abbrev Chain := List Strategy

namespace Chain

/-- The name of the first strategy that finds a key, and the key. -/
def key? {κ : Type} {β : κ → Type} (chain : Chain) (r : Http.Request β) :
    Option (String × String) :=
  chain.findSome? fun s => (s.key? r).map (s.name, ·)

/-- The names of the strategies. -/
def names (chain : Chain) : List String :=
  chain.map Strategy.name

/-- The names as a quoted list, for logs. -/
def describe (chain : Chain) : String :=
  "[" ++ ", ".intercalate (names chain |>.map Text.quoted) ++ "]"

end Chain

end Multitenancy
