import Multitenancy.Http.Request
import Multitenancy.Pattern.Parser
import Multitenancy.Pattern.Matcher
import Multitenancy.Resolution.Host
import Multitenancy.Tenant.Fault
/-!
# Where a Request Names Its Tenant

A strategy looks for a routing key at one place of a request: a header, the
host, a query parameter, a cookie or the path. It never asks the registry, so
what it finds is a key that may or may not lead to a tenant.

A key found in a header, a query parameter, a cookie or the path is trimmed,
and a blank one counts as none.

## Main definitions

* `StrategyKind`: The kinds that settings can name.
* `Strategy`: A place to look.
* `Strategy.key?`: The key a strategy finds.
* `Strategy.ofPattern`: Look at a group of a path pattern.
-/

namespace Multitenancy

/-- The kinds of strategies that settings can name. -/
inductive StrategyKind where
  | header
  | domain
  | query
  | cookie
  | path
  deriving DecidableEq, Repr

namespace StrategyKind

/-- The written form. -/
def name : StrategyKind → String
  | .header => "header"
  | .domain => "domain"
  | .query => "query"
  | .cookie => "cookie"
  | .path => "path"

/-- The kind of exactly the written form. -/
def ofName? : String → Option StrategyKind
  | "header" => some .header
  | "domain" => some .domain
  | "query" => some .query
  | "cookie" => some .cookie
  | "path" => some .path
  | _ => none

/-- The kind of a word, whatever its case and the blanks around it. The domain
    strategy has two more names. -/
def parse (s : String) : Except Fault StrategyKind :=
  match foldWord s with
  | "subdomain" | "host" => .ok .domain
  | word => match ofName? word with
    | some kind => .ok kind
    | none => .error (.unknownStrategy word)
where
  /-- Trimmed and lowered. -/
  foldWord (s : String) : String := String.ofList (Text.lower (Text.trim s.toList))

end StrategyKind

/-- A place of a request where a routing key may stand. -/
inductive Strategy where
  | header (name : String)
  /-- The host, under a base domain in its compared form. -/
  | domain (base : List Char)
  | query (name : String)
  | cookie (name : String)
  /-- The first segment of the path. -/
  | path
  /-- A group of a pattern matched against the path. -/
  | pattern (compiled : Pattern.Compiled) (group : Nat)

namespace Strategy

/-- Look at the host under a base domain. -/
def ofBase (base : String) : Strategy :=
  .domain (Host.normalBase base.toList)

/-- Look at a group of a path pattern, which must have that group. -/
def ofPattern (source : String) (group : Nat) : Except Fault Strategy :=
  match Pattern.Expr.parse? source with
  | none => .error .invalidPattern
  | some expr =>
    let compiled := expr.compile
    if group < compiled.groupCount then .ok (.pattern compiled group)
    else .error (.missingGroup source group)

/-- The name shown in logs. -/
def name : Strategy → String
  | .header _ => "header"
  | .domain _ => "domain"
  | .query _ => "query"
  | .cookie _ => "cookie"
  | .path | .pattern _ _ => "path"

/-- A found text as a key: trimmed, and none when blank. -/
def clean (text : List Char) : Option String :=
  (Host.nonBlank? text).map String.ofList

/-- The key that stands at the place. -/
def key? {κ : Type} {β : κ → Type} (s : Strategy) (r : Http.Request β) : Option String :=
  match s with
  | .header name => do clean (← r.header? name).toList
  | .domain base => do (Host.key? base (← r.host?).toList).map String.ofList
  | .query name => do clean (← r.query? name).toList
  | .cookie name => do clean (← r.cookie? name).toList
  | .path => do
    let segment ← (Text.splitAll '/' r.path.toList).find? fun s => !s.isEmpty
    clean segment
  | .pattern compiled group => do
    clean (← compiled.capture? group r.path.toList)

end Strategy

end Multitenancy
