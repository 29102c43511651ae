import Multitenancy.Settings.Config
/-!
# Settings From Variables

Settings given one by one under names, as the environment of a process gives
them.

A variable that is not set leaves its setting at the default. Texts are taken
as they are, numbers are trimmed first, and the order of strategies is a list
between commas whose empty items are passed over. The first variable whose
text does not fit, in the order in which they are looked up, is reported.

## Main definitions

* `unsigned?`: The number of a text, up to a number of bits.
* `Config.ofVariables`: The settings under a look-up.
-/

namespace Multitenancy

/-- A look-up of variables. -/
abbrev Variables := String → Option String

/-- The number of a row of decimal digits, which a plus sign may precede, if
    it is below two to the power `bits`. -/
def unsigned? (bits : Nat) (cs : List Char) : Option Nat :=
  let ds := match cs with
    | '+' :: rest => rest
    | _ => cs
  if ds.isEmpty || !ds.all Char.isDigit then none
  else
    let n := ds.foldl (fun n c => n * 10 + (c.toNat - '0'.toNat)) 0
    if n < Nat.pow 2 bits then some n else none

namespace Config

/-- Replace a setting by the text of a variable. -/
def textSetting (source : Variables) (name : String) (set : Config → String → Config)
    (c : Config) : Config :=
  match source name with
  | some text => set c text
  | none => c

/-- Replace a setting by the number of a variable. -/
def numberSetting (source : Variables) (name : String) (bits : Nat)
    (set : Config → Nat → Config) (c : Config) : Except Fault Config :=
  match source name with
  | none => .ok c
  | some text =>
    match unsigned? bits (Text.trim text.toList) with
    | some n => .ok (set c n)
    | none => .error (.invalidVariable name text)

/-- The strategies of a list between commas. -/
def parseOrder (text : String) : Except Fault (List StrategyKind) :=
  let words := ((Text.splitAll ',' text.toList).map Text.trim).filter fun w => !w.isEmpty
  words.mapM fun w => StrategyKind.parse (String.ofList w)

/-- Replace the order of strategies by that of a variable. -/
def orderSetting (source : Variables) (name : String) (c : Config) : Except Fault Config :=
  match source name with
  | none => .ok c
  | some text => do
    let order ← parseOrder text
    return { c with resolution := { c.resolution with order } }

/-- The settings that are texts. -/
def textSettings (v : Variables) (c : Config) : Config :=
  c |> textSetting v "TENEMENT_REGISTRY_URL" (fun c s => { c with registryUrl := s })
    |> textSetting v "TENEMENT_LOCATOR_TEMPLATE" (fun c s => { c with locatorTemplate := s })
    |> textSetting v "TENEMENT_SESSION_COOKIE" (fun c s => { c with sessionCookie := s })
    |> textSetting v "TENEMENT_BASE_DOMAIN"
        (fun c s => { c with resolution := { c.resolution with baseDomain := s } })
    |> textSetting v "TENEMENT_TENANT_HEADER"
        (fun c s => { c with resolution := { c.resolution with headerName := s } })
    |> textSetting v "TENEMENT_TENANT_QUERY"
        (fun c s => { c with resolution := { c.resolution with queryParam := s } })
    |> textSetting v "TENEMENT_TENANT_COOKIE"
        (fun c s => { c with resolution := { c.resolution with cookieName := s } })

/-- The settings that are numbers. Lifetimes are given in seconds. -/
def numberSettings (v : Variables) (c : Config) : Except Fault Config := do
  let c ← numberSetting v "TENEMENT_CACHE_CAPACITY" 64
    (fun c n => { c with cache := { c.cache with capacity := n } }) c
  let c ← numberSetting v "TENEMENT_CACHE_TTL_SECS" 64
    (fun c n => { c with cache := { c.cache with lifetime := .ofSeconds n } }) c
  let c ← numberSetting v "TENEMENT_HANDLER_CACHE_CAPACITY" 64
    (fun c n => { c with handlerCache := { c.handlerCache with capacity := n } }) c
  let c ← numberSetting v "TENEMENT_HANDLER_CACHE_TTL_SECS" 64
    (fun c n => { c with handlerCache := { c.handlerCache with lifetime := .ofSeconds n } }) c
  let c ← numberSetting v "TENEMENT_REGISTRY_MAX_CONNECTIONS" 32
    (fun c n => { c with registryPool := { c.registryPool with maxConnections := n } }) c
  numberSetting v "TENEMENT_TENANT_MAX_CONNECTIONS" 32
    (fun c n => { c with tenantPool := { c.tenantPool with maxConnections := n } }) c

/-- The settings under a look-up of variables, checked. -/
def ofVariables (v : Variables) : Except Fault Config := do
  let c ← orderSetting v "TENEMENT_RESOLUTION_ORDER" (textSettings v {})
  (← numberSettings v c).checked

end Config

end Multitenancy
