import Mathlib.Data.List.Basic
import Multitenancy.Proofs.Settings.Document
import Multitenancy.Settings.Variables
/-!
# Settings Over Defaults

What a source of settings leaves of the default configuration.

Variables are taken up one after the other, and each of them sets one field. So
the configuration that they lead to is written down at once, with one assigned
value for every variable, and laid over the default configuration. A document
is laid over its ground, which is not the default configuration if the document
has a table for the registry's connections.

## Main definitions

* `Setting.variable?`, `Setting.readText?`: The variable of a setting, and the
  value of its text.
* `Variables.setting?`: What variables give for a setting.
* `Config.Adds`: A step that assigns one field.
* `Config.taken`: A configuration with all that variables give.

## Theorems

* `Config.textSetting_eq`, `Config.adds_numberSetting`,
  `Config.adds_orderSetting`: What each variable does.
* `Config.textSettings_default`, `Config.numberSettings_eq_ok_iff`,
  `Config.taken_eq_ok_iff`: All variables together.
* `Config.ofVariables_eq_ok_iff`: The configuration of variables.
* `Config.sources_overlay`: Both sources over their grounds.
* `Config.table_forgets_default`: A document that is not laid over the default
  configuration.
-/

namespace Multitenancy

/-- The variable of a setting, if it has one. -/
def Setting.variable? : Setting → Option String
  | .registryUrl => some "TENEMENT_REGISTRY_URL"
  | .locatorTemplate => some "TENEMENT_LOCATOR_TEMPLATE"
  | .sessionCookie => some "TENEMENT_SESSION_COOKIE"
  | .cache .capacity => some "TENEMENT_CACHE_CAPACITY"
  | .cache .lifetime => some "TENEMENT_CACHE_TTL_SECS"
  | .handlerCache .capacity => some "TENEMENT_HANDLER_CACHE_CAPACITY"
  | .handlerCache .lifetime => some "TENEMENT_HANDLER_CACHE_TTL_SECS"
  | .registryPool .maxConnections => some "TENEMENT_REGISTRY_MAX_CONNECTIONS"
  | .tenantPool .maxConnections => some "TENEMENT_TENANT_MAX_CONNECTIONS"
  | .registryPool _ | .tenantPool _ => none
  | .resolution .baseDomain => some "TENEMENT_BASE_DOMAIN"
  | .resolution .headerName => some "TENEMENT_TENANT_HEADER"
  | .resolution .queryParam => some "TENEMENT_TENANT_QUERY"
  | .resolution .cookieName => some "TENEMENT_TENANT_COOKIE"
  | .resolution .order => some "TENEMENT_RESOLUTION_ORDER"

/-- What variables give for a setting. -/
def Variables.setting? (v : Variables) (s : Setting) : Option String :=
  s.variable?.bind v

/-- The number that a text stands for, up to a number of bits. -/
def numberOf? (bits : Nat) (text : String) : Option Nat :=
  unsigned? bits (Text.trim text.toList)

/-- The value of the text of a variable. -/
def Setting.readText? : Setting → String → Option SettingValue
  | .registryUrl, t | .locatorTemplate, t | .sessionCookie, t => some (.text t)
  | .cache .capacity, t | .handlerCache .capacity, t => (numberOf? 64 t).map .number
  | .cache .lifetime, t | .handlerCache .lifetime, t =>
    ((numberOf? 64 t).map .ofSeconds).map .duration
  | .registryPool .maxConnections, t | .tenantPool .maxConnections, t =>
    (numberOf? 32 t).map .number
  | .registryPool _, _ | .tenantPool _, _ => none
  | .resolution .order, t => (Config.parseOrder t).toOption.map .order
  | .resolution _, t => some (.text t)

namespace Config

open SettingValue

/-! ### One variable -/

/-- A step that assigns one field, where `get` reads the field and `put` writes
    it. -/
def Adds {β : Type} (get : Config → β) (put : Config → β → Config) (read : String → Option β)
    (given : Option String) (c : Config) (after : Except Fault Config) : Prop :=
  ∀ d, after = .ok d ↔ ∃ b, Assigned read (get c) given b ∧ put c b = d

variable {β : Type}

/-- A field that is written back is left as it is. -/
def Restores (get : Config → β) (put : Config → β → Config) : Prop :=
  ∀ c, put c (get c) = c

/-- A text is taken as it is, so there is always a configuration after it. -/
theorem textSetting_eq {get : Config → String} {put : Config → String → Config}
    (hput : Restores get put) (v : Variables) (name : String) (c : Config) :
    textSetting v name put c = put c ((v name).getD (get c)) := by
  rw [textSetting]
  cases v name with
  | none => exact (hput c).symm
  | some text => rfl

/-- A number may be kept in another form than it is written. -/
theorem adds_numberSetting (get : Config → β) (put : Config → β → Config)
    (hput : Restores get put) (keep : Nat → β) (v : Variables) (name : String) (bits : Nat)
    (c : Config) :
    Adds get put (fun t => (numberOf? bits t).map keep) (v name) c
      (numberSetting v name bits (fun c n => put c (keep n)) c) := by
  intro d
  rw [numberSetting]
  -- A variable that is set is read as a number first and kept in its other form then.
  cases v name with
  | none => simp only [Assigned.none_iff, exists_eq_left, hput c, Except.ok.injEq]
  | some text =>
      simp only [Assigned.some_iff, numberOf?]
      cases unsigned? bits (Text.trim text.toList) with
      | none => simp only [Option.map_none, reduceCtorEq, false_and, exists_false]
      | some n => simp only [Option.map_some, Option.some.injEq, Except.ok.injEq, exists_eq_left']

theorem adds_orderSetting (v : Variables) (name : String) (c : Config) :
    Adds (fun c => c.resolution.order)
      (fun c order => { c with resolution := { c.resolution with order } })
      (fun t => (parseOrder t).toOption) (v name) c (orderSetting v name c) := by
  intro d
  rw [orderSetting]
  cases v name with
  | none => simp only [Assigned.none_iff, exists_eq_left, Except.ok.injEq]
  | some text =>
      simp only [Assigned.some_iff, bind_eq_ok_iff]
      cases parseOrder text with
      | error f => simp only [Except.toOption, reduceCtorEq, false_and, exists_false]
      | ok order =>
          simp only [Except.toOption, Option.some.injEq, Except.ok.injEq, exists_eq_left', pure,
            Except.pure]

/-! ### All variables -/

/-- The texts that variables give, over the defaults. -/
theorem textSettings_default (v : Variables) : textSettings v {} =
    { registryUrl := (v "TENEMENT_REGISTRY_URL").getD ({} : Config).registryUrl
      locatorTemplate := (v "TENEMENT_LOCATOR_TEMPLATE").getD ({} : Config).locatorTemplate
      sessionCookie := (v "TENEMENT_SESSION_COOKIE").getD ({} : Config).sessionCookie
      resolution :=
        { baseDomain := (v "TENEMENT_BASE_DOMAIN").getD ({} : ResolutionSettings).baseDomain
          headerName := (v "TENEMENT_TENANT_HEADER").getD ({} : ResolutionSettings).headerName
          queryParam := (v "TENEMENT_TENANT_QUERY").getD ({} : ResolutionSettings).queryParam
          cookieName :=
            (v "TENEMENT_TENANT_COOKIE").getD ({} : ResolutionSettings).cookieName } } := by
  -- No two of these variables set the same field.
  rw [textSettings,
    textSetting_eq (fun _ => rfl : Restores registryUrl _) v "TENEMENT_REGISTRY_URL",
    textSetting_eq (fun _ => rfl : Restores locatorTemplate _) v "TENEMENT_LOCATOR_TEMPLATE",
    textSetting_eq (fun _ => rfl : Restores sessionCookie _) v "TENEMENT_SESSION_COOKIE",
    textSetting_eq (fun _ => rfl : Restores (fun c => c.resolution.baseDomain) _) v
      "TENEMENT_BASE_DOMAIN",
    textSetting_eq (fun _ => rfl : Restores (fun c => c.resolution.headerName) _) v
      "TENEMENT_TENANT_HEADER",
    textSetting_eq (fun _ => rfl : Restores (fun c => c.resolution.queryParam) _) v
      "TENEMENT_TENANT_QUERY",
    textSetting_eq (fun _ => rfl : Restores (fun c => c.resolution.cookieName) _) v
      "TENEMENT_TENANT_COOKIE"]

/-- The numbers that variables give, over a configuration. -/
theorem numberSettings_eq_ok_iff {v : Variables} {c d : Config} : numberSettings v c = .ok d ↔
    ∃ capacity lifetime handlers handlersLifetime registry tenants,
      Assigned (numberOf? 64) c.cache.capacity (v "TENEMENT_CACHE_CAPACITY") capacity ∧
      Assigned (fun t => (numberOf? 64 t).map .ofSeconds) c.cache.lifetime
        (v "TENEMENT_CACHE_TTL_SECS") lifetime ∧
      Assigned (numberOf? 64) c.handlerCache.capacity (v "TENEMENT_HANDLER_CACHE_CAPACITY")
        handlers ∧
      Assigned (fun t => (numberOf? 64 t).map .ofSeconds) c.handlerCache.lifetime
        (v "TENEMENT_HANDLER_CACHE_TTL_SECS") handlersLifetime ∧
      Assigned (numberOf? 32) c.registryPool.maxConnections
        (v "TENEMENT_REGISTRY_MAX_CONNECTIONS") registry ∧
      Assigned (numberOf? 32) c.tenantPool.maxConnections
        (v "TENEMENT_TENANT_MAX_CONNECTIONS") tenants ∧
      { c with
        cache := { capacity, lifetime }
        handlerCache := { capacity := handlers, lifetime := handlersLifetime }
        registryPool := { c.registryPool with maxConnections := registry }
        tenantPool := { c.tenantPool with maxConnections := tenants } } = d := by
  have hkeep (bits : Nat) : (fun t => (numberOf? bits t).map id) = numberOf? bits :=
    funext fun t => congrFun Option.map_id_fun _
  have hcapacity := adds_numberSetting (fun c => c.cache.capacity)
    (fun c n => { c with cache := { c.cache with capacity := n } }) (fun _ => rfl) id v
    "TENEMENT_CACHE_CAPACITY" 64
  have hlifetime := adds_numberSetting (fun c => c.cache.lifetime)
    (fun c d => { c with cache := { c.cache with lifetime := d } }) (fun _ => rfl) .ofSeconds v
    "TENEMENT_CACHE_TTL_SECS" 64
  have hhandlers := adds_numberSetting (fun c => c.handlerCache.capacity)
    (fun c n => { c with handlerCache := { c.handlerCache with capacity := n } }) (fun _ => rfl) id
    v "TENEMENT_HANDLER_CACHE_CAPACITY" 64
  have hhandlersLifetime := adds_numberSetting (fun c => c.handlerCache.lifetime)
    (fun c d => { c with handlerCache := { c.handlerCache with lifetime := d } }) (fun _ => rfl)
    .ofSeconds v "TENEMENT_HANDLER_CACHE_TTL_SECS" 64
  have hregistry := adds_numberSetting (fun c => c.registryPool.maxConnections)
    (fun c n => { c with registryPool := { c.registryPool with maxConnections := n } })
    (fun _ => rfl) id v "TENEMENT_REGISTRY_MAX_CONNECTIONS" 32
  have htenants := adds_numberSetting (fun c => c.tenantPool.maxConnections)
    (fun c n => { c with tenantPool := { c.tenantPool with maxConnections := n } })
    (fun _ => rfl) id v "TENEMENT_TENANT_MAX_CONNECTIONS" 32
  simp only [Adds, hkeep] at hcapacity hlifetime hhandlers hhandlersLifetime hregistry htenants
  -- Each number is set in what the one before it has left, and no two are one field.
  simp only [numberSettings, bind_eq_ok_iff]
  constructor
  · rintro ⟨_, h₁, _, h₂, _, h₃, _, h₄, _, h₅, h₆⟩
    rcases (hcapacity _ _).mp h₁ with ⟨capacity, hcapacity, rfl⟩
    rcases (hlifetime _ _).mp h₂ with ⟨lifetime, hlifetime, rfl⟩
    rcases (hhandlers _ _).mp h₃ with ⟨handlers, hhandlers, rfl⟩
    rcases (hhandlersLifetime _ _).mp h₄ with ⟨handlersLifetime, hhandlersLifetime, rfl⟩
    rcases (hregistry _ _).mp h₅ with ⟨registry, hregistry, rfl⟩
    rcases (htenants _ _).mp h₆ with ⟨tenants, htenants, rfl⟩
    exact ⟨capacity, lifetime, handlers, handlersLifetime, registry, tenants, hcapacity, hlifetime,
      hhandlers, hhandlersLifetime, hregistry, htenants, rfl⟩
  · rintro ⟨capacity, lifetime, handlers, handlersLifetime, registry, tenants, h₁, h₂, h₃, h₄, h₅,
      h₆, rfl⟩
    exact ⟨_, (hcapacity _ _).mpr ⟨_, h₁, rfl⟩, _, (hlifetime _ _).mpr ⟨_, h₂, rfl⟩,
      _, (hhandlers _ _).mpr ⟨_, h₃, rfl⟩, _, (hhandlersLifetime _ _).mpr ⟨_, h₄, rfl⟩,
      _, (hregistry _ _).mpr ⟨_, h₅, rfl⟩, (htenants _ _).mpr ⟨_, h₆, rfl⟩⟩

/-- A configuration with all that variables give. -/
def taken (v : Variables) : Except Fault Config :=
  orderSetting v "TENEMENT_RESOLUTION_ORDER" (textSettings v {}) >>= numberSettings v

/-- It is laid over the defaults. -/
theorem overlays_of_taken {v : Variables} {c : Config} (h : taken v = .ok c) :
    c.Overlays {} v.setting? Setting.readText? := by
  -- The texts are taken first, the order next and the numbers last.
  rw [taken, textSettings_default, bind_eq_ok_iff] at h
  rcases h with ⟨_, horder, hnumbers⟩
  rcases (adds_orderSetting v _ _ _).mp horder with ⟨order, hkinds, rfl⟩
  rcases numberSettings_eq_ok_iff.mp hnumbers with ⟨capacity, lifetime, handlers,
    handlersLifetime, registry, tenants, hcapacity, hlifetime, hhandlers, hhandlersLifetime,
    hregistry, htenants, rfl⟩
  -- A setting without a variable has its default.
  intro s
  cases s with
  | registryUrl | locatorTemplate | sessionCookie => exact .getD text _ _
  | cache i =>
      cases i with
      | capacity => exact (assigned_map_iff number_injective).mpr hcapacity
      | lifetime => exact (assigned_map_iff duration_injective).mpr hlifetime
  | handlerCache i =>
      cases i with
      | capacity => exact (assigned_map_iff number_injective).mpr hhandlers
      | lifetime => exact (assigned_map_iff duration_injective).mpr hhandlersLifetime
  | registryPool i =>
      cases i with
      | maxConnections => exact (assigned_map_iff number_injective).mpr hregistry
      | _ => exact .default
  | tenantPool i =>
      cases i with
      | maxConnections => exact (assigned_map_iff number_injective).mpr htenants
      | _ => exact .default
  | resolution i =>
      cases i with
      | order => exact (assigned_map_iff order_injective).mpr hkinds
      | _ => exact .getD text _ _

/-- What is laid over the defaults is taken. -/
theorem taken_eq_ok_iff {v : Variables} {c : Config} :
    taken v = .ok c ↔ c.Overlays {} v.setting? Setting.readText? := by
  refine ⟨overlays_of_taken, fun h => ?_⟩
  -- The values of `c` lead to some configuration, and that is `c`.
  have hsome : ∃ d, taken v = .ok d := by
    rw [taken, textSettings_default]
    exact ⟨_, bind_eq_ok_iff.mpr ⟨_, (adds_orderSetting v _ _ _).mpr
      ⟨c.resolution.order, (assigned_map_iff order_injective).mp (h (.resolution .order)), rfl⟩,
      numberSettings_eq_ok_iff.mpr ⟨c.cache.capacity, c.cache.lifetime, c.handlerCache.capacity,
        c.handlerCache.lifetime, c.registryPool.maxConnections, c.tenantPool.maxConnections,
        (assigned_map_iff number_injective).mp (h (.cache .capacity)),
        (assigned_map_iff duration_injective).mp (h (.cache .lifetime)),
        (assigned_map_iff number_injective).mp (h (.handlerCache .capacity)),
        (assigned_map_iff duration_injective).mp (h (.handlerCache .lifetime)),
        (assigned_map_iff number_injective).mp (h (.registryPool .maxConnections)),
        (assigned_map_iff number_injective).mp (h (.tenantPool .maxConnections)), rfl⟩⟩⟩
  rcases hsome with ⟨d, hd⟩
  rw [hd, (overlays_of_taken hd).unique h]

/-- The configuration of variables is what they give, laid over the defaults,
    if that passes the check. -/
theorem ofVariables_eq_ok_iff {v : Variables} {c : Config} : ofVariables v = .ok c ↔
    c.Overlays {} v.setting? Setting.readText? ∧ c.check = .ok () := by
  rw [← taken_eq_ok_iff, ofVariables, taken]
  simp only [bind_eq_ok_iff, checked_eq_ok_iff]
  constructor
  · rintro ⟨d, horder, _, hnumbers, rfl, hcheck⟩
    exact ⟨⟨d, horder, hnumbers⟩, hcheck⟩
  · rintro ⟨⟨d, horder, hnumbers⟩, hcheck⟩
    exact ⟨d, horder, c, hnumbers, rfl, hcheck⟩

/-! ### Sources over defaults -/

/-- Variables load as the one configuration that is laid over the defaults, if
    it passes the check. A document loads as the one that is laid over its
    ground, which has the values of the defaults for all settings but one. It
    is laid over the defaults themselves if and only if the document has no
    table for the registry's connections or names the number of them. -/
theorem sources_overlay (v : Variables) (text : String) (c : Config) :
    (ofVariables v = .ok c ↔
      c.check = .ok () ∧ ∀ d, d.Overlays {} v.setting? Setting.readText? ↔ d = c) ∧
    (ofDocument text = .ok c ↔ ∃ tree, Toml.parse? text = some tree ∧
      Legible { longLists := true } tree ∧ c.check = .ok () ∧
      ∀ d, d.Overlays (ground tree) tree.setting? Setting.read? ↔ d = c) ∧
    ∀ tree : Json,
      (∀ s, s ≠ .registryPool .maxConnections → (ground tree).value s = ({} : Config).value s) ∧
      ((∀ d, d.Overlays (ground tree) tree.setting? Setting.read? ↔ d = c) →
        ((∀ d, d.Overlays {} tree.setting? Setting.read? ↔ d = c) ↔
          ((tree.member? fields "registry_pool").isSome = true →
            (tree.setting? (.registryPool .maxConnections)).isSome = true))) := by
  refine ⟨?_, ?_, fun tree => ⟨fun s => value_ground tree, fun hc => ?_⟩⟩
  · -- Only one configuration can be laid over a base, so it is the one that is loaded.
    rw [← overlays_iff, ofVariables_eq_ok_iff, and_comm]
  · rw [ofDocument_eq_ok_iff]
    simp only [← overlays_iff, and_comm]
  · rw [← overlays_iff] at hc ⊢
    exact overlays_default_iff hc

/-- Variables that shorten a lifetime. -/
def minuteVariables : Variables := fun name =>
  if name = "TENEMENT_CACHE_TTL_SECS" then some " 60 " else none

theorem sources_overlay_example :
    ofVariables minuteVariables = .ok { cache := { lifetime := .ofSeconds 60 } } ∧
    (∀ d : Config, d.Overlays {} (Variables.setting? minuteVariables) Setting.readText? ↔
      d = { cache := { lifetime := .ofSeconds 60 } }) ∧
    ofDocument "[registry_pool]\nmax_connections = 5\n" =
      .ok { registryPool := { maxConnections := 5 } } ∧
    ∃ tree, Toml.parse? "[registry_pool]\nmax_connections = 5\n" = some tree ∧
      ∀ d : Config, d.Overlays {} tree.setting? Setting.read? ↔
        d = { registryPool := { maxConnections := 5 } } := by
  have hvariables : ofVariables minuteVariables =
      .ok { cache := { lifetime := .ofSeconds 60 } } := by decide +kernel
  have hdocument : ofDocument "[registry_pool]\nmax_connections = 5\n" =
      .ok { registryPool := { maxConnections := 5 } } := by decide +kernel
  have hnamed : ((Toml.parse? "[registry_pool]\nmax_connections = 5\n").all fun tree =>
      (tree.setting? (.registryPool .maxConnections)).isSome) = true := by decide +kernel
  refine ⟨hvariables, ((sources_overlay minuteVariables "" _).1.mp hvariables).2, hdocument, ?_⟩
  rcases sources_overlay minuteVariables "[registry_pool]\nmax_connections = 5\n"
    { registryPool := { maxConnections := 5 } } with ⟨-, hload, htree⟩
  rcases hload.mp hdocument with ⟨tree, hparse, -, -, hground⟩
  rw [hparse] at hnamed
  exact ⟨tree, hparse, ((htree tree).2 hground).mpr fun _ => hnamed⟩

/-- A document that names how few connections the registry keeps open changes
    how many it may open. -/
theorem table_forgets_default :
    ofDocument "[registry_pool]\nmin_connections = 1\n" =
        .ok { registryPool := { maxConnections := 10, minConnections := 1 } } ∧
      ∃ tree, Toml.parse? "[registry_pool]\nmin_connections = 1\n" = some tree ∧
        tree.setting? (.registryPool .maxConnections) = none ∧
        ¬Overlays { registryPool := { maxConnections := 10, minConnections := 1 } } {}
          tree.setting? Setting.read? := by
  have hopen : ((Toml.parse? "[registry_pool]\nmin_connections = 1\n").map fun tree =>
      (tree.setting? (.registryPool .maxConnections)).isNone) = some true := by decide +kernel
  rcases Option.map_eq_some_iff.mp hopen with ⟨tree, hparse, hopen⟩
  rw [Option.isNone_iff_eq_none] at hopen
  refine ⟨by decide +kernel, tree, hparse, hopen, fun h => ?_⟩
  -- Nothing is given for the number, so it would have to be that of the defaults.
  have hassigned := h (.registryPool .maxConnections)
  rw [hopen, Assigned.none_iff] at hassigned
  exact absurd hassigned (by decide)

end Config

end Multitenancy
