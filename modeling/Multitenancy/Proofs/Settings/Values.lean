import Multitenancy.Settings.Config
/-!
# Settings One by One

All settings by name, each with its value.

A configuration is a record of records, and what a source of settings says is
best put for one setting at a time: it has the value that the source gives it,
or else the value that it had. `Assigned` is this alternative, for a value of
any type, and `Config.Overlays` is the alternative for every setting. Since a
configuration is nothing but the values of its settings, a source and what
it is laid over leave no choice.

## Main definitions

* `Setting`: A setting, wherever it stands.
* `SettingValue`, `Config.value`: The value of a setting.
* `Assigned`: A value that is given, or else a default.
* `Config.Overlays`: A configuration laid over another one.

## Theorems

* `Assigned.unique`, `assigned_map_iff`: An assigned value, and its image.
* `Config.ext_value`: A configuration is the values of its settings.
* `Config.Overlays.unique`, `Config.overlays_iff`: There is one way to overlay.
-/

namespace Multitenancy

/-- A setting of a cache. -/
inductive CacheSetting where
  | capacity
  | lifetime
  deriving DecidableEq, Repr

/-- A setting of connections. -/
inductive PoolSetting where
  | maxConnections
  | minConnections
  | maxLifetime
  | idleTimeout
  | acquireTimeout
  deriving DecidableEq, Repr

/-- A setting of how requests are classified. -/
inductive ResolutionSetting where
  | baseDomain
  | headerName
  | queryParam
  | cookieName
  | order
  deriving DecidableEq, Repr

/-- A setting, wherever it stands. -/
inductive Setting where
  | registryUrl
  | locatorTemplate
  | sessionCookie
  | cache (s : CacheSetting)
  | handlerCache (s : CacheSetting)
  | registryPool (s : PoolSetting)
  | tenantPool (s : PoolSetting)
  | resolution (s : ResolutionSetting)
  deriving DecidableEq, Repr

/-- The value of a setting. -/
inductive SettingValue where
  | text (s : String)
  | number (n : Nat)
  | duration (d : Duration)
  | order (kinds : List StrategyKind)
  deriving DecidableEq, Repr

/-- The value of a setting of a cache. -/
def CacheSettings.value (c : CacheSettings) : CacheSetting → SettingValue
  | .capacity => .number c.capacity
  | .lifetime => .duration c.lifetime

/-- The value of a setting of connections. -/
def PoolSettings.value (p : PoolSettings) : PoolSetting → SettingValue
  | .maxConnections => .number p.maxConnections
  | .minConnections => .number p.minConnections
  | .maxLifetime => .duration p.maxLifetime
  | .idleTimeout => .duration p.idleTimeout
  | .acquireTimeout => .duration p.acquireTimeout

/-- The value of a setting of how requests are classified. -/
def ResolutionSettings.value (r : ResolutionSettings) : ResolutionSetting → SettingValue
  | .baseDomain => .text r.baseDomain
  | .headerName => .text r.headerName
  | .queryParam => .text r.queryParam
  | .cookieName => .text r.cookieName
  | .order => .order r.order

/-- The value of a setting. -/
def Config.value (c : Config) : Setting → SettingValue
  | .registryUrl => .text c.registryUrl
  | .locatorTemplate => .text c.locatorTemplate
  | .sessionCookie => .text c.sessionCookie
  | .cache s => c.cache.value s
  | .handlerCache s => c.handlerCache.value s
  | .registryPool s => c.registryPool.value s
  | .tenantPool s => c.tenantPool.value s
  | .resolution s => c.resolution.value s

/-! ### Given values and defaults -/

/-- A value that was read from what is given, or the default where nothing
    is. -/
inductive Assigned {α β : Type} (read : α → Option β) (default : β) : Option α → β → Prop
  | given {a : α} {b : β} (h : read a = some b) : Assigned read default (some a) b
  | default : Assigned read default none default

namespace Assigned

variable {α β : Type} {read : α → Option β} {default b b' : β} {given : Option α}

theorem unique (h : Assigned read default given b) (h' : Assigned read default given b') :
    b = b' := by
  cases h with
  | given h =>
      cases h' with
      | given h' => exact Option.some.inj (h.symm.trans h')
  | default =>
      cases h' with
      | default => rfl

/-- Where nothing is given, the value is the default. -/
theorem none_iff : Assigned read default none b ↔ b = default := by
  constructor
  · rintro ⟨⟩
    rfl
  · rintro rfl
    exact .default

theorem some_iff {a : α} : Assigned read default (some a) b ↔ read a = some b := by
  constructor
  · rintro ⟨h⟩
    exact h
  · exact .given

/-- What is given counts, whatever the default is. -/
theorem of_isSome (h : Assigned read default given b) (hgiven : given.isSome = true)
    (other : β) : Assigned read other given b := by
  cases h with
  | given h => exact .given h
  | default => exact absurd hgiven Bool.false_ne_true

/-- A value that is taken as it is given is always assigned. -/
theorem getD (wrap : α → β) (default : α) (given : Option α) :
    Assigned (fun a => some (wrap a)) (wrap default) given (wrap (given.getD default)) := by
  cases given with
  | none => exact .default
  | some a => exact .given rfl

end Assigned

/-- Reading and then wrapping assigns a wrapped value as reading assigns the
    value itself. -/
theorem assigned_map_iff {α β γ : Type} {wrap : β → γ} (hwrap : Function.Injective wrap)
    {read : α → Option β} {default b : β} {given : Option α} :
    Assigned (fun a => (read a).map wrap) (wrap default) given (wrap b) ↔
      Assigned read default given b := by
  cases given with
  | none => rw [Assigned.none_iff, Assigned.none_iff, hwrap.eq_iff]
  | some a =>
      rw [Assigned.some_iff, Assigned.some_iff, Option.map_eq_some_iff]
      simp only [hwrap.eq_iff, exists_eq_right]

/-! ### Configurations -/

theorem CacheSettings.ext_value {c d : CacheSettings} (h : ∀ s, c.value s = d.value s) :
    c = d := by
  cases c
  cases d
  rw [CacheSettings.mk.injEq]
  exact ⟨SettingValue.number.inj (h .capacity), SettingValue.duration.inj (h .lifetime)⟩

theorem PoolSettings.ext_value {p q : PoolSettings} (h : ∀ s, p.value s = q.value s) : p = q := by
  cases p
  cases q
  rw [PoolSettings.mk.injEq]
  exact ⟨SettingValue.number.inj (h .maxConnections), SettingValue.number.inj (h .minConnections),
    SettingValue.duration.inj (h .maxLifetime), SettingValue.duration.inj (h .idleTimeout),
    SettingValue.duration.inj (h .acquireTimeout)⟩

theorem ResolutionSettings.ext_value {r q : ResolutionSettings}
    (h : ∀ s, r.value s = q.value s) : r = q := by
  cases r
  cases q
  rw [ResolutionSettings.mk.injEq]
  exact ⟨SettingValue.text.inj (h .baseDomain), SettingValue.text.inj (h .headerName),
    SettingValue.text.inj (h .queryParam), SettingValue.text.inj (h .cookieName),
    SettingValue.order.inj (h .order)⟩

/-- A configuration is the values of its settings. -/
theorem Config.ext_value {c d : Config} (h : ∀ s, c.value s = d.value s) : c = d := by
  -- Each part is determined by the values of its own settings.
  have hcache := CacheSettings.ext_value fun s => h (.cache s)
  have hhandlers := CacheSettings.ext_value fun s => h (.handlerCache s)
  have hregistry := PoolSettings.ext_value fun s => h (.registryPool s)
  have htenants := PoolSettings.ext_value fun s => h (.tenantPool s)
  have hresolution := ResolutionSettings.ext_value fun s => h (.resolution s)
  cases c
  cases d
  rw [Config.mk.injEq]
  exact ⟨SettingValue.text.inj (h .registryUrl), SettingValue.text.inj (h .locatorTemplate),
    SettingValue.text.inj (h .sessionCookie), hcache, hhandlers, hregistry, htenants, hresolution⟩

/-- Every setting has the value that was read from what a source gives for it.
    A setting for which the source gives nothing has its value of `base`. -/
def Config.Overlays {α : Type} (c base : Config) (given : Setting → Option α)
    (read : Setting → α → Option SettingValue) : Prop :=
  ∀ s, Assigned (read s) (base.value s) (given s) (c.value s)

/-- There is one way to lay a source over a configuration. -/
theorem Config.Overlays.unique {α : Type} {c d base : Config} {given : Setting → Option α}
    {read : Setting → α → Option SettingValue} (hc : c.Overlays base given read)
    (hd : d.Overlays base given read) : c = d :=
  Config.ext_value fun s => (hc s).unique (hd s)

theorem Config.overlays_iff {α : Type} {c base : Config} {given : Setting → Option α}
    {read : Setting → α → Option SettingValue} :
    c.Overlays base given read ↔ ∀ d : Config, d.Overlays base given read ↔ d = c := by
  constructor
  · intro hc d
    constructor
    · intro hd
      exact hd.unique hc
    · rintro rfl
      exact hc
  · intro h
    exact (h c).mpr rfl

end Multitenancy
