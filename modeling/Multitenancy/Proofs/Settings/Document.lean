import Multitenancy.Proofs.Outcome
import Multitenancy.Proofs.Settings.Values
import Multitenancy.Proofs.Text.Assoc
import Multitenancy.Settings.Document
/-!
# Settings of a Document

Which configuration the tree of a document stands for.

A document gives values to some settings, in tables that may be missing as a
whole. A setting of a table has three cases: its table is missing, its field of
the table is missing, or it is there. In the first case it has the value that
the whole configuration has for it, in the second one the value that its kind
of table has for it, and the two are one value for all settings but one. So a
document is laid over the default configuration, if it has no table for the
registry's connections, and otherwise over the default configuration with the
connections of a tenant's store in their place.

## Main definitions

* `Json.member?`: What stands for a field.
* `Setting.given?`, `Setting.read?`: What a tree gives for a setting, and its
  value.
* `Config.ground`: What a tree is laid over.
* `Config.Legible`: A tree whose tables are tables.

## Theorems

* `join_of_fields?_object`, `join_of_fields?_list`,
  `TreeRules.join_of_fields?`: What is read for a field stands for it.
* `assigned_part_iff`: A table that may be missing.
* `Config.ofTree?_eq_some_iff`: The configuration of a tree.
* `Config.ofDocument_eq_ok_iff`: The configuration of a document.
* `Config.overlays_default_iff`: When it is laid over the default one.
-/

namespace Multitenancy

/-! ### Fields -/

/-- What stands for a field: in a table its value, and in a list what stands at
    its place among the fields. -/
def Json.member? (names : List String) (name : String) : Json → Option Json
  | .object fields => Assoc.get? fields name
  | .list items => items[names.idxOf name]?
  | _ => none

/-- A value that can be read as a table with these fields. -/
def TreeRules.Tabular (rules : TreeRules) (names : List String) (v : Json) : Prop :=
  (rules.fields? names v).isSome = true

section Fields

variable {names : List String} {values : List (Option Json)} {i : Nat}

/-- What is read for a field of a table is its value there. -/
theorem join_of_fields?_object {fields : List (String × Json)}
    (h : fields? names (.object fields) = some values) (hi : i < names.length) :
    (values[i]?).join = Assoc.get? fields names[i] := by
  rw [fields?] at h
  split at h
  · rw [Option.some.injEq] at h
    rw [← h, List.getElem?_map, List.getElem?_eq_getElem hi, Option.map_some, Option.join_some]
    -- The values were looked up among the pairs with a known name, and this name is known.
    exact (Assoc.get?_filter fields names.contains _).trans
      (if_pos (List.contains_iff_mem.mpr (List.getElem_mem hi)))
  · exact absurd h (Option.some_ne_none _).symm

/-- What is read for a field of a list stands at its place there. -/
theorem join_of_fields?_list {items : List Json} (h : fields? names (.list items) = some values)
    (i : Nat) : (values[i]?).join = items[i]? := by
  rw [fields?] at h
  split at h
  · rw [Option.some.injEq] at h
    rw [← h, List.getElem?_append, List.length_map]
    split
    · rw [List.getElem?_map]
      cases items[i]? <;> rfl
    · rename_i hshort
      -- Past the end of the list a field is missing.
      rw [List.getElem?_replicate, List.getElem?_eq_none (Nat.le_of_not_lt hshort)]
      split <;> rfl
  · exact absurd h (Option.some_ne_none _).symm

/-- What is read for a field stands for it. -/
theorem TreeRules.join_of_fields? {rules : TreeRules} {v : Json} (hnames : names.Nodup)
    (h : rules.fields? names v = some values) {name : String} (hi : names[i]? = some name) :
    (values[i]?).join = v.member? names name := by
  rcases List.getElem?_eq_some_iff.mp hi with ⟨hlt, rfl⟩
  cases v with
  | object fields => exact join_of_fields?_object h hlt
  | list items =>
      rw [join_of_fields?_list h i, Json.member?, hnames.idxOf_getElem]
      -- What is beyond the fields does not count.
      split
      · exact List.getElem?_take_of_lt hlt
      · rfl
  | null | bool b | int n | real literal | text s => exact absurd h (Option.some_ne_none _).symm

end Fields

/-- A field is read as it was given, or has its default. -/
theorem withDefault_eq_some_iff {α : Type} {rules : TreeRules} {names : List String} {v : Json}
    {values : List (Option Json)} (hnames : names.Nodup)
    (hvalues : rules.fields? names v = some values) {i : Nat} {name : String}
    (hi : names[i]? = some name) {read : Json → Option α} {default a : α} :
    withDefault values i default read = some a ↔
      Assigned read default (v.member? names name) a := by
  rw [withDefault, rules.join_of_fields? hnames hvalues hi]
  cases v.member? names name with
  | none => rw [Assigned.none_iff, Option.some.injEq, eq_comm]
  | some w => rw [Assigned.some_iff]

/-- A field is assigned as its value among the settings is. -/
theorem withDefault_eq_some_iff_map {α : Type} {rules : TreeRules} {names : List String} {v : Json}
    {values : List (Option Json)} (hnames : names.Nodup)
    (hvalues : rules.fields? names v = some values) {i : Nat} {name : String}
    (hi : names[i]? = some name) {read : Json → Option α} {default a : α}
    {wrap : α → SettingValue} (hwrap : Function.Injective wrap) :
    withDefault values i default read = some a ↔
      Assigned (fun w => (read w).map wrap) (wrap default) (v.member? names name) (wrap a) := by
  rw [withDefault_eq_some_iff hnames hvalues hi, assigned_map_iff hwrap]

/-! ### Tables -/

/-- The fields of a table for a cache. -/
def CacheSetting.fields : List String := ["capacity", "ttl"]

/-- The field of a setting of a cache. -/
def CacheSetting.field : CacheSetting → String
  | .capacity => "capacity"
  | .lifetime => "ttl"

/-- The value of a field of a cache. -/
def CacheSetting.read? : CacheSetting → Json → Option SettingValue
  | .capacity, v => (wordOf? 64 v).map .number
  | .lifetime, v => (durationOf? v).map .duration

/-- The fields of a table for connections. -/
def PoolSetting.fields : List String :=
  ["max_connections", "min_connections", "max_lifetime", "idle_timeout", "acquire_timeout"]

/-- The field of a setting of connections. -/
def PoolSetting.field : PoolSetting → String
  | .maxConnections => "max_connections"
  | .minConnections => "min_connections"
  | .maxLifetime => "max_lifetime"
  | .idleTimeout => "idle_timeout"
  | .acquireTimeout => "acquire_timeout"

/-- The value of a field of connections. -/
def PoolSetting.read? : PoolSetting → Json → Option SettingValue
  | .maxConnections, v | .minConnections, v => (wordOf? 32 v).map .number
  | .maxLifetime, v | .idleTimeout, v | .acquireTimeout, v => (durationOf? v).map .duration

/-- The fields of a table for how requests are classified. -/
def ResolutionSetting.fields : List String :=
  ["base_domain", "header_name", "query_param", "cookie_name", "order"]

/-- The field of a setting of how requests are classified. -/
def ResolutionSetting.field : ResolutionSetting → String
  | .baseDomain => "base_domain"
  | .headerName => "header_name"
  | .queryParam => "query_param"
  | .cookieName => "cookie_name"
  | .order => "order"

/-- The strategies of a list. -/
def orderOf? (v : Json) : Option (List StrategyKind) := do
  (← v.list?).mapM StrategyKind.ofTree?

/-- The value of a field of how requests are classified. -/
def ResolutionSetting.read? : ResolutionSetting → Json → Option SettingValue
  | .baseDomain, v | .headerName, v | .queryParam, v | .cookieName, v => v.text?.map .text
  | .order, v => (orderOf? v).map .order

theorem SettingValue.text_injective : Function.Injective text :=
  fun _ _ => text.inj

theorem SettingValue.number_injective : Function.Injective number :=
  fun _ _ => number.inj

theorem SettingValue.duration_injective : Function.Injective duration :=
  fun _ _ => duration.inj

theorem SettingValue.order_injective : Function.Injective order :=
  fun _ _ => order.inj

section Tables

open SettingValue

variable {rules : TreeRules} {v : Json}

theorem CacheSettings.ofTree?_eq_some_iff {c : CacheSettings} : ofTree? rules v = some c ↔
    rules.Tabular CacheSetting.fields v ∧
      ∀ i : CacheSetting, Assigned i.read? (({} : CacheSettings).value i)
        (v.member? CacheSetting.fields i.field) (c.value i) := by
  have hfields : CacheSetting.fields.Nodup := by decide
  simp only [ofTree?, Option.bind_eq_bind, Option.bind_eq_some_iff]
  -- One place of the list of values belongs to each setting, so each is read on its own.
  constructor
  · rintro ⟨values, hvalues, capacity, hcapacity, lifetime, hlifetime, hc⟩
    cases hc
    refine ⟨Option.isSome_iff_exists.mpr ⟨values, hvalues⟩, fun i => ?_⟩
    cases i with
    | capacity =>
        exact (withDefault_eq_some_iff_map hfields hvalues rfl number_injective).mp hcapacity
    | lifetime =>
        exact (withDefault_eq_some_iff_map hfields hvalues rfl duration_injective).mp hlifetime
  · rintro ⟨htabular, h⟩
    rcases Option.isSome_iff_exists.mp htabular with ⟨values, hvalues⟩
    exact ⟨values, hvalues,
      _, (withDefault_eq_some_iff_map hfields hvalues rfl number_injective).mpr (h .capacity),
      _, (withDefault_eq_some_iff_map hfields hvalues rfl duration_injective).mpr (h .lifetime),
      rfl⟩

theorem PoolSettings.ofTree?_eq_some_iff {p : PoolSettings} : ofTree? rules v = some p ↔
    rules.Tabular PoolSetting.fields v ∧
      ∀ i : PoolSetting, Assigned i.read? (PoolSettings.tenant.value i)
        (v.member? PoolSetting.fields i.field) (p.value i) := by
  have hfields : PoolSetting.fields.Nodup := by decide
  simp only [ofTree?, Option.bind_eq_bind, Option.bind_eq_some_iff]
  constructor
  · rintro ⟨values, hvalues, max, hmax, min, hmin, lifetime, hlifetime, idle, hidle, acquire,
      hacquire, hp⟩
    cases hp
    -- What was read for a field is what its setting is assigned.
    refine ⟨Option.isSome_iff_exists.mpr ⟨values, hvalues⟩, fun i => ?_⟩
    cases i with
    | maxConnections =>
        exact (withDefault_eq_some_iff_map hfields hvalues rfl number_injective).mp hmax
    | minConnections =>
        exact (withDefault_eq_some_iff_map hfields hvalues rfl number_injective).mp hmin
    | maxLifetime =>
        exact (withDefault_eq_some_iff_map hfields hvalues rfl duration_injective).mp hlifetime
    | idleTimeout =>
        exact (withDefault_eq_some_iff_map hfields hvalues rfl duration_injective).mp hidle
    | acquireTimeout =>
        exact (withDefault_eq_some_iff_map hfields hvalues rfl duration_injective).mp hacquire
  · -- The assigned values are what reading the fields gives back.
    rintro ⟨htabular, h⟩
    rcases Option.isSome_iff_exists.mp htabular with ⟨values, hvalues⟩
    exact ⟨values, hvalues,
      _, (withDefault_eq_some_iff_map hfields hvalues rfl number_injective).mpr (h .maxConnections),
      _, (withDefault_eq_some_iff_map hfields hvalues rfl number_injective).mpr (h .minConnections),
      _, (withDefault_eq_some_iff_map hfields hvalues rfl duration_injective).mpr (h .maxLifetime),
      _, (withDefault_eq_some_iff_map hfields hvalues rfl duration_injective).mpr (h .idleTimeout),
      _, (withDefault_eq_some_iff_map hfields hvalues rfl duration_injective).mpr
        (h .acquireTimeout), rfl⟩

theorem ResolutionSettings.ofTree?_eq_some_iff {r : ResolutionSettings} :
    ofTree? rules v = some r ↔ rules.Tabular ResolutionSetting.fields v ∧
      ∀ i : ResolutionSetting, Assigned i.read? (({} : ResolutionSettings).value i)
        (v.member? ResolutionSetting.fields i.field) (r.value i) := by
  have hfields : ResolutionSetting.fields.Nodup := by decide
  simp only [ofTree?, Option.bind_eq_bind, Option.bind_eq_some_iff]
  constructor
  · rintro ⟨values, hvalues, base, hbase, header, hheader, query, hquery, cookie, hcookie, order,
      horder, hr⟩
    cases hr
    refine ⟨Option.isSome_iff_exists.mpr ⟨values, hvalues⟩, fun i => ?_⟩
    cases i with
    | baseDomain => exact (withDefault_eq_some_iff_map hfields hvalues rfl text_injective).mp hbase
    | headerName =>
        exact (withDefault_eq_some_iff_map hfields hvalues rfl text_injective).mp hheader
    | queryParam => exact (withDefault_eq_some_iff_map hfields hvalues rfl text_injective).mp hquery
    | cookieName =>
        exact (withDefault_eq_some_iff_map hfields hvalues rfl text_injective).mp hcookie
    | order => exact (withDefault_eq_some_iff_map hfields hvalues rfl order_injective).mp horder
  · rintro ⟨htabular, h⟩
    rcases Option.isSome_iff_exists.mp htabular with ⟨values, hvalues⟩
    exact ⟨values, hvalues,
      _, (withDefault_eq_some_iff_map hfields hvalues rfl text_injective).mpr (h .baseDomain),
      _, (withDefault_eq_some_iff_map hfields hvalues rfl text_injective).mpr (h .headerName),
      _, (withDefault_eq_some_iff_map hfields hvalues rfl text_injective).mpr (h .queryParam),
      _, (withDefault_eq_some_iff_map hfields hvalues rfl text_injective).mpr (h .cookieName),
      _, (withDefault_eq_some_iff_map hfields hvalues rfl order_injective).mpr (h .order), rfl⟩

/-- A table that may be missing. Its settings are assigned by the table, over
    what its kind of table has for them, or over the default of the whole table
    if it is missing. -/
theorem assigned_part_iff {π σ : Type} {ofTree? : Json → Option π} {tabular : Json → Prop}
    {member? : Json → σ → Option Json} {read : σ → Json → Option SettingValue}
    {value : π → σ → SettingValue} {own default p : π}
    (hread : ∀ t p, ofTree? t = some p ↔
      tabular t ∧ ∀ i, Assigned (read i) (value own i) (member? t i) (value p i))
    (hext : ∀ {p q}, (∀ i, value p i = value q i) → p = q) (part? : Option Json) :
    Assigned ofTree? default part? p ↔ (∀ t, part? = some t → tabular t) ∧
      ∀ i, Assigned (read i) (value (if part?.isSome then own else default) i)
        (part?.bind fun t => member? t i) (value p i) := by
  -- Without a table the settings are determined by their values, all those of the default.
  cases part? with
  | none =>
      simp only [Assigned.none_iff, Option.isSome_none, Option.bind_none, Bool.false_eq_true,
        if_false, reduceCtorEq, false_implies, implies_true, true_and]
      exact ⟨fun h i => by rw [h], hext⟩
  | some t =>
      simp only [Assigned.some_iff, hread, Option.isSome_some, if_true, Option.bind_some,
        Option.some.injEq, forall_eq']

end Tables

/-! ### Configurations -/

/-- The fields of a document. -/
def Config.fields : List String :=
  ["registry_url", "locator_template", "session_cookie_default", "cache", "handler_cache",
    "registry_pool", "tenant_pool", "resolution"]

/-- What a tree gives for a setting. -/
def Json.setting? (v : Json) : Setting → Option Json
  | .registryUrl => v.member? Config.fields "registry_url"
  | .locatorTemplate => v.member? Config.fields "locator_template"
  | .sessionCookie => v.member? Config.fields "session_cookie_default"
  | .cache s =>
    (v.member? Config.fields "cache").bind fun t => t.member? CacheSetting.fields s.field
  | .handlerCache s =>
    (v.member? Config.fields "handler_cache").bind fun t => t.member? CacheSetting.fields s.field
  | .registryPool s =>
    (v.member? Config.fields "registry_pool").bind fun t => t.member? PoolSetting.fields s.field
  | .tenantPool s =>
    (v.member? Config.fields "tenant_pool").bind fun t => t.member? PoolSetting.fields s.field
  | .resolution s =>
    (v.member? Config.fields "resolution").bind fun t => t.member? ResolutionSetting.fields s.field

/-- The value of what a tree gives for a setting. -/
def Setting.read? : Setting → Json → Option SettingValue
  | .registryUrl, v | .locatorTemplate, v | .sessionCookie, v => v.text?.map .text
  | .cache s, v | .handlerCache s, v => s.read? v
  | .registryPool s, v | .tenantPool s, v => s.read? v
  | .resolution s, v => s.read? v

namespace Config

/-- What a tree is laid over: the default configuration, where a table for the
    registry's connections begins with those of a tenant's store. -/
def ground (v : Json) : Config :=
  { registryPool := if (v.member? fields "registry_pool").isSome then .tenant else .registry }

/-- A tree whose tables are tables. -/
structure Legible (rules : TreeRules) (v : Json) : Prop where
  whole : rules.Tabular fields v
  cache : ∀ t, v.member? fields "cache" = some t → rules.Tabular CacheSetting.fields t
  handlerCache : ∀ t, v.member? fields "handler_cache" = some t →
    rules.Tabular CacheSetting.fields t
  registryPool : ∀ t, v.member? fields "registry_pool" = some t →
    rules.Tabular PoolSetting.fields t
  tenantPool : ∀ t, v.member? fields "tenant_pool" = some t → rules.Tabular PoolSetting.fields t
  resolution : ∀ t, v.member? fields "resolution" = some t →
    rules.Tabular ResolutionSetting.fields t

variable {rules : TreeRules} {v : Json} {c : Config}

theorem assigned_cache_iff (part? : Option Json) {s : CacheSettings} :
    Assigned (CacheSettings.ofTree? rules) {} part? s ↔
      (∀ t, part? = some t → rules.Tabular CacheSetting.fields t) ∧
        ∀ i : CacheSetting, Assigned i.read? (({} : CacheSettings).value i)
          (part?.bind fun t => t.member? CacheSetting.fields i.field) (s.value i) := by
  rw [assigned_part_iff (fun _ _ => CacheSettings.ofTree?_eq_some_iff) CacheSettings.ext_value]
  simp only [ite_self]

theorem assigned_resolution_iff (part? : Option Json) {s : ResolutionSettings} :
    Assigned (ResolutionSettings.ofTree? rules) {} part? s ↔
      (∀ t, part? = some t → rules.Tabular ResolutionSetting.fields t) ∧
        ∀ i : ResolutionSetting, Assigned i.read? (({} : ResolutionSettings).value i)
          (part?.bind fun t => t.member? ResolutionSetting.fields i.field) (s.value i) := by
  rw [assigned_part_iff (fun _ _ => ResolutionSettings.ofTree?_eq_some_iff)
    ResolutionSettings.ext_value]
  simp only [ite_self]

theorem assigned_pool_iff (default : PoolSettings) (part? : Option Json) {s : PoolSettings} :
    Assigned (PoolSettings.ofTree? rules) default part? s ↔
      (∀ t, part? = some t → rules.Tabular PoolSetting.fields t) ∧
        ∀ i : PoolSetting, Assigned i.read?
          ((if part?.isSome then PoolSettings.tenant else default).value i)
          (part?.bind fun t => t.member? PoolSetting.fields i.field) (s.value i) :=
  assigned_part_iff (fun _ _ => PoolSettings.ofTree?_eq_some_iff) PoolSettings.ext_value part?

theorem assigned_tenantPool_iff (part? : Option Json) {s : PoolSettings} :
    Assigned (PoolSettings.ofTree? rules) .tenant part? s ↔
      (∀ t, part? = some t → rules.Tabular PoolSetting.fields t) ∧
        ∀ i : PoolSetting, Assigned i.read? (PoolSettings.tenant.value i)
          (part?.bind fun t => t.member? PoolSetting.fields i.field) (s.value i) := by
  rw [assigned_pool_iff]
  simp only [ite_self]

/-- The configuration of a tree is the tree laid over its ground. -/
theorem ofTree?_eq_some_iff : ofTree? rules v = some c ↔
    Legible rules v ∧ c.Overlays (ground v) v.setting? Setting.read? := by
  have hfields : fields.Nodup := by decide
  have htext := SettingValue.text_injective
  simp only [ofTree?, Option.bind_eq_bind, Option.bind_eq_some_iff]
  constructor
  · rintro ⟨values, hvalues, url, hurl, template, htemplate, cookie, hcookie, cache, hcache,
      handlers, hhandlers, registry, hregistry, tenants, htenants, resolution, hresolution, hc⟩
    cases hc
    -- The texts are fields of the tree itself; the settings of a table are assigned by the table,
    -- which the lemma of its kind opens.
    rw [withDefault_eq_some_iff hfields hvalues rfl, assigned_cache_iff] at hcache hhandlers
    rw [withDefault_eq_some_iff hfields hvalues rfl, assigned_pool_iff] at hregistry
    rw [withDefault_eq_some_iff hfields hvalues rfl] at htenants
    rw [withDefault_eq_some_iff hfields hvalues rfl, assigned_resolution_iff] at hresolution
    have htenants := (assigned_tenantPool_iff _).mp htenants
    refine ⟨⟨Option.isSome_iff_exists.mpr ⟨values, hvalues⟩, hcache.1, hhandlers.1, hregistry.1,
      htenants.1, hresolution.1⟩, fun s => ?_⟩
    cases s with
    | registryUrl => exact (withDefault_eq_some_iff_map hfields hvalues rfl htext).mp hurl
    | locatorTemplate => exact (withDefault_eq_some_iff_map hfields hvalues rfl htext).mp htemplate
    | sessionCookie => exact (withDefault_eq_some_iff_map hfields hvalues rfl htext).mp hcookie
    | cache i => exact hcache.2 i
    | handlerCache i => exact hhandlers.2 i
    | registryPool i => exact hregistry.2 i
    | tenantPool i => exact htenants.2 i
    | resolution i => exact hresolution.2 i
  · rintro ⟨hlegible, h⟩
    -- Each table is read on its own from what is assigned in it, then the fields are put together.
    rcases Option.isSome_iff_exists.mp hlegible.whole with ⟨values, hvalues⟩
    have hcache := (assigned_cache_iff _).mpr ⟨hlegible.cache, fun i => h (.cache i)⟩
    have hhandlers := (assigned_cache_iff _).mpr
      ⟨hlegible.handlerCache, fun i => h (.handlerCache i)⟩
    have hregistry := (assigned_pool_iff .registry _).mpr
      ⟨hlegible.registryPool, fun i => h (.registryPool i)⟩
    have htenants := (assigned_tenantPool_iff _).mpr
      ⟨hlegible.tenantPool, fun i => h (.tenantPool i)⟩
    have hresolution := (assigned_resolution_iff _).mpr
      ⟨hlegible.resolution, fun i => h (.resolution i)⟩
    exact ⟨values, hvalues,
      _, (withDefault_eq_some_iff_map hfields hvalues rfl htext).mpr (h .registryUrl),
      _, (withDefault_eq_some_iff_map hfields hvalues rfl htext).mpr (h .locatorTemplate),
      _, (withDefault_eq_some_iff_map hfields hvalues rfl htext).mpr (h .sessionCookie),
      _, (withDefault_eq_some_iff hfields hvalues rfl).mpr hcache,
      _, (withDefault_eq_some_iff hfields hvalues rfl).mpr hhandlers,
      _, (withDefault_eq_some_iff hfields hvalues rfl).mpr hregistry,
      _, (withDefault_eq_some_iff hfields hvalues rfl).mpr htenants,
      _, (withDefault_eq_some_iff hfields hvalues rfl).mpr hresolution, rfl⟩

/-- A configuration that is checked is left as it is. -/
theorem checked_eq_ok_iff {d : Config} : c.checked = .ok d ↔ c = d ∧ d.check = .ok () := by
  rw [checked, bind_eq_ok_iff]
  constructor
  · rintro ⟨_, hcheck, hd⟩
    cases hd
    exact ⟨rfl, hcheck⟩
  · rintro ⟨rfl, hcheck⟩
    exact ⟨(), hcheck, rfl⟩

/-- The configuration of a document is its tree laid over the ground of the
    tree, if that passes the check. -/
theorem ofDocument_eq_ok_iff {text : String} : ofDocument text = .ok c ↔
    ∃ v, Toml.parse? text = some v ∧ Legible { longLists := true } v ∧
      c.Overlays (ground v) v.setting? Setting.read? ∧ c.check = .ok () := by
  rw [ofDocument]
  -- A text without a tree loads as nothing, and so does a tree that cannot be read.
  cases hparse : Toml.parse? text with
  | none => simp only [Option.bind_none, reduceCtorEq, false_and, exists_false]
  | some v =>
      simp only [Option.bind_some, Option.some.injEq, exists_eq_left']
      rw [← and_assoc, ← ofTree?_eq_some_iff]
      cases ofTree? { longLists := true } v with
      | none => simp only [reduceCtorEq, false_and]
      | some d => simp only [checked_eq_ok_iff, Option.some.injEq]

/-- A tree and the defaults differ in their ground by one setting at most. -/
theorem value_ground (v : Json) {s : Setting} (hs : s ≠ .registryPool .maxConnections) :
    (ground v).value s = ({} : Config).value s := by
  cases s with
  | registryPool i =>
      rw [value, ground]
      cases i with
      | maxConnections => exact absurd rfl hs
      | _ => split <;> rfl
  | _ => rfl

/-- A tree is laid over the defaults, unless it has a table for the registry's
    connections that leaves their number open. -/
theorem overlays_default_iff (h : c.Overlays (ground v) v.setting? Setting.read?) :
    c.Overlays {} v.setting? Setting.read? ↔ ((v.member? fields "registry_pool").isSome = true →
      (v.setting? (.registryPool .maxConnections)).isSome = true) := by
  constructor
  · intro hdefault htable
    cases hopen : v.setting? (.registryPool .maxConnections) with
    | some w => rfl
    | none =>
        have hground := h (.registryPool .maxConnections)
        have hfirst := hdefault (.registryPool .maxConnections)
        rw [hopen, Assigned.none_iff] at hground hfirst
        -- The two grounds would have the same number of connections.
        rw [hground, value, ground, if_pos htable] at hfirst
        exact absurd hfirst (by decide)
  · intro hnamed s
    by_cases hs : s = .registryPool .maxConnections
    · subst hs
      by_cases htable : (v.member? fields "registry_pool").isSome = true
      · exact (h _).of_isSome (hnamed htable) _
      · have hassigned := h (.registryPool .maxConnections)
        rw [value, ground, if_neg htable] at hassigned
        exact hassigned
    · rw [← value_ground v hs]
      exact h s

end Config

end Multitenancy
