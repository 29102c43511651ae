import Multitenancy.Proofs.Registry.Invariant
import Multitenancy.Proofs.Text.Assoc
import Multitenancy.Registry.Indexed
/-!
# The Registry in Memory Keeps a Roster

The three maps and the list of ids are those of a roster: each map answers as
the search of the roster that it stands for, and the list holds the ids in the
order of creation. `Keeps` says so, and each operation is shown to do on the
maps what it does on the roster, with the same fault or the same answer.

The maps by domain and by subdomain are two copies of one thing, a map by a
field, and are treated as one: `Leads` relates such a map to the search by its
field. Writing a tenant takes the old record out of the map and puts the new
one in. Neither touches an entry of anybody else, because on a sound roster
nobody else has the field.

## Main definitions

* `Leads`: A map answers as the search by a field.
* `Indexed.Keeps`: The maps are those of a roster.

## Theorems

* `find_eq`, `findById_eq`, `listAll_eq`, `list_eq`: The reads.
* `checkKeys_eq`: The check of a record's keys.
* `create_agree`, `update_agree`, `softDelete_agree`: The writes.
-/

namespace Multitenancy

namespace Indexed

-- As for the roster: records are compared without unfolding stored keys.
attribute [local irreducible] foldKey

/-- A map answers as the search of a roster by a field. -/
def Leads (m : Assoc String Tenant) (field : Tenant → String) (ts : Roster) : Prop :=
  ∀ key, m.get? key = ts.holder? field key

/-- The maps and the list of ids are those of a roster. -/
structure Keeps (r : Indexed) (ts : Roster) : Prop where
  byId : ∀ id, r.byId.get? id = ts.byId? id
  byDomain : Leads r.byDomain Tenant.domain ts
  bySubdomain : Leads r.bySubdomain Tenant.subdomain ts
  order : r.order = ts.map Tenant.id

theorem keeps_empty : Indexed.empty.Keeps [] where
  byId := fun _ => rfl
  byDomain := fun _ => (ite_self none).symm
  bySubdomain := fun _ => (ite_self none).symm
  order := rfl

/-! ### Reads -/

theorem activeById?_eq {r : Indexed} {ts : Roster} (h : r.Keeps ts) (id : String) :
    r.activeById? id = ts.activeById? id := by
  rw [activeById?, h.byId, Roster.activeById?]

theorem find_eq {r : Indexed} {ts : Roster} (h : r.Keeps ts) (key : String) :
    r.find key = ts.find key := by
  rw [find, activeById?_eq h, h.byDomain, h.bySubdomain]
  rfl

theorem findById_eq {r : Indexed} {ts : Roster} (h : r.Keeps ts) (id : String) :
    r.findById id = ts.findById id := by
  rw [findById, h.byId]
  rfl

/-- The list of ids brings every record back, since each id leads to the one
    record that has it. -/
theorem listAll_eq {r : Indexed} {ts : Roster} (h : r.Keeps ts) (hs : ts.Sound) :
    r.listAll = ts := by
  -- No id occurs twice, so the record that an id leads to is the one it came
  -- from.
  have hget : ∀ t ∈ ts, (r.byId.get? ∘ Tenant.id) t = some t := by
    intro t ht
    rw [Function.comp_apply, h.byId]
    exact (hs.byId?_eq_some_iff t.id t).mpr ⟨ht, rfl⟩
  rw [listAll, h.order, List.filterMap_map, List.filterMap_congr hget, List.filterMap_some]

theorem list_eq {r : Indexed} {ts : Roster} (h : r.Keeps ts) (hs : ts.Sound) :
    r.list = ts.active := by
  rw [list, listAll_eq h hs, Roster.active]

/-! ### The check of routing keys -/

/-- The three maps lead to the active tenants that answer to a key. -/
theorem mem_candidates_iff {r : Indexed} {ts : Roster} (h : r.Keeps ts) (hs : ts.Sound)
    {key : String} (hne : Text.lowerText key ≠ "") (t : Tenant) :
    t ∈ [r.activeById? key, r.byDomain.get? (Text.lowerText key),
        r.bySubdomain.get? (Text.lowerText key)].filterMap id ↔
      t ∈ ts ∧ t.isActive = true ∧ (t.id = key ∨ t.holds (Text.lowerText key) = true) := by
  rw [List.mem_filterMap]
  simp only [id_eq, List.mem_cons, List.not_mem_nil, or_false, exists_eq_right]
  -- Each map answers as the search it stands for.
  rw [eq_comm, eq_comm (b := r.byDomain.get? _), eq_comm (b := r.bySubdomain.get? _),
    activeById?_eq h, h.byDomain, h.bySubdomain, hs.activeById?_eq_some_iff,
    hs.holder?_eq_some_iff Roster.isKeyField_domain,
    hs.holder?_eq_some_iff Roster.isKeyField_subdomain, Tenant.holds_iff]
  constructor
  · rintro (⟨hmem, hid, hactive⟩ | ⟨hmem, hactive, hd, _⟩ | ⟨hmem, hactive, hsub, _⟩)
    · exact ⟨hmem, hactive, Or.inl hid⟩
    · exact ⟨hmem, hactive, Or.inr ⟨hne, Or.inl hd⟩⟩
    · exact ⟨hmem, hactive, Or.inr ⟨hne, Or.inr hsub⟩⟩
  · rintro ⟨hmem, hactive, hid | ⟨_, hd | hsub⟩⟩
    · exact Or.inl ⟨hmem, hid, hactive⟩
    · exact Or.inr (Or.inl ⟨hmem, hactive, hd, hne⟩)
    · exact Or.inr (Or.inr ⟨hmem, hactive, hsub, hne⟩)

theorem claimant?_eq {r : Indexed} {ts : Roster} (h : r.Keeps ts) (hs : ts.Sound)
    {key own : String} (hne : Text.lowerText key ≠ "")
    (hkey : key = own ∨ Text.lowerText key = key) :
    r.claimant? key own = ts.claimant? key own := by
  rw [claimant?, Roster.claimant?]
  -- Both search for a tenant that claims the key, and there is one at most, so the order in which
  -- they search does not matter.
  refine congrArg (Option.map Tenant.id) (Roster.find?_eq_find? (fun t => ?_)
    fun t ht u hu htc huc => hs.claims_unique hkey ht hu htc huc)
  rw [mem_candidates_iff h hs hne, Roster.claims_iff, bne_iff_ne]
  constructor
  · rintro ⟨⟨hmem, hactive, hk⟩, hown⟩
    exact ⟨hmem, hactive, hown, hk⟩
  · rintro ⟨hmem, hactive, hown, hk⟩
    exact ⟨⟨hmem, hactive, hk⟩, hown⟩

theorem checkKeys_eq_forM (r : Indexed) (t : Tenant) :
    r.checkKeys t = (t.id :: t.secondaryKeys).forM fun key =>
      Roster.verdict key (r.claimant? key t.id) := rfl

theorem checkKeys_eq {r : Indexed} {ts : Roster} (h : r.Keeps ts) (hs : ts.Sound) {t : Tenant}
    (hid : t.id ≠ "") : r.checkKeys t = ts.checkKeys t := by
  rw [checkKeys_eq_forM, Roster.checkKeys]
  refine forM_congr fun key hkey => ?_
  have hne : Text.lowerText key ≠ "" :=
    fun hlow => Roster.key_ne_empty hid hkey ((lowerText_eq_empty_iff key).mp hlow)
  rw [claimant?_eq h hs hne (Roster.key_of_record hkey)]

/-! ### Entries of everybody else -/

/-- A map answers as the search by a field does, except that it does not know
    the tenant with an id. -/
def LeadsBut (m : Assoc String Tenant) (field : Tenant → String) (ts : Roster) (id : String) :
    Prop :=
  ∀ key t, m.get? key = some t ↔ ts.holder? field key = some t ∧ t.id ≠ id

section Fields

variable {m : Assoc String Tenant} {field : Tenant → String} {ts : Roster}

/-- A map does not know the tenant that is about to be appended. -/
theorem Leads.append (hm : Leads m field ts) (hs : ts.Sound) {t : Tenant}
    (hs' : Roster.Sound (ts ++ [t])) (hf : Roster.IsKeyField field) (hnew : ∀ u ∈ ts, u.id ≠ t.id) :
    LeadsBut m field (ts ++ [t]) t.id := by
  intro key u
  rw [hm, hs.holder?_eq_some_iff hf, hs'.holder?_eq_some_iff hf, List.mem_append,
    List.mem_singleton]
  -- Anybody but the new tenant was there before, and the new one has an id of its own.
  constructor
  · rintro ⟨hmem, hrest⟩
    exact ⟨⟨Or.inl hmem, hrest⟩, hnew u hmem⟩
  · rintro ⟨⟨hmem | hmem, hrest⟩, hid⟩
    · exact ⟨hmem, hrest⟩
    · exact absurd (congrArg Tenant.id hmem) hid

/-- Releasing a tenant's key takes the tenant out of the map, and nobody
    else. -/
theorem Leads.release (hm : Leads m field ts) (hs : ts.Sound) (hf : Roster.IsKeyField field)
    {e : Tenant} (he : e ∈ ts) (hactive : e.isActive = true) :
    LeadsBut (release m (field e) e.id) field ts e.id := by
  intro key t
  -- Who is found under another key is not `e`, whose field is `field e`.
  have hother : field e ≠ key → ts.holder? field key = some t → t.id ≠ e.id := by
    intro hne hfind hid
    rcases Roster.mem_of_holder? hfind with ⟨hmem, _, hfield, _⟩
    rw [hs.eq_of_id hmem he hid] at hfield
    exact hne hfield
  have hlead : m.get? (field e) = ts.holder? field (field e) := hm (field e)
  -- A tenant without the field was never in the map.
  by_cases hempty : field e = ""
  · have hnone : ts.holder? field (field e) = none := by
      rw [hempty]
      exact if_pos rfl
    rw [hnone] at hlead
    rw [Indexed.release, hlead, hm]
    refine ⟨fun h => ⟨h, hother (fun hkey => ?_) h⟩, fun h => h.1⟩
    exact (Roster.mem_of_holder? h).2.2.2 (by rw [← hkey, hempty])
  · have hself : ts.holder? field (field e) = some e :=
      (hs.holder?_eq_some_iff hf (field e) e).mpr ⟨he, hactive, rfl, hempty⟩
    have hcond : (!(field e).isEmpty && e.id == e.id) = true := by
      rw [beq_self_eq_true, Bool.and_true, Bool.not_eq_true', String.isEmpty_eq_false_iff]
      exact hempty
    rw [hself] at hlead
    rw [Indexed.release, hlead]
    simp only [hcond, if_true]
    rw [Assoc.get?_erase, hm]
    by_cases hkey : field e = key
    · rw [if_pos (by simpa only [beq_iff_eq] using hkey)]
      refine iff_of_false (by simp only [reduceCtorEq, not_false_eq_true]) fun h => ?_
      rw [← hkey, hself, Option.some.injEq] at h
      exact h.2 (by rw [h.1])
    · rw [if_neg (by simpa only [beq_iff_eq] using hkey)]
      exact ⟨fun h => ⟨h, hother hkey h⟩, fun h => h.1⟩

/-- Putting another record in the place of the one that a map does not know
    changes nothing about the others. -/
theorem LeadsBut.replace {id : String} (hm : LeadsBut m field ts id) (hs : ts.Sound) {new : Tenant}
    (hid : new.id = id) (hs' : (ts.replace id new).Sound) (hf : Roster.IsKeyField field) :
    LeadsBut m field (ts.replace id new) id := by
  intro key u
  rw [hm, hs.holder?_eq_some_iff hf, hs'.holder?_eq_some_iff hf, Roster.mem_replace_iff]
  -- The replaced record and the new one have the id that the map leaves out.
  constructor
  · rintro ⟨⟨hmem, hrest⟩, hne⟩
    exact ⟨⟨Or.inl ⟨hmem, hne⟩, hrest⟩, hne⟩
  · rintro ⟨⟨⟨hmem, _⟩ | ⟨hnew, _⟩, hrest⟩, hne⟩
    · exact ⟨⟨hmem, hrest⟩, hne⟩
    · exact absurd (by rw [hnew, hid]) hne

theorem get?_claim (m : Assoc String Tenant) (key other : String) (t : Tenant) :
    (claim m key t).get? other = if key = other ∧ key ≠ "" then some t else m.get? other := by
  rw [claim]
  by_cases hempty : key = ""
  · rw [if_pos (by rw [hempty]; rfl), if_neg (fun hc => hc.2 hempty)]
  · rw [if_neg (by rwa [String.isEmpty_iff]), Assoc.get?_insert]
    simp only [beq_iff_eq, ne_eq, hempty, not_false_eq_true, and_true]

/-- A tenant that claims its key is known again. -/
theorem LeadsBut.claim {t : Tenant} (hm : LeadsBut m field ts t.id) (hs : ts.Sound)
    (hf : Roster.IsKeyField field) (ht : t ∈ ts) (hactive : t.isActive = true) :
    Leads (claim m (field t) t) field ts := by
  intro key
  rw [get?_claim]
  -- Under the key of the tenant the map has it now, and the search finds no other.
  by_cases hkey : field t = key ∧ field t ≠ ""
  · rcases hkey with ⟨rfl, hne⟩
    rw [if_pos ⟨rfl, hne⟩]
    exact ((hs.holder?_eq_some_iff hf (field t) t).mpr ⟨ht, hactive, rfl, hne⟩).symm
  · -- Under any other key the map answers as before, and so does the search.
    rw [if_neg hkey]
    refine Option.ext fun u => ?_
    rw [hm]
    refine ⟨fun h => h.1, fun h => ⟨h, fun hid => hkey ?_⟩⟩
    rcases Roster.mem_of_holder? h with ⟨hmem, _, hfield, hne⟩
    rw [hs.eq_of_id hmem ht hid] at hfield
    exact ⟨hfield, by rwa [hfield]⟩

/-- A deleted tenant need not be known. -/
theorem LeadsBut.skip {t : Tenant} (hm : LeadsBut m field ts t.id) (hs : ts.Sound) (ht : t ∈ ts)
    (hactive : t.isActive = false) : Leads m field ts := by
  intro key
  refine Option.ext fun u => ?_
  rw [hm]
  refine ⟨fun h => h.1, fun h => ⟨h, fun hid => ?_⟩⟩
  rcases Roster.mem_of_holder? h with ⟨hmem, hua, _⟩
  rw [hs.eq_of_id hmem ht hid, hactive] at hua
  exact Bool.false_ne_true hua

end Fields

/-! ### Writes -/

/-- Entering a member of a sound roster completes maps that know everybody
    else on it. -/
theorem keeps_index {r : Indexed} {ts : Roster} {t : Tenant} (hs : ts.Sound) (ht : t ∈ ts)
    (hid : ∀ id, id ≠ t.id → r.byId.get? id = ts.byId? id)
    (hd : LeadsBut r.byDomain Tenant.domain ts t.id)
    (hsub : LeadsBut r.bySubdomain Tenant.subdomain ts t.id) (horder : r.order = ts.map Tenant.id) :
    (r.index t).Keeps ts := by
  have hbyId : ∀ id, (r.byId.insert t.id t).get? id = ts.byId? id := by
    intro id
    rw [Assoc.get?_insert]
    by_cases he : t.id = id
    · rw [if_pos (by simpa only [beq_iff_eq] using he)]
      exact ((hs.byId?_eq_some_iff id t).mpr ⟨ht, he⟩).symm
    · rw [if_neg (by simpa only [beq_iff_eq] using he)]
      exact hid id (Ne.symm he)
  rw [index]
  -- A deleted record is entered by its id only.
  by_cases hactive : t.isActive = true
  · rw [if_pos hactive]
    exact ⟨hbyId, hd.claim hs Roster.isKeyField_domain ht hactive,
      hsub.claim hs Roster.isKeyField_subdomain ht hactive, horder⟩
  · rw [if_neg hactive]
    rw [Bool.not_eq_true] at hactive
    exact ⟨hbyId, hd.skip hs ht hactive, hsub.skip hs ht hactive, horder⟩

/-- The check of a record's keys does not depend on whether the record is in
    its stored form. -/
theorem checkKeys_normalised {r : Indexed} {ts : Roster} (h : r.Keeps ts) (hs : ts.Sound)
    {t : Tenant} (hid : t.id ≠ "") : r.checkKeys t.normalised = ts.checkKeys t := by
  rw [checkKeys_eq h hs (show t.normalised.id ≠ "" from hid), Roster.checkKeys, Roster.checkKeys,
    t.secondaryKeys_normalised]
  rfl

theorem keeps_append {r : Indexed} {ts : Roster} (h : r.Keeps ts) (hs : ts.Sound) {t : Tenant}
    (hnew : ∀ u ∈ ts, u.id ≠ t.id) (hs' : Roster.Sound (ts ++ [t])) :
    ({ r with order := r.order ++ [t.id] }.index t).Keeps (ts ++ [t]) := by
  refine keeps_index hs' (List.mem_append_right ts List.mem_cons_self) (fun id hid => ?_)
    (h.byDomain.append hs hs' Roster.isKeyField_domain hnew)
    (h.bySubdomain.append hs hs' Roster.isKeyField_subdomain hnew) ?_
  · rw [h.byId, Roster.byId?, Roster.byId?, List.find?_append, List.find?_singleton,
      if_neg (by simpa only [beq_iff_eq] using Ne.symm hid), Option.or_none]
  · rw [h.order, List.map_append, List.map_singleton]

/-- Adding a tenant to the maps adds it to the roster. -/
theorem create_agree {r : Indexed} {ts : Roster} (h : r.Keeps ts) (hs : ts.Sound) (t : Tenant) :
    Agree Keeps (r.create t) (ts.create t) := by
  rw [create, Roster.create]
  cases hcheck : t.check with
  | error f => rfl
  | ok u =>
      have hkeys : r.checkKeys t.normalised = ts.checkKeys t :=
        checkKeys_normalised h hs (Tenant.id_ne_empty hcheck)
      have htaken : r.byId.contains t.normalised.id = (ts.byId? t.id).isSome := by
        rw [Assoc.contains, h.byId]
        rfl
      simp only [bind, Except.bind, hkeys, htaken]
      cases hid : ts.byId? t.id with
      | some existing => exact rfl
      | none =>
          cases hpass : ts.checkKeys t with
          | error f => exact rfl
          | ok u =>
              -- The write went through, so the roster after it is sound as well.
              have hs' : Roster.Sound (ts ++ [t.normalised]) :=
                hs.create ((Roster.create_eq_ok_iff _ _ _).mpr ⟨hcheck, hid, hpass, rfl⟩)
              exact keeps_append h hs ((Roster.byId?_eq_none_iff ts t.id).mp hid) hs'

theorem keeps_replace {r : Indexed} {ts : Roster} (h : r.Keeps ts) (hs : ts.Sound) {e new : Tenant}
    {id : String} (he : e ∈ ts) (hactive : e.isActive = true) (heid : e.id = id)
    (hid : new.id = id) (hs' : (ts.replace id new).Sound) :
    ((r.unindex e).index new).Keeps (ts.replace id new) := by
  subst heid
  have hmem : new ∈ ts.replace e.id new :=
    (Roster.mem_replace_iff ts e.id new new).mpr (Or.inr ⟨rfl, e, he, rfl⟩)
  refine keeps_index hs' hmem (fun id hne => ?_) ?_ ?_ ?_
  · -- By id: every id but the replaced one leads where it led.
    refine Option.ext fun u => ?_
    rw [show (r.unindex e).byId = r.byId from rfl, h.byId, hs.byId?_eq_some_iff,
      hs'.byId?_eq_some_iff, Roster.mem_replace_iff]
    constructor
    · rintro ⟨hu, huid⟩
      exact ⟨Or.inl ⟨hu, fun hc => hne (by rw [← huid, hc, hid])⟩, huid⟩
    · rintro ⟨⟨hu, _⟩ | ⟨hnew, _⟩, huid⟩
      · exact ⟨hu, huid⟩
      · exact absurd (by rw [← huid, hnew]) hne
  · -- The old record gives up its keys, is replaced, and the new one claims its own.
    rw [hid]
    exact (h.byDomain.release hs Roster.isKeyField_domain he hactive).replace hs hid hs'
      Roster.isKeyField_domain
  · rw [hid]
    exact (h.bySubdomain.release hs Roster.isKeyField_subdomain he hactive).replace hs hid hs'
      Roster.isKeyField_subdomain
  · rw [show (r.unindex e).order = r.order from rfl, h.order, Roster.map_id_replace ts hid]

/-- Replacing a tenant in the maps replaces it on the roster. -/
theorem update_agree {r : Indexed} {ts : Roster} (h : r.Keeps ts) (hs : ts.Sound) (t : Tenant) :
    Agree Keeps (r.update t) (ts.update t) := by
  rw [update, Roster.update, activeById?_eq h, show t.normalised.id = t.id from rfl]
  cases hex : ts.activeById? t.id with
  | none => exact rfl
  | some e =>
      rcases Roster.mem_of_activeById? hex with ⟨he, hid, hactive⟩
      have hne : t.id ≠ "" := by
        rw [← hid]
        exact Tenant.id_ne_empty (hs.checked e he)
      simp only [bind, Except.bind, checkKeys_normalised h hs hne]
      cases hpass : ts.checkKeys t with
      | error f => exact rfl
      | ok u =>
          -- The write went through, so the roster after it is sound as well.
          have hs' : (ts.replace t.id (Roster.successor e t)).Sound :=
            hs.update ((Roster.update_eq_ok_iff _ _ _).mpr ⟨e, hex, hpass, rfl⟩)
          have hsuccessor : (Roster.successor e t).id = t.id := rfl
          exact keeps_replace h hs he hactive hid hsuccessor hs'

/-- Deleting a tenant in the maps deletes it on the roster. -/
theorem softDelete_agree {r : Indexed} {ts : Roster} (h : r.Keeps ts) (hs : ts.Sound) (id : String)
    (now : Timestamp) : Agree Keeps (r.softDelete id now) (ts.softDelete id now) := by
  rw [softDelete, Roster.softDelete, h.byId]
  cases hex : ts.byId? id with
  | none => exact rfl
  | some e =>
      rcases Roster.mem_of_byId? hex with ⟨he, hid⟩
      -- A deleted tenant has no keys to give up, and nothing is done.
      by_cases hactive : e.isActive = true
      · have hs' : (ts.replace id (Roster.buried e now)).Sound :=
          hs.softDelete ((Roster.softDelete_eq_ok_iff _ _ _ _).mpr
            ⟨e, hex, by rw [if_pos hactive]⟩)
        have hburied : (Roster.buried e now).id = id := hid
        simp only [hactive, if_true]
        exact keeps_replace h hs he hactive hid hburied hs'
      · simp only [hactive]
        exact h

end Indexed

end Multitenancy
