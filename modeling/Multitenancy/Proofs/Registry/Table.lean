import Multitenancy.Proofs.Registry.Lookup
import Multitenancy.Registry.Table
/-!
# The Registry in a Database Keeps a Roster

The rows of the table are the records of a roster, one for one and in order,
and every operation does on the rows what it does on the roster.

A row that the table wrote decodes to the record that was written, so no read
of a kept roster fails. A search of the rows is the search of the roster, row
by row.

Where a query may return any one of several rows, the table fixes which one.
`Determined` says that the choice is none: whatever row a query for a claimant
returns has the same id, and whatever row of least rank a look-up returns is
decoded to the same record. This rests on the invariant of the roster, without
which two rows could answer.

## Main definitions

* `Table.Keeps`: The rows are the records of a roster.
* `TenantRow.answers`, `TenantRow.rank`: What a query asks of a row, and how a
  look-up orders those that pass.
* `Table.Determined`: The queries leave no choice.

## Theorems

* `decode_ofTenant`: A written row decodes to what was written.
* `find_eq`, `findById_eq`, `listAll_eq`, `list_eq`: The reads.
* `create_agree`, `update_agree`, `softDelete_agree`: The writes.
* `claimant?_eq_some_iff`, `find_eq_ok_iff`: The choice of a row is forced.
-/

namespace Multitenancy

namespace TenantRow

@[simp] theorem ofTenant_id (t : Tenant) : (ofTenant t).id = t.id := rfl

@[simp] theorem ofTenant_isActive (t : Tenant) : (ofTenant t).isActive = t.isActive := by
  rcases t with ⟨_, _, _, _, _, status, _, _, _⟩
  cases status <;> rfl

theorem ofTenant_domain {t : Tenant} (h : t.normalised = t) : (ofTenant t).domain = t.domain :=
  ((t.normalised_eq_self_iff).mp h).1

theorem ofTenant_subdomain {t : Tenant} (h : t.normalised = t) :
    (ofTenant t).subdomain = t.subdomain :=
  ((t.normalised_eq_self_iff).mp h).2

theorem ofTenant_normalised (t : Tenant) : ofTenant t.normalised = ofTenant t := by
  simp only [ofTenant, Tenant.normalised, foldKey_foldKey]

theorem times_ofTenant (t : Tenant) : (ofTenant t).times = .ok (t.createdAt, t.updatedAt) := rfl

theorem parse_name (s : Status) : Status.parse s.name = .ok s := by
  cases s <;> rfl

/-- A written row decodes to the record that was written. -/
theorem withTimes_ofTenant {t : Tenant} (h : t.normalised = t) :
    (ofTenant t).withTimes t.createdAt t.updatedAt = .ok t := by
  -- The columns that are texts are read as they are, but for the status.
  have hstatus : Status.parse (ofTenant t).status = .ok t.status := parse_name t.status
  rw [withTimes, hstatus]
  change Except.ok { t with domain := (ofTenant t).domain, subdomain := (ofTenant t).subdomain } = _
  rw [ofTenant_domain h, ofTenant_subdomain h]

theorem decode_ofTenant {t : Tenant} (h : t.normalised = t) : (ofTenant t).decode = .ok t := by
  rw [decode, times_ofTenant]
  exact withTimes_ofTenant h

end TenantRow

namespace Table

/-- The rows are the records of a roster, and the table can be read and
    written. -/
structure Keeps (r : Table) (ts : Roster) : Prop where
  rows : r.rows = ts.map TenantRow.ofTenant
  access : r.access = .full

theorem keeps_empty : Table.empty.Keeps [] := ⟨rfl, rfl⟩

theorem ensureOpen_eq {r : Table} {ts : Roster} (h : r.Keeps ts) : r.ensureOpen = .ok () := by
  rw [ensureOpen, h.access]
  rfl

theorem ensureWritable_eq {r : Table} {ts : Roster} (h : r.Keeps ts) :
    r.ensureWritable = .ok () := by
  rw [ensureWritable, h.access]
  rfl

/-! ### Reads -/

/-- A search of the rows by a test is the search of the roster by the test of
    the records. -/
theorem find?_rows {l : List Tenant} {p : TenantRow → Bool} {q : Tenant → Bool}
    (h : ∀ t ∈ l, p (TenantRow.ofTenant t) = q t) :
    (l.map TenantRow.ofTenant).find? p = (l.find? q).map TenantRow.ofTenant := by
  induction l with
  | nil => rfl
  | cons t rest ih =>
      rw [List.forall_mem_cons] at h
      rw [List.map_cons, List.find?_cons, List.find?_cons, h.1]
      -- Either both searches stop here or both go on.
      cases q t with
      | true => rfl
      | false => exact ih h.2

theorem rowById?_eq {r : Table} {ts : Roster} (h : r.Keeps ts) (id : String) :
    r.rowById? id = (ts.byId? id).map TenantRow.ofTenant := by
  rw [rowById?, h.rows, Roster.byId?]
  exact find?_rows fun t _ => rfl

theorem findById_eq {r : Table} {ts : Roster} (h : r.Keeps ts) (hs : ts.Sound) (id : String) :
    r.findById id = ts.findById id := by
  rw [findById, ensureOpen_eq h, rowById?_eq h, Roster.findById]
  cases hid : ts.byId? id with
  | none => rfl
  | some t => exact TenantRow.decode_ofTenant (hs.folded t (Roster.mem_of_byId? hid).1)

/-- The rows of folded records are all decoded: first their times, then the
    rest. -/
theorem decodeAll_eq {l : List Tenant} (h : ∀ t ∈ l, t.normalised = t) :
    decodeAll (l.map TenantRow.ofTenant) = .ok l := by
  unfold decodeAll
  -- The first pass leaves each row with its times, the second makes the records.
  refine bind_eq_ok_iff.mpr
    ⟨l.map fun t => (TenantRow.ofTenant t, t.createdAt, t.updatedAt), ?_, ?_⟩
  · rw [List.mapM_map]
    exact mapM_eq_ok fun t _ => rfl
  · rw [List.mapM_map]
    refine (mapM_eq_ok fun t ht => ?_).trans (congrArg Except.ok (List.map_id l))
    exact TenantRow.withTimes_ofTenant (h t ht)

theorem listAll_eq {r : Table} {ts : Roster} (h : r.Keeps ts) (hs : ts.Sound) :
    r.listAll = .ok ts := by
  rw [listAll, ensureOpen_eq h, h.rows]
  exact decodeAll_eq hs.folded

theorem list_eq {r : Table} {ts : Roster} (h : r.Keeps ts) (hs : ts.Sound) :
    r.list = .ok ts.active := by
  have hrows : r.rows.filter TenantRow.isActive = ts.active.map TenantRow.ofTenant := by
    rw [h.rows, List.filter_map, Roster.active]
    exact congrArg (List.map TenantRow.ofTenant)
      (List.filter_congr fun t _ => TenantRow.ofTenant_isActive t)
  rw [list, ensureOpen_eq h, hrows]
  exact decodeAll_eq fun t ht => hs.folded t (List.mem_filter.mp ht).1

/-- The three searches of the rows, each as a search of the roster. -/
theorem answering?_eq {r : Table} {ts : Roster} (h : r.Keeps ts) (hs : ts.Sound)
    (p : String → Bool) (key lowered : String) :
    r.answering? (fun row => p row.id) key lowered =
      ((ts.find? fun t => t.isActive && p t.id && t.id == key).or
        ((ts.find? fun t => t.isActive && p t.id && t.domain == lowered).or
          (ts.find? fun t => t.isActive && p t.id && t.subdomain == lowered))).map
        TenantRow.ofTenant := by
  -- Each of the three goes through the active rows that pass the test of the id.
  have hfind : ∀ (p' : TenantRow → Bool) (q : Tenant → Bool),
      (∀ t ∈ ts, p' (TenantRow.ofTenant t) = q t) →
      (r.rows.filter fun row => row.isActive && p row.id).find? p' =
        (ts.find? fun t => t.isActive && p t.id && q t).map TenantRow.ofTenant := by
    intro p' q hp
    rw [List.find?_filter, h.rows]
    refine find?_rows fun t ht => ?_
    rw [hp t ht, TenantRow.ofTenant_isActive, TenantRow.ofTenant_id, Bool.decide_and,
      Bool.decide_eq_true, Bool.decide_eq_true]
  have hid := hfind (fun row => row.id == key) (fun t => t.id == key) fun t _ => rfl
  have hdomain := hfind (fun row => row.domain == lowered) (fun t => t.domain == lowered)
    fun t ht => by rw [TenantRow.ofTenant_domain (hs.folded t ht)]
  have hsubdomain := hfind (fun row => row.subdomain == lowered) (fun t => t.subdomain == lowered)
    fun t ht => by rw [TenantRow.ofTenant_subdomain (hs.folded t ht)]
  rw [answering?, hid, hdomain, hsubdomain, Option.map_or, Option.map_or]

/-- A search by id among the active tenants is the search of an active tenant
    by its id, since no two tenants have one id. -/
theorem find?_activeById {ts : Roster} (hs : ts.Sound) (id : String) :
    (ts.find? fun t => t.isActive && t.id == id) = ts.activeById? id := by
  cases hid : ts.activeById? id with
  | some t =>
      rcases Roster.mem_of_activeById? hid with ⟨hmem, htid, hactive⟩
      -- Any active tenant with this id would be this one.
      refine Roster.find?_eq_some_of_unique hmem
        (by simp only [hactive, htid, Bool.true_and, beq_self_eq_true]) fun u hu hp => ?_
      simp only [Bool.and_eq_true, beq_iff_eq] at hp
      exact hs.eq_of_id hu hmem (hp.2.trans htid.symm)
  | none =>
      refine List.find?_eq_none.mpr fun t ht hp => ?_
      simp only [Bool.and_eq_true, beq_iff_eq] at hp
      rw [(hs.activeById?_eq_some_iff id t).mpr ⟨ht, hp.2, hp.1⟩] at hid
      exact Option.some_ne_none t hid

/-- The look-up of a key that is not blank. -/
theorem answering?_eq_lookup? {r : Table} {ts : Roster} (h : r.Keeps ts) (hs : ts.Sound)
    {key : String} (hblank : Text.blankText key = false) :
    r.answering? (fun _ => true) key (foldKey key) =
      (ts.lookup? key).map TenantRow.ofTenant := by
  -- The folded key is not empty, so an empty column is never found.
  have hne : ¬(foldKey key).isEmpty = true := by
    rw [String.isEmpty_iff, foldKey_eq_empty_iff, hblank]
    exact Bool.false_ne_true
  have hsearch := answering?_eq h hs (fun _ => true) key (foldKey key)
  simp only [Bool.and_true] at hsearch
  rw [hsearch, find?_activeById hs, Roster.lookup?, Roster.holder?, Roster.holder?, if_neg hne,
    if_neg hne]

theorem find_eq {r : Table} {ts : Roster} (h : r.Keeps ts) (hs : ts.Sound) (key : String) :
    r.find key = ts.find key := by
  rw [find]
  by_cases hblank : Text.blankText key = true
  · -- Nobody answers to a blank key, so looking would not have helped.
    rw [if_pos hblank]
    have hnone : ∀ t ∈ ts, t.answersTo key = false := fun t ht => hs.not_answersTo_blank hblank ht
    exact ((hs.find_eq_error_iff key _).mpr ⟨rfl, hnone⟩).symm
  · rw [if_neg hblank, ensureOpen_eq h]
    rw [Bool.not_eq_true] at hblank
    -- The query and the search of the roster return one row, and it is decoded to its record.
    rw [answering?_eq_lookup? h hs hblank, Roster.find_eq_lookup?]
    cases hfound : ts.lookup? key with
    | none => rfl
    | some t =>
        exact TenantRow.decode_ofTenant (hs.folded t (Roster.answersTo_of_lookup? hfound).1)

/-! ### The check of routing keys -/

/-- The three searches for a claimant are the one search of the roster: on a
    key that the check asks about, they find one tenant at most. -/
theorem claimant?_eq {r : Table} {ts : Roster} (h : r.Keeps ts) (hs : ts.Sound) {key own : String}
    (hne : Text.lowerText key ≠ "") (hkey : key = own ∨ Text.lowerText key = key) :
    r.claimant? key own = ts.claimant? key own := by
  have hfound : ∀ {p : Tenant → Bool} {t : Tenant}, ts.find? p = some t → t ∈ ts ∧ p t = true :=
    fun hf => ⟨List.mem_of_find?_eq_some hf, List.find?_some hf⟩
  have hsearch : (ts.find? fun t => t.isActive && t.id != own && t.id == key).or
      ((ts.find? fun t => t.isActive && t.id != own && t.domain == Text.lowerText key).or
        (ts.find? fun t => t.isActive && t.id != own && t.subdomain == Text.lowerText key)) =
      ts.find? (Roster.claims key own) := by
    refine Roster.or_eq_find? (fun t ht => ?_) (fun t ht hq => ?_)
      (fun t ht u hu htc huc => hs.claims_unique hkey ht hu htc huc)
    · -- Whoever is found by one of them claims the key.
      rw [Roster.claims_iff, Tenant.holds_iff]
      rcases ht with ht | ht | ht <;> rcases hfound ht with ⟨hmem, hp⟩ <;>
        simp only [Bool.and_eq_true, bne_iff_ne, ne_eq, beq_iff_eq] at hp
      · exact ⟨hmem, hp.1.1, hp.1.2, Or.inl hp.2⟩
      · exact ⟨hmem, hp.1.1, hp.1.2, Or.inr ⟨hne, Or.inl hp.2⟩⟩
      · exact ⟨hmem, hp.1.1, hp.1.2, Or.inr ⟨hne, Or.inr hp.2⟩⟩
    · -- Whoever claims the key makes one of them find somebody.
      rw [Roster.claims_iff, Tenant.holds_iff] at hq
      simp only [ne_eq, List.find?_eq_none, not_forall, Bool.and_eq_true, bne_iff_ne, beq_iff_eq,
        not_not]
      rcases hq with ⟨hactive, hown, hid | ⟨_, hd | hsub⟩⟩
      · exact Or.inl ⟨t, ht, ⟨hactive, hown⟩, hid⟩
      · exact Or.inr (Or.inl ⟨t, ht, ⟨hactive, hown⟩, hd⟩)
      · exact Or.inr (Or.inr ⟨t, ht, ⟨hactive, hown⟩, hsub⟩)
  rw [claimant?, answering?_eq h hs (fun id => id != own), hsearch, Option.map_map,
    Roster.claimant?]
  rfl

theorem checkKeys_eq_forM (r : Table) (t : Tenant) :
    r.checkKeys t = (t.id :: t.secondaryKeys).forM fun key =>
      Roster.verdict key (r.claimant? key t.id) := rfl

theorem checkKeys_eq {r : Table} {ts : Roster} (h : r.Keeps ts) (hs : ts.Sound) {t : Tenant}
    (hid : t.id ≠ "") : r.checkKeys t = ts.checkKeys t := by
  rw [checkKeys_eq_forM, Roster.checkKeys]
  refine forM_congr fun key hkey => ?_
  have hne : Text.lowerText key ≠ "" :=
    fun hlow => Roster.key_ne_empty hid hkey ((lowerText_eq_empty_iff key).mp hlow)
  rw [claimant?_eq h hs hne (Roster.key_of_record hkey)]

/-! ### Writes -/

/-- Changing the row with an id replaces the record with that id, when the row
    becomes the row of the new record. -/
theorem keeps_changeRow {r : Table} {ts : Roster} (h : r.Keeps ts) {id : String} {new : Tenant}
    {change : TenantRow → TenantRow}
    (hchange : ∀ u ∈ ts, u.id = id → change (TenantRow.ofTenant u) = TenantRow.ofTenant new) :
    (r.changeRow id change).Keeps (ts.replace id new) := by
  refine ⟨?_, h.access⟩
  rw [changeRow, h.rows, Roster.replace, List.map_map, List.map_map]
  refine List.map_congr_left fun u hu => ?_
  -- The row with the id is changed, and every other is left.
  by_cases hid : u.id = id
  · simp only [Function.comp_apply, TenantRow.ofTenant_id, hid, beq_self_eq_true, if_true]
    exact hchange u hu hid
  · simp only [Function.comp_apply, TenantRow.ofTenant_id, beq_iff_eq, hid, if_false]

/-- Adding a row adds its record to the roster. -/
theorem create_agree {r : Table} {ts : Roster} (h : r.Keeps ts) (hs : ts.Sound) (t : Tenant) :
    Agree Keeps (r.create t) (ts.create t) := by
  rw [create, Roster.create]
  cases hcheck : t.check with
  | error f => exact rfl
  | ok u =>
      have hkeys : r.checkKeys t = ts.checkKeys t := checkKeys_eq h hs (Tenant.id_ne_empty hcheck)
      -- Both ask the same questions in the same order from here on.
      simp only [bind, Except.bind, ensureOpen_eq h, rowById?_eq h, Option.isSome_map, hkeys]
      cases hid : ts.byId? t.id with
      | some existing => exact rfl
      | none =>
          cases hpass : ts.checkKeys t with
          | error f => exact rfl
          | ok u =>
              rw [ensureWritable_eq h]
              refine ⟨?_, h.access⟩
              change r.rows ++ [TenantRow.ofTenant t] = _
              rw [h.rows, List.map_append, List.map_singleton, TenantRow.ofTenant_normalised]

/-- Changing the row of an active tenant replaces its record. The columns that
    the write leaves out are those that the record keeps. -/
theorem update_agree {r : Table} {ts : Roster} (h : r.Keeps ts) (hs : ts.Sound) (t : Tenant) :
    Agree Keeps (r.update t) (ts.update t) := by
  -- The status is asked of the row that was found, as it is of the record.
  have hrow : (r.rowById? t.id).filter TenantRow.isActive =
      (ts.activeById? t.id).map TenantRow.ofTenant := by
    rw [rowById?_eq h, Roster.activeById?]
    cases ts.byId? t.id with
    | none => rfl
    | some u =>
        rw [Option.map_some, Option.filter_some, Option.filter_some, TenantRow.ofTenant_isActive]
        cases u.isActive <;> rfl
  rw [update, Roster.update, ensureOpen_eq h, hrow]
  cases hex : ts.activeById? t.id with
  | none => exact rfl
  | some e =>
      rcases Roster.mem_of_activeById? hex with ⟨he, hid, hactive⟩
      have hne : t.id ≠ "" := by
        rw [← hid]
        exact Tenant.id_ne_empty (hs.checked e he)
      simp only [bind, Except.bind, Option.map_some, checkKeys_eq h hs hne]
      cases hpass : ts.checkKeys t with
      | error f => exact rfl
      | ok u =>
          rw [ensureWritable_eq h]
          refine keeps_changeRow h fun u hu huid => ?_
          -- The row with the id is that of the existing tenant.
          rw [hs.eq_of_id hu he (huid.trans hid.symm)]
          simp only [TenantRow.ofTenant, Roster.successor, Tenant.normalised, foldKey_foldKey]

/-- Marking the row of an active tenant as deleted deletes its record. -/
theorem softDelete_agree {r : Table} {ts : Roster} (h : r.Keeps ts) (hs : ts.Sound) (id : String)
    (now : Timestamp) : Agree Keeps (r.softDelete id now) (ts.softDelete id now) := by
  rw [softDelete, Roster.softDelete, ensureOpen_eq h, ensureWritable_eq h, rowById?_eq h]
  cases hex : ts.byId? id with
  | none => exact rfl
  | some e =>
      rcases Roster.mem_of_byId? hex with ⟨he, hid⟩
      simp only [bind, Except.bind, Option.map_some, TenantRow.ofTenant_isActive]
      -- The rows with this id are one row, and marking it is burying its record.
      by_cases hactive : e.isActive = true
      · rw [if_pos hactive, if_pos hactive]
        refine keeps_changeRow h fun u hu huid => ?_
        rw [hs.eq_of_id hu he (huid.trans hid.symm)]
        rfl
      · rw [if_neg hactive, if_neg hactive]
        exact h

end Table

/-! ### The choice of a row -/

namespace TenantRow

/-- Whether a row is among those that a query for a key may return. -/
def answers (row : TenantRow) (key lowered : String) : Bool :=
  row.isActive && (row.id == key || row.domain == lowered || row.subdomain == lowered)

/-- The place of a row among those that answer to a key. -/
def rank (row : TenantRow) (key lowered : String) : Nat :=
  if row.id == key then 0 else if row.domain == lowered then 1 else 2

theorem answers_ofTenant_iff {t : Tenant} (h : t.normalised = t) (key : String) {lowered : String}
    (hne : lowered ≠ "") :
    (ofTenant t).answers key lowered = true ↔
      t.isActive = true ∧ (t.id = key ∨ t.holds lowered = true) := by
  rw [Tenant.holds_iff]
  simp only [answers, ofTenant_isActive, ofTenant_id, ofTenant_domain h, ofTenant_subdomain h,
    Bool.and_eq_true, Bool.or_eq_true, beq_iff_eq, or_assoc, ne_eq, hne, not_false_eq_true,
    true_and]

end TenantRow

namespace Table

theorem mem_rows_iff {r : Table} {ts : Roster} (h : r.Keeps ts) (row : TenantRow) :
    row ∈ r.rows ↔ ∃ t ∈ ts, TenantRow.ofTenant t = row := by
  rw [h.rows, List.mem_map]

/-- A query for a claimant may return any row of another tenant that answers
    to the key. It does not matter which: the search returns the id of each
    such row, and of no other. -/
theorem claimant?_eq_some_iff {r : Table} {ts : Roster} (h : r.Keeps ts) (hs : ts.Sound)
    {t : Tenant} (hid : t.id ≠ "") {key : String} (hkey : key ∈ t.id :: t.secondaryKeys)
    (owner : String) :
    r.claimant? key t.id = some owner ↔
      ∃ row ∈ r.rows, row.answers key (Text.lowerText key) = true ∧ row.id ≠ t.id ∧
        row.id = owner := by
  have hne : Text.lowerText key ≠ "" :=
    fun hlow => Roster.key_ne_empty hid hkey ((lowerText_eq_empty_iff key).mp hlow)
  have hform : key = t.id ∨ Text.lowerText key = key := Roster.key_of_record hkey
  rw [claimant?_eq h hs hne hform, Roster.claimant?, Option.map_eq_some_iff]
  constructor
  · rintro ⟨u, hfind, rfl⟩
    -- Whom the search finds has a row, and that row answers for another tenant.
    have hu : u ∈ ts := List.mem_of_find?_eq_some hfind
    rcases (Roster.claims_iff key t.id u).mp (List.find?_some hfind) with ⟨hactive, hown, hk⟩
    exact ⟨TenantRow.ofTenant u, (mem_rows_iff h _).mpr ⟨u, hu, rfl⟩,
      (TenantRow.answers_ofTenant_iff (hs.folded u hu) key hne).mpr ⟨hactive, hk⟩, hown, rfl⟩
  · -- A row that answers is that of a claimant, and there is no second one.
    rintro ⟨row, hrow, hans, hown, rfl⟩
    rcases (mem_rows_iff h row).mp hrow with ⟨u, hu, rfl⟩
    rcases (TenantRow.answers_ofTenant_iff (hs.folded u hu) key hne).mp hans with ⟨hactive, hk⟩
    have hclaim : Roster.claims key t.id u = true :=
      (Roster.claims_iff key t.id u).mpr ⟨hactive, hown, hk⟩
    refine ⟨u, Roster.find?_eq_some_of_unique hu hclaim fun v hv hvc => ?_, rfl⟩
    exact hs.claims_unique hform hv hu hvc hclaim

/-- The row of a tenant comes after that of a tenant with the key for an id,
    and before no other row that answers to the key. -/
theorem rank_le_iff {r : Table} {ts : Roster} (h : r.Keeps ts) (hs : ts.Sound) {key : String}
    (hne : foldKey key ≠ "") {t : Tenant} (ht : t ∈ ts) (hans : t.answersTo key = true) :
    (∀ other ∈ r.rows, other.answers key (foldKey key) = true →
      (TenantRow.ofTenant t).rank key (foldKey key) ≤ other.rank key (foldKey key)) ↔
      (t.id = key ∨ ∀ u ∈ ts, u.isActive = true → u.id ≠ key) := by
  rcases (t.answersTo_iff key).mp hans with ⟨hactive, hkey⟩
  constructor
  · intro hleast
    -- The row of a tenant with the key for an id would be of lower rank.
    by_contra hfirst
    rw [not_or] at hfirst
    rcases hfirst with ⟨htid, hnobody⟩
    refine hnobody fun u hu hua huid => ?_
    have hrank := hleast (TenantRow.ofTenant u) ((mem_rows_iff h _).mpr ⟨u, hu, rfl⟩)
      ((TenantRow.answers_ofTenant_iff (hs.folded u hu) key hne).mpr ⟨hua, Or.inl huid⟩)
    unfold TenantRow.rank at hrank
    rw [TenantRow.ofTenant_id, TenantRow.ofTenant_id, huid, beq_self_eq_true, if_pos rfl,
      if_neg (by simpa only [beq_iff_eq] using htid)] at hrank
    split at hrank <;> omega
  · intro hfirst other hother hoans
    rcases (mem_rows_iff h other).mp hother with ⟨u, hu, rfl⟩
    rcases (TenantRow.answers_ofTenant_iff (hs.folded u hu) key hne).mp hoans with ⟨hua, huk⟩
    rcases hfirst with htid | hnobody
    · unfold TenantRow.rank
      rw [TenantRow.ofTenant_id, if_pos (by simpa only [beq_iff_eq] using htid)]
      exact Nat.zero_le _
    · -- Without the key for an id both hold the folded key, so they are one tenant.
      have hheld : t.holds (foldKey key) = true := hkey.resolve_left (hnobody t ht hactive)
      have huheld : u.holds (foldKey key) = true := huk.resolve_left (hnobody u hu hua)
      rw [hs.eq_of_holds ht hu hactive hua hheld huheld]

/-- A look-up may return any row of least rank that answers to the key. It
    does not matter which: the answer is what each such row is decoded to, and
    nothing else. -/
theorem find_eq_ok_iff {r : Table} {ts : Roster} (h : r.Keeps ts) (hs : ts.Sound) {key : String}
    (hblank : Text.blankText key = false) (t : Tenant) :
    r.find key = .ok t ↔
      ∃ row ∈ r.rows, row.answers key (foldKey key) = true ∧
        (∀ other ∈ r.rows, other.answers key (foldKey key) = true →
          row.rank key (foldKey key) ≤ other.rank key (foldKey key)) ∧
        row.decode = .ok t := by
  have hne : foldKey key ≠ "" := by
    rw [ne_eq, foldKey_eq_empty_iff, hblank]
    exact Bool.false_ne_true
  -- A row answers when its record does, as the stored keys are folded.
  have hanswers : ∀ u ∈ ts, (TenantRow.ofTenant u).answers key (foldKey key) = true ↔
      u.answersTo key = true := by
    intro u hu
    rw [TenantRow.answers_ofTenant_iff (hs.folded u hu) key hne, Tenant.answersTo_iff]
  rw [find_eq h hs, hs.find_eq_ok_iff]
  constructor
  · rintro ⟨ht, hans, hfirst⟩
    exact ⟨TenantRow.ofTenant t, (mem_rows_iff h _).mpr ⟨t, ht, rfl⟩, (hanswers t ht).mpr hans,
      (rank_le_iff h hs hne ht hans).mpr hfirst, TenantRow.decode_ofTenant (hs.folded t ht)⟩
  · -- The row decodes to the record that it was made of, whose rank is the least.
    rintro ⟨row, hrow, hans, hleast, hdecode⟩
    rcases (mem_rows_iff h row).mp hrow with ⟨u, hu, rfl⟩
    rw [TenantRow.decode_ofTenant (hs.folded u hu), Except.ok.injEq] at hdecode
    rw [← hdecode]
    have huans := (hanswers u hu).mp hans
    exact ⟨hu, huans, (rank_le_iff h hs hne hu huans).mp hleast⟩

/-- The queries that may return any of several rows have one answer each. -/
structure Determined (r : Table) : Prop where
  claimant : ∀ (t : Tenant) (key owner : String), t.id ≠ "" → key ∈ t.id :: t.secondaryKeys →
    (r.claimant? key t.id = some owner ↔
      ∃ row ∈ r.rows, row.answers key (Text.lowerText key) = true ∧ row.id ≠ t.id ∧
        row.id = owner)
  found : ∀ (key : String) (t : Tenant), Text.blankText key = false →
    (r.find key = .ok t ↔
      ∃ row ∈ r.rows, row.answers key (foldKey key) = true ∧
        (∀ other ∈ r.rows, other.answers key (foldKey key) = true →
          row.rank key (foldKey key) ≤ other.rank key (foldKey key)) ∧
        row.decode = .ok t)

theorem determined {r : Table} {ts : Roster} (h : r.Keeps ts) (hs : ts.Sound) : r.Determined where
  claimant := fun _ _ owner hid hkey => claimant?_eq_some_iff h hs hid hkey owner
  found := fun _ t hblank => find_eq_ok_iff h hs hblank t

end Table

end Multitenancy
