import Multitenancy.Proofs.Registry.History
/-!
# The Maps of a Registry Agree

Four structures of the registry in memory hold copies of the same records: a
map by id, one each by domain and by subdomain, and the list of ids. Each
write changes them one after the other. This is why they never disagree.

The maps keep a roster, and a roster is one list that cannot disagree with
itself. So what the maps say about one another is read off the roster that
they keep: `Keeps.coherent` does that once, for any sound roster, and
`operations_simulate` has every write lead from one such roster to the next.

Writing to the maps is written down twice. `Indexed.create` and its kin give
the maps after a write, or a fault and no maps; that a fault changes nothing
is then a matter of their type. `enact` is the same with the maps as one
place in which every single assignment stays, so that a fault would leave
behind what was assigned before it. `enact_eq` shows that there is no
difference, because all checks come before the first assignment.

## Main definitions

* `Indexed.Coherent`: The maps and the list of ids agree.
* `Indexed.enact`: A call that assigns to the maps one by one.
* `Indexed.operations`: The operations of the maps.
* `Operations.createdIds`: The ids of the creations that succeeded.

## Theorems

* `Indexed.Keeps.coherent`: Maps that keep a roster agree.
* `Indexed.enact_eq`: Assigning one by one comes to the same.
* `Indexed.coherent_after`: The maps agree after any calls.
-/

namespace Multitenancy

-- As for the roster: records are compared without unfolding stored keys.
attribute [local irreducible] foldKey

namespace Indexed

/-- The maps and the list of ids agree. A record is a tenant's when the map by
    id has it under the tenant's id. -/
structure Coherent (r : Indexed) : Prop where
  /-- A record is kept under its own id. -/
  byId : ∀ id t, r.byId.get? id = some t → t.id = id
  /-- A domain leads to the active tenant that has it, and to nobody else. -/
  byDomain : ∀ key t, r.byDomain.get? key = some t ↔
    key ≠ "" ∧ r.byId.get? t.id = some t ∧ t.isActive = true ∧ t.domain = key
  bySubdomain : ∀ key t, r.bySubdomain.get? key = some t ↔
    key ≠ "" ∧ r.byId.get? t.id = some t ∧ t.isActive = true ∧ t.subdomain = key
  /-- The list has every id of the map by id, and each once. -/
  order_nodup : r.order.Nodup
  mem_order : ∀ id, id ∈ r.order ↔ r.byId.contains id = true
  /-- A domain or subdomain of an active tenant is no other active tenant's
      domain, subdomain or id. -/
  apart : ∀ t u, r.byId.get? t.id = some t → r.byId.get? u.id = some u →
    t.isActive = true → u.isActive = true → t.id ≠ u.id →
      ∀ key ∈ [t.domain, t.subdomain], key ≠ "" → key ∉ [u.domain, u.subdomain, u.id]
  /-- Every key of an active tenant leads to it. -/
  find_key : ∀ t, r.byId.get? t.id = some t → t.isActive = true →
    ∀ key ∈ t.routingKeys, r.find key = .ok t
  /-- Whoever a key leads to is an active tenant. -/
  find_active : ∀ key t, r.find key = .ok t → r.byId.get? t.id = some t ∧ t.isActive = true

/-! ### Maps that keep a roster -/

section Reading

variable {r : Indexed} {ts : Roster}

/-- The tenants are the members of the roster. -/
theorem Keeps.get?_own_iff (h : r.Keeps ts) (hs : ts.Sound) (t : Tenant) :
    r.byId.get? t.id = some t ↔ t ∈ ts := by
  rw [h.byId, hs.byId?_eq_some_iff]
  exact and_iff_left rfl

/-- A map that leads by a field leads to the active tenants that have it. -/
theorem Keeps.leads_iff (h : r.Keeps ts) (hs : ts.Sound) {m : Assoc String Tenant}
    {field : Tenant → String} (hm : Leads m field ts) (hf : Roster.IsKeyField field)
    (key : String) (t : Tenant) :
    m.get? key = some t ↔
      key ≠ "" ∧ r.byId.get? t.id = some t ∧ t.isActive = true ∧ field t = key := by
  -- The map says this of the roster; membership is what the map by id says.
  rw [hm, hs.holder?_eq_some_iff hf, h.get?_own_iff hs]
  constructor
  · rintro ⟨hmem, hactive, hkey, hne⟩
    exact ⟨hne, hmem, hactive, hkey⟩
  · rintro ⟨hne, hmem, hactive, hkey⟩
    exact ⟨hmem, hactive, hkey, hne⟩

/-- A key of an active member finds it: nobody else has the key for an id, and
    nobody else holds it. -/
theorem Keeps.find_key (h : r.Keeps ts) (hs : ts.Sound) {t : Tenant} (ht : t ∈ ts)
    (hactive : t.isActive = true) {key : String} (hkey : key ∈ t.routingKeys) :
    r.find key = .ok t := by
  rcases (t.mem_routingKeys_iff key).mp hkey with ⟨hne, hown⟩
  rw [find_eq h, hs.find_eq_ok_iff, Tenant.answersTo_iff]
  -- A record may be found by its id as it is written, or by a field that it holds.
  by_cases hid : key = t.id
  · exact ⟨ht, ⟨hactive, Or.inl hid.symm⟩, Or.inl hid.symm⟩
  · -- A stored field is in its folded form already.
    have hheld : t.holds key = true :=
      (t.holds_iff key).mpr ⟨hne, (hown.resolve_left hid).imp Eq.symm Eq.symm⟩
    have hfold : foldKey key = key := Tenant.foldKey_of_holds (hs.folded t ht) hheld
    refine ⟨ht, ⟨hactive, Or.inr (by rwa [hfold])⟩, Or.inr fun u hu hua huid => ?_⟩
    -- Another tenant with this key for an id would hold a key of the member.
    have hapart : t.holds u.id = false :=
      (hs.apart t ht u hu hactive hua (by rw [huid]; exact Ne.symm hid)).2.1
    rw [huid, hheld] at hapart
    exact Bool.false_ne_true hapart.symm

theorem Keeps.find_active (h : r.Keeps ts) (hs : ts.Sound) {key : String} {t : Tenant}
    (hfind : r.find key = .ok t) : r.byId.get? t.id = some t ∧ t.isActive = true := by
  rw [find_eq h, hs.find_eq_ok_iff] at hfind
  exact ⟨(h.get?_own_iff hs t).mpr hfind.1, ((t.answersTo_iff key).mp hfind.2.1).1⟩

/-- Maps that keep a sound roster agree. -/
theorem Keeps.coherent (h : r.Keeps ts) (hs : ts.Sound) : r.Coherent where
  byId := by
    intro id t ht
    rw [h.byId] at ht
    exact (Roster.mem_of_byId? ht).2
  byDomain := h.leads_iff hs h.byDomain Roster.isKeyField_domain
  bySubdomain := h.leads_iff hs h.bySubdomain Roster.isKeyField_subdomain
  order_nodup := by
    rw [h.order]
    exact hs.ids
  mem_order := by
    intro id
    -- The order is that of the roster, which has the ids of its members and no others.
    rw [h.order, List.mem_map, Assoc.contains, h.byId, Option.isSome_iff_exists]
    exact exists_congr fun t => (hs.byId?_eq_some_iff id t).symm
  apart := by
    intro t u ht hu hta hua hne key hkey hkne hmem
    rw [h.get?_own_iff hs] at ht hu
    rcases hs.apart t ht u hu hta hua hne with ⟨hboth, hid, _⟩
    have hheld : t.holds key = true := by
      rw [Tenant.holds_iff]
      exact ⟨hkne, by simpa only [List.mem_cons, List.not_mem_nil, or_false, eq_comm] using hkey⟩
    simp only [List.mem_cons, List.not_mem_nil, or_false] at hmem
    -- The key would be the other's domain, its subdomain or its id.
    rcases hmem with hd | hsub | huid
    · exact hboth key hheld ((u.holds_iff key).mpr ⟨hkne, Or.inl hd.symm⟩)
    · exact hboth key hheld ((u.holds_iff key).mpr ⟨hkne, Or.inr hsub.symm⟩)
    · rw [← huid, hheld] at hid
      exact Bool.false_ne_true hid.symm
  find_key := by
    intro t ht hactive key hkey
    exact h.find_key hs ((h.get?_own_iff hs t).mp ht) hactive hkey
  find_active := fun _ _ => h.find_active hs

end Reading

/-! ### Assigning one by one -/

/-- A program on the maps in place: what it has assigned stays, also when it
    stops for a fault after that. -/
abbrev InPlace := ExceptT Fault (StateM Indexed)

/-- Take a tenant's optional keys out of their maps, one after the other. -/
def unindexInPlace (t : Tenant) : InPlace Unit := do
  modify fun r => { r with byDomain := release r.byDomain t.domain t.id }
  modify fun r => { r with bySubdomain := release r.bySubdomain t.subdomain t.id }

/-- Write a tenant into the maps, one after the other. -/
def indexInPlace (t : Tenant) : InPlace Unit := do
  if t.isActive then
    modify fun r => { r with byDomain := claim r.byDomain t.domain t }
    modify fun r => { r with bySubdomain := claim r.bySubdomain t.subdomain t }
  modify fun r => { r with byId := r.byId.insert t.id t }

/-- Add a tenant in place. -/
def createInPlace (t : Tenant) : InPlace Unit := do
  ofExcept t.check
  let t := t.normalised
  if (← get).byId.contains t.id then throw (.idTaken t.id)
  ofExcept ((← get).checkKeys t)
  modify fun r => { r with order := r.order ++ [t.id] }
  indexInPlace t

/-- Replace an active tenant in place. -/
def updateInPlace (t : Tenant) : InPlace Unit := do
  let t := t.normalised
  match (← get).activeById? t.id with
  | none => throw (.unknownTenant t.id)
  | some existing =>
    ofExcept ((← get).checkKeys t)
    unindexInPlace existing
    indexInPlace { t with status := existing.status, createdAt := existing.createdAt }

/-- Delete a tenant in place. -/
def softDeleteInPlace (id : String) (now : Timestamp) : InPlace Unit := do
  match (← get).byId.get? id with
  | none => throw (.unknownTenant id)
  | some existing =>
    if existing.isActive then
      unindexInPlace existing
      indexInPlace { existing with status := .deleted, updatedAt := now }

/-- A call on the maps in place, and the reply to it. -/
def enact (now : Timestamp) : RegistryCall → StateM Indexed RegistryReply
  | .create t => RegistryReply.written <$> (createInPlace t).run
  | .update t => RegistryReply.written <$> (updateInPlace t).run
  | .softDelete id => RegistryReply.written <$> (softDeleteInPlace id now).run
  | .find key => do return .tenant ((← get).find key)
  | .findById id => do return .tenant ((← get).findById id)
  | .list => do return .tenants (.ok (← get).list)
  | .listAll => do return .tenants (.ok (← get).listAll)

/-- The operations of the maps. -/
def operations : Operations Indexed where
  create := Indexed.create
  update := Indexed.update
  softDelete := Indexed.softDelete
  find := Indexed.find
  findById := Indexed.findById
  list := fun r => .ok r.list
  listAll := fun r => .ok r.listAll

/-- How a write ends: with the maps after it, or with a fault and the maps
    before it. -/
def settled (r : Indexed) : Except Fault Indexed → Except Fault Unit × Indexed
  | .ok r' => (.ok (), r')
  | .error f => (.error f, r)

theorem run_unindexInPlace (t : Tenant) (r : Indexed) :
    (unindexInPlace t).run.run r = (.ok (), r.unindex t) := rfl

theorem run_indexInPlace (t : Tenant) (r : Indexed) :
    (indexInPlace t).run.run r = (.ok (), r.index t) := by
  rw [indexInPlace, index]
  cases t.isActive <;> rfl

theorem run_createInPlace (t : Tenant) (r : Indexed) :
    (createInPlace t).run.run r = settled r (r.create t) := by
  -- The maps are assigned to only when every check has passed.
  rw [createInPlace, create, run_bind, run_ofExcept]
  cases t.check with
  | error f => rfl
  | ok u =>
      simp only [run_bind, run_get]
      cases htaken : r.byId.contains t.normalised.id with
      | true => rfl
      | false =>
          simp only [run_bind, run_get, run_ofExcept, Bool.false_eq_true, if_false]
          cases hkeys : r.checkKeys t.normalised with
          | error f => rfl
          | ok u => exact run_indexInPlace _ _

theorem run_updateInPlace (t : Tenant) (r : Indexed) :
    (updateInPlace t).run.run r = settled r (r.update t) := by
  rw [updateInPlace, update, run_bind, run_get]
  dsimp only
  cases r.activeById? t.normalised.id with
  | none => rfl
  | some existing =>
      simp only [run_bind, run_get, run_ofExcept, run_unindexInPlace, run_indexInPlace]
      cases r.checkKeys t.normalised <;> rfl

theorem run_softDeleteInPlace (id : String) (now : Timestamp) (r : Indexed) :
    (softDeleteInPlace id now).run.run r = settled r (r.softDelete id now) := by
  rw [softDeleteInPlace, softDelete, run_bind, run_get]
  dsimp only
  cases r.byId.get? id with
  | none => rfl
  | some existing =>
      -- A record that is deleted already is left as it is.
      by_cases hactive : existing.isActive = true
      · simp only [hactive, if_true, run_bind, run_unindexInPlace, run_indexInPlace]
        rfl
      · simp only [hactive]
        rfl

/-- A settled write is answered as the write that gives the maps after it. -/
theorem written_settled (r : Indexed) (x : Except Fault Indexed) :
    (RegistryReply.written (settled r x).1, (settled r x).2) = Operations.written r x := by
  cases x <;> rfl

/-- Assigning to the maps one by one comes to the same reply and the same maps
    as making them in one go. -/
theorem enact_eq (now : Timestamp) (c : RegistryCall) (r : Indexed) :
    (enact now c).run r = operations.answer now r c := by
  -- A write is run and its outcome taken for the reply; reads assign nothing.
  have hrun : ∀ p : InPlace Unit, (RegistryReply.written <$> p.run : StateM Indexed _).run r =
      (.written (p.run.run r).1, (p.run.run r).2) := fun _ => rfl
  cases c with
  | create t =>
      rw [enact, hrun, run_createInPlace]
      exact written_settled r _
  | update t =>
      rw [enact, hrun, run_updateInPlace]
      exact written_settled r _
  | softDelete id =>
      rw [enact, hrun, run_softDeleteInPlace]
      exact written_settled r _
  | find key => rfl
  | findById id => rfl
  | list => rfl
  | listAll => rfl

/-- A write that stops for a fault has assigned nothing. -/
theorem enact_error {now : Timestamp} {c : RegistryCall} {r : Indexed} {f : Fault}
    (h : ((enact now c).run r).1 = .written (.error f)) : ((enact now c).run r).2 = r := by
  -- Only a write has such a reply, and a write that made new maps has another.
  have hwritten : ∀ x : Except Fault Indexed,
      (Operations.written r x).1 = .written (.error f) → (Operations.written r x).2 = r := by
    intro x hx
    cases x with
    | ok r' => exact absurd hx (by simp only [Operations.written, RegistryReply.written.injEq,
        reduceCtorEq, not_false_eq_true])
    | error g => rfl
  rw [enact_eq] at h ⊢
  cases c with
  | create t => exact hwritten _ h
  | update t => exact hwritten _ h
  | softDelete id => exact hwritten _ h
  | find key => rfl
  | findById id => rfl
  | list => rfl
  | listAll => rfl

end Indexed

/-! ### Any calls -/

/-- The id of a record that a call has created. -/
def RegistryCall.createdId : RegistryCall → RegistryReply → List String
  | .create t, .written (.ok ()) => [t.id]
  | _, _ => []

/-- The ids of the records that calls have created, one after the other. -/
def Operations.createdIds {σ : Type} (ops : Operations σ) :
    σ → List (Timestamp × RegistryCall) → List String
  | _, [] => []
  | s, (now, c) :: rest =>
    c.createdId (ops.answer now s c).1 ++ ops.createdIds (ops.answer now s c).2 rest

/-- Related states create the same tenants. -/
theorem Simulates.createdIds_eq {σ τ : Type} {R : σ → τ → Prop} {ops : Operations σ}
    {spec : Operations τ} (h : Simulates R ops spec) (calls : List (Timestamp × RegistryCall))
    {s : σ} {u : τ} (hR : R s u) : ops.createdIds s calls = spec.createdIds u calls := by
  induction calls generalizing s u with
  | nil => rfl
  | cons call rest ih =>
      rcases call with ⟨now, c⟩
      rcases h.answer now hR c with ⟨hreply, hnext⟩
      rw [Operations.createdIds, Operations.createdIds, hreply, ih hnext]

namespace Roster

/-- A call adds the id of the record that it creates at the end. -/
theorem map_id_answer (now : Timestamp) (ts : Roster) (c : RegistryCall) :
    (operations.answer now ts c).2.map Tenant.id =
      ts.map Tenant.id ++ c.createdId (operations.answer now ts c).1 := by
  -- Only a creation adds an id, and it adds it at the end.
  cases c with
  | create t =>
      change (Operations.written ts (ts.create t)).2.map Tenant.id =
        ts.map Tenant.id ++
          (RegistryCall.create t).createdId (Operations.written ts (ts.create t)).1
      cases hc : ts.create t with
      | error f => exact (List.append_nil _).symm
      | ok us =>
          rcases (create_eq_ok_iff ts us t).mp hc with ⟨_, _, _, rfl⟩
          exact List.map_append
  | update t =>
      change (Operations.written ts (ts.update t)).2.map Tenant.id = ts.map Tenant.id ++ []
      rw [List.append_nil]
      cases hc : ts.update t with
      | error f => rfl
      | ok us =>
          -- The record that is put in has the id of the one that it replaces.
          rcases (update_eq_ok_iff ts us t).mp hc with ⟨existing, _, _, rfl⟩
          exact map_id_replace ts rfl
  | softDelete id =>
      change (Operations.written ts (ts.softDelete id now)).2.map Tenant.id = ts.map Tenant.id ++ []
      rw [List.append_nil]
      cases hc : ts.softDelete id now with
      | error f => rfl
      | ok us =>
          rcases (softDelete_eq_ok_iff ts us id now).mp hc with ⟨existing, hex, rfl⟩
          simp only [Operations.written]
          -- Whether the record is marked or was deleted before, the ids stay.
          split
          · exact map_id_replace ts (mem_of_byId? hex).2
          · rfl
  | find key => exact (List.append_nil _).symm
  | findById id => exact (List.append_nil _).symm
  | list => exact (List.append_nil _).symm
  | listAll => exact (List.append_nil _).symm

/-- After any calls the ids are those before them and the ones created, in the
    order of creation. -/
theorem map_id_after (calls : List (Timestamp × RegistryCall)) (ts : Roster) :
    (operations.after ts calls).map Tenant.id =
      ts.map Tenant.id ++ operations.createdIds ts calls := by
  induction calls generalizing ts with
  | nil => exact (List.append_nil _).symm
  | cons call rest ih =>
      rcases call with ⟨now, c⟩
      rw [Operations.after, Operations.createdIds, ih, map_id_answer, List.append_assoc]

end Roster

namespace Indexed

/-- The maps do what their roster does, call by call. -/
theorem operations_simulate :
    Simulates (fun r ts => r.Keeps ts ∧ ts.Sound) operations Roster.operations where
  create := by
    -- That the roster stays sound is its own affair; that the maps follow it is what was proved for
    -- each write.
    rintro r ts ⟨hk, hs⟩ t
    exact (create_agree hk hs t).and_right fun us => hs.create
  update := by
    rintro r ts ⟨hk, hs⟩ t
    exact (update_agree hk hs t).and_right fun us => hs.update
  softDelete := by
    rintro r ts ⟨hk, hs⟩ id now
    exact (softDelete_agree hk hs id now).and_right fun us => hs.softDelete
  find := fun h key => find_eq h.1 key
  findById := fun h id => findById_eq h.1 id
  list := fun h => congrArg Except.ok (list_eq h.1 h.2)
  listAll := fun h => congrArg Except.ok (listAll_eq h.1 h.2)

/-- After any calls on a registry in memory without tenants the maps agree,
    and the list has the ids in the order of their creation. Whatever call
    comes next, assigned map by map it leaves the maps where the operation as
    a whole leaves them, and all as they were when it replies with a fault. -/
theorem coherent_after (calls : List (Timestamp × RegistryCall)) :
    (operations.after .empty calls).Coherent ∧
      (operations.after .empty calls).order = operations.createdIds .empty calls ∧
      ∀ now c, (enact now c).run (operations.after .empty calls) =
          operations.answer now (operations.after .empty calls) c ∧
        ∀ f, ((enact now c).run (operations.after .empty calls)).1 = .written (.error f) →
          ((enact now c).run (operations.after .empty calls)).2 =
            operations.after .empty calls := by
  have hempty : Indexed.empty.Keeps [] ∧ Roster.Sound [] := ⟨keeps_empty, Roster.Sound.nil⟩
  rcases operations_simulate.after calls hempty with ⟨hkeeps, hs⟩
  refine ⟨hkeeps.coherent hs, ?_, fun now c => ⟨enact_eq now c _, fun f => enact_error⟩⟩
  -- The ids in the order of creation are those of the roster, so both sides count alike.
  rw [hkeeps.order, Roster.map_id_after, operations_simulate.createdIds_eq calls hempty]
  rfl

end Indexed

end Multitenancy
