import Multitenancy.Proofs.Registry.Indexed
import Multitenancy.Proofs.Registry.Table
import Multitenancy.Registry.Basic
/-!
# Histories of a Registry

A registry as its callers see it: something that takes calls one after the
other and replies to each.

`Operations` is what a registry can be asked to do, on states of any kind, so
that a store and a roster are run by the same definitions. One relation
between their states is enough to compare all their runs: if every operation
replies alike on related states and leaves related states behind, then so does
every sequence of calls. `Store.keeps_simulates` shows this of a store and the
roster it keeps, whichever way the store keeps it.

Each call comes with what the wall clock shows, since a deletion is stamped.

## Main definitions

* `Operations`: The operations of a registry.
* `RegistryCall`, `RegistryReply`: Calls and their replies.
* `Operations.replies`, `Operations.after`: A run.
* `Simulates`: Every operation does the same on related states.
* `Store.Keeps`: A store keeps a roster.
* `Store.Reachable`: A store comes about by calls.

## Theorems

* `Simulates.replies_eq`: Related states reply alike for ever.
* `Simulates.after`: A run leads to related states.
* `Store.keeps_simulates`: A store does what its roster does.
* `Store.keeps_after`: After any run a store keeps a sound roster.
* `Store.replies_indexed_eq_table`: No caller can tell the two kinds of store
  apart.
-/

namespace Multitenancy

/-- What a registry can be asked to do. A write gives the state after it, or a
    fault and then the state stays. -/
structure Operations (σ : Type) where
  create : σ → Tenant → Except Fault σ
  update : σ → Tenant → Except Fault σ
  softDelete : σ → String → Timestamp → Except Fault σ
  find : σ → String → Except Fault Tenant
  findById : σ → String → Except Fault Tenant
  list : σ → Except Fault (List Tenant)
  listAll : σ → Except Fault (List Tenant)

/-- A call to a registry. -/
inductive RegistryCall where
  | create (t : Tenant)
  | update (t : Tenant)
  | softDelete (id : String)
  | find (key : String)
  | findById (id : String)
  | list
  | listAll
  deriving DecidableEq, Repr

/-- What a registry replies. -/
inductive RegistryReply where
  | written (r : Except Fault Unit)
  | tenant (r : Except Fault Tenant)
  | tenants (r : Except Fault (List Tenant))

namespace Operations

variable {σ : Type}

/-- The reply to a write, and the state after it. -/
def written (s : σ) : Except Fault σ → RegistryReply × σ
  | .ok s' => (.written (.ok ()), s')
  | .error f => (.written (.error f), s)

/-- The reply to a call, and the state after it. -/
def answer (ops : Operations σ) (now : Timestamp) (s : σ) : RegistryCall → RegistryReply × σ
  | .create t => written s (ops.create s t)
  | .update t => written s (ops.update s t)
  | .softDelete id => written s (ops.softDelete s id now)
  | .find key => (.tenant (ops.find s key), s)
  | .findById id => (.tenant (ops.findById s id), s)
  | .list => (.tenants (ops.list s), s)
  | .listAll => (.tenants (ops.listAll s), s)

/-- The replies to calls that come one after the other, each at a time. -/
def replies (ops : Operations σ) : σ → List (Timestamp × RegistryCall) → List RegistryReply
  | _, [] => []
  | s, (now, c) :: rest => (ops.answer now s c).1 :: ops.replies (ops.answer now s c).2 rest

/-- The state after calls that come one after the other. -/
def after (ops : Operations σ) : σ → List (Timestamp × RegistryCall) → σ
  | s, [] => s
  | s, (now, c) :: rest => ops.after (ops.answer now s c).2 rest

end Operations

/-- The operations of a store. -/
def Store.operations : Operations Store where
  create := Store.create
  update := Store.update
  softDelete := Store.softDelete
  find := Store.find
  findById := Store.findById
  list := Store.list
  listAll := Store.listAll

/-- The operations of a roster. -/
def Roster.operations : Operations Roster where
  create := Roster.create
  update := Roster.update
  softDelete := Roster.softDelete
  find := Roster.find
  findById := Roster.findById
  list := fun ts => .ok ts.active
  listAll := fun ts => .ok ts

/-! ### Runs on related states -/

/-- Every operation does the same on related states: a write stops for the
    same fault or leads to related states, a read gives the same answer. -/
structure Simulates {σ τ : Type} (R : σ → τ → Prop) (ops : Operations σ) (spec : Operations τ) :
    Prop where
  create : ∀ {s u}, R s u → ∀ t, Agree R (ops.create s t) (spec.create u t)
  update : ∀ {s u}, R s u → ∀ t, Agree R (ops.update s t) (spec.update u t)
  softDelete : ∀ {s u}, R s u → ∀ id now,
    Agree R (ops.softDelete s id now) (spec.softDelete u id now)
  find : ∀ {s u}, R s u → ∀ key, ops.find s key = spec.find u key
  findById : ∀ {s u}, R s u → ∀ id, ops.findById s id = spec.findById u id
  list : ∀ {s u}, R s u → ops.list s = spec.list u
  listAll : ∀ {s u}, R s u → ops.listAll s = spec.listAll u

namespace Simulates

variable {σ τ : Type} {R : σ → τ → Prop} {ops : Operations σ} {spec : Operations τ}

/-- A write that agrees gets the same reply and leads to related states. -/
theorem written {s : σ} {u : τ} (hR : R s u) {x : Except Fault σ} {y : Except Fault τ}
    (h : Agree R x y) :
    (Operations.written s x).1 = (Operations.written u y).1 ∧
      R (Operations.written s x).2 (Operations.written u y).2 := by
  cases hy : y with
  | ok u' =>
      rcases h.ok_right hy with ⟨s', rfl, hR'⟩
      exact ⟨rfl, hR'⟩
  -- A write that fails leaves both states as they were.
  | error f =>
      rw [h.error_right hy]
      exact ⟨rfl, hR⟩

theorem answer (h : Simulates R ops spec) (now : Timestamp) {s : σ} {u : τ} (hR : R s u)
    (c : RegistryCall) :
    (ops.answer now s c).1 = (spec.answer now u c).1 ∧
      R (ops.answer now s c).2 (spec.answer now u c).2 := by
  -- Writes carry the relation on; reads are answered alike and change nothing.
  cases c with
  | create t => exact written hR (h.create hR t)
  | update t => exact written hR (h.update hR t)
  | softDelete id => exact written hR (h.softDelete hR id now)
  | find key => exact ⟨congrArg RegistryReply.tenant (h.find hR key), hR⟩
  | findById id => exact ⟨congrArg RegistryReply.tenant (h.findById hR id), hR⟩
  | list => exact ⟨congrArg RegistryReply.tenants (h.list hR), hR⟩
  | listAll => exact ⟨congrArg RegistryReply.tenants (h.listAll hR), hR⟩

/-- Related states give the same replies to every sequence of calls. -/
theorem replies_eq (h : Simulates R ops spec) (calls : List (Timestamp × RegistryCall)) {s : σ}
    {u : τ} (hR : R s u) : ops.replies s calls = spec.replies u calls := by
  induction calls generalizing s u with
  | nil => rfl
  | cons call rest ih =>
      rcases call with ⟨now, c⟩
      -- The first replies agree, and the rest is a run on related states again.
      rcases h.answer now hR c with ⟨hreply, hnext⟩
      rw [Operations.replies, Operations.replies, hreply, ih hnext]

/-- Every sequence of calls leads from related states to related states. -/
theorem after (h : Simulates R ops spec) (calls : List (Timestamp × RegistryCall)) {s : σ} {u : τ}
    (hR : R s u) : R (ops.after s calls) (spec.after u calls) := by
  induction calls generalizing s u with
  | nil => exact hR
  | cons call rest ih =>
      rcases call with ⟨now, c⟩
      exact ih (h.answer now hR c).2

end Simulates

/-! ### A store and its roster -/

namespace Store

/-- A store keeps a roster, in whichever way it does. -/
def Keeps : Store → Roster → Prop
  | .indexed r, ts => r.Keeps ts
  | .table r, ts => r.Keeps ts

/-- A store keeps a roster on which the invariant holds. -/
def KeepsSound (s : Store) (ts : Roster) : Prop :=
  s.Keeps ts ∧ ts.Sound

/-- A store without tenants, of either kind. -/
def IsNew (s : Store) : Prop :=
  s = .indexed .empty ∨ s = .table .empty

theorem IsNew.keepsSound {s : Store} (h : s.IsNew) : s.KeepsSound [] := by
  rcases h with rfl | rfl
  · exact ⟨Indexed.keeps_empty, Roster.Sound.nil⟩
  · exact ⟨Table.keeps_empty, Roster.Sound.nil⟩

/-- Writes that agree on what is kept agree on the stores. -/
theorem agree_map {σ : Type} {make : σ → Store} {R : σ → Roster → Prop}
    (hmake : ∀ r ts, R r ts → (make r).Keeps ts) {x : Except Fault σ} {y : Except Fault Roster}
    (h : Agree R x y) (hsound : ∀ ts, y = .ok ts → ts.Sound) :
    Agree KeepsSound (x.map make) y := by
  -- The outcome on the roster decides, and the store follows it.
  cases hy : y with
  | ok ts =>
      rcases h.ok_right hy with ⟨r, rfl, hR⟩
      exact ⟨hmake r ts hR, hsound ts hy⟩
  | error f =>
      rw [h.error_right hy]
      exact rfl

/-- A store does what its roster does, call by call. -/
theorem keeps_simulates : Simulates KeepsSound Store.operations Roster.operations where
  create := by
    rintro s ts ⟨hk, hs⟩ t
    -- What the roster allows keeps it sound, whichever kind of store follows it.
    have hsound : ∀ us, ts.create t = .ok us → Roster.Sound us := fun us => hs.create
    cases s with
    | indexed r => exact agree_map (fun _ _ h => h) (Indexed.create_agree hk hs t) hsound
    | table r => exact agree_map (fun _ _ h => h) (Table.create_agree hk hs t) hsound
  update := by
    rintro s ts ⟨hk, hs⟩ t
    have hsound : ∀ us, ts.update t = .ok us → Roster.Sound us := fun us => hs.update
    cases s with
    | indexed r => exact agree_map (fun _ _ h => h) (Indexed.update_agree hk hs t) hsound
    | table r => exact agree_map (fun _ _ h => h) (Table.update_agree hk hs t) hsound
  softDelete := by
    rintro s ts ⟨hk, hs⟩ id now
    have hsound : ∀ us, ts.softDelete id now = .ok us → Roster.Sound us := fun us => hs.softDelete
    cases s with
    | indexed r => exact agree_map (fun _ _ h => h) (Indexed.softDelete_agree hk hs id now) hsound
    | table r => exact agree_map (fun _ _ h => h) (Table.softDelete_agree hk hs id now) hsound
  find := by
    rintro s ts ⟨hk, hs⟩ key
    cases s with
    | indexed r => exact Indexed.find_eq hk key
    | table r => exact Table.find_eq hk hs key
  findById := by
    rintro s ts ⟨hk, hs⟩ id
    cases s with
    | indexed r => exact Indexed.findById_eq hk id
    | table r => exact Table.findById_eq hk hs id
  list := by
    rintro s ts ⟨hk, hs⟩
    cases s with
    | indexed r => exact congrArg Except.ok (Indexed.list_eq hk hs)
    | table r => exact Table.list_eq hk hs
  listAll := by
    rintro s ts ⟨hk, hs⟩
    cases s with
    | indexed r => exact congrArg Except.ok (Indexed.listAll_eq hk hs)
    | table r => exact Table.listAll_eq hk hs

/-- After any run that starts without tenants a store keeps a sound roster,
    the same one whichever way it keeps it. -/
theorem keeps_after {s : Store} (h : s.IsNew) (calls : List (Timestamp × RegistryCall)) :
    (Store.operations.after s calls).KeepsSound (Roster.operations.after [] calls) :=
  keeps_simulates.after calls h.keepsSound

/-- A store is reachable when calls lead to it from a store without tenants. -/
def Reachable (s : Store) : Prop :=
  ∃ new : Store, new.IsNew ∧ ∃ calls, s = Store.operations.after new calls

theorem Reachable.keepsSound {s : Store} (h : s.Reachable) : ∃ ts, s.KeepsSound ts := by
  rcases h with ⟨new, hnew, calls, rfl⟩
  exact ⟨_, keeps_after hnew calls⟩

/-- A call leaves a database a database. -/
theorem answer_table (now : Timestamp) (r : Table) (c : RegistryCall) :
    ∃ r', (Store.operations.answer now (.table r) c).2 = .table r' := by
  -- Only a write has a new state, and that is made from a table.
  have hwritten : ∀ x : Except Fault Table,
      ∃ r', (Operations.written (Store.table r) (x.map .table)).2 = .table r' := by
    intro x
    cases x with
    | ok r' => exact ⟨r', rfl⟩
    | error f => exact ⟨r, rfl⟩
  cases c with
  | create t => exact hwritten (r.create t)
  | update t => exact hwritten (r.update t)
  | softDelete id => exact hwritten (r.softDelete id now)
  | find key => exact ⟨r, rfl⟩
  | findById id => exact ⟨r, rfl⟩
  | list => exact ⟨r, rfl⟩
  | listAll => exact ⟨r, rfl⟩

theorem after_table (calls : List (Timestamp × RegistryCall)) (r : Table) :
    ∃ r', Store.operations.after (.table r) calls = .table r' := by
  induction calls generalizing r with
  | nil => exact ⟨r, rfl⟩
  | cons call rest ih =>
      rcases call with ⟨now, c⟩
      rcases answer_table now r c with ⟨r', hr'⟩
      rcases ih r' with ⟨last, hlast⟩
      exact ⟨last, by rw [Operations.after, hr', hlast]⟩

/-- A registry in memory and a registry in a database, both without tenants at
    first, give the same replies to every sequence of calls. The database never
    had a choice: whatever rows its queries might have picked along the way,
    the answers would have been these. -/
theorem replies_indexed_eq_table (calls : List (Timestamp × RegistryCall)) :
    Store.operations.replies (.indexed .empty) calls =
        Store.operations.replies (.table .empty) calls ∧
      ∃ r, Store.operations.after (.table .empty) calls = .table r ∧ r.Determined := by
  have hindexed : (Store.indexed .empty).IsNew := Or.inl rfl
  have htable : (Store.table .empty).IsNew := Or.inr rfl
  constructor
  · -- Both reply as the roster does.
    rw [keeps_simulates.replies_eq calls hindexed.keepsSound,
      keeps_simulates.replies_eq calls htable.keepsSound]
  · rcases after_table calls .empty with ⟨r, hr⟩
    -- A table that keeps a roster has no choice left, since the roster has none.
    have hkeeps := keeps_after htable calls
    rw [hr] at hkeeps
    exact ⟨r, hr, Table.determined hkeeps.1 hkeeps.2⟩

end Store

end Multitenancy
