import Multitenancy.Provisioning.Call
/-!
# Operations That Run Alone

What creating, updating, deleting and resolving do when no other operation
comes in between.

An operation that runs alone always has an answer, because nobody holds the
lock that a creation waits for. How it can end is laid out case by case: each
case says which tests passed on the way, what the answer is, and what the
office looks like afterwards. Whatever is true of operations that run alone is
read off these cases, without going through the steps again.

## Main definitions

* `Office.Idle`: No creation is under way.
* `Office.prepareAlone`: The part of a creation that is about its store.
* `Office.Created`, `Office.Updated`, `Office.Deleted`, `Office.Looked`: The
  ways in which an operation can end.

## Theorems

* `runSteps_free`: What the steps about a store come to.
* `run_create`, `run_update`, `run_delete`, `run_resolve`: An operation that
  runs alone has an answer, ends in one of these ways, and leaves no lock
  behind.
-/

namespace Multitenancy

/-! ### A lock that nobody contends for -/

namespace Locks

/-- A task that takes up the only claim. -/
theorem claims_request {τ : Type} (l : Locks τ) (h : l.claims = []) (task : τ) (key : String) :
    ∃ mutex, (l.request task key).claims = [{ task, key, mutex, held := false }] := by
  unfold request
  cases l.entries.get? key with
  | some mutex => exact ⟨mutex, by simp only [h, List.nil_append]⟩
  | none => exact ⟨l.next, by simp only [h, List.nil_append]⟩

variable {τ : Type} [DecidableEq τ]

/-- The only claim is granted. -/
theorem grant?_sole {l : Locks τ} {task : τ} {key : String} {mutex : Nat}
    (h : l.claims = [{ task, key, mutex, held := false }]) :
    ∃ l', l.grant? task = some l' ∧ l'.claims = [{ task, key, mutex, held := true }] := by
  -- The claim is found, and nobody holds its mutex.
  have hclaim : l.claim? task = some { task, key, mutex, held := false } := by
    unfold claim?
    rw [h, List.find?_cons_of_pos (by simp only [decide_true])]
  have hheld : l.isHeld mutex = false := by
    unfold isHeld
    rw [h, List.any_cons, List.any_nil, Bool.and_false, Bool.or_false]
  refine ⟨{ l with claims := [{ task, key, mutex, held := true }] }, ?_, rfl⟩
  unfold grant?
  rw [hclaim]
  simp only [hheld, Bool.or_self, Bool.false_eq_true, if_false, h, List.map_cons, List.map_nil,
    if_true]

/-- Dropping the only claim leaves none. -/
theorem claims_drop_sole {l : Locks τ} {c : Claim τ} (h : l.claims = [c]) :
    (l.drop c.task).claims = [] := by
  -- Whether the entry goes too makes no difference to the claims.
  have hleft : l.claims.filter (fun d => decide (d.task ≠ c.task)) = [] := by
    rw [h, List.filter_cons_of_neg (by simp only [ne_eq, not_true_eq_false, decide_false,
      Bool.false_eq_true, not_false_eq_true]), List.filter_nil]
  have hclaim : l.claim? c.task = some c := by
    unfold claim?
    rw [h, List.find?_cons_of_pos (by simp only [decide_true])]
  unfold drop
  rw [hclaim]
  simp only
  split
  · exact hleft
  · exact hleft

end Locks

namespace Office

/-- No creation is under way. -/
def Idle (o : Office) : Prop :=
  o.creating.claims = []

/-- The office with another registry. -/
def withRegistry (o : Office) (registry : Registry) : Office :=
  { o with env := { o.env with registry } }

/-- The office with another store behind its registry. -/
def withStore (o : Office) (store : Store) : Office :=
  o.withRegistry { o.env.registry with store }

/-- The office with another resolver. -/
def withResolver (o : Office) (resolver : Resolver) : Office :=
  { o with env := { o.env with resolver } }

/-! ### How an operation can end -/

/-- What a creation does about the store of a placed record: it opens and
    prepares it and runs the migration. With the answer come the stores and
    the effects. -/
def prepareAlone (svc : Service) (o : Office) (t : Tenant) :
    Except Fault Nat × Stores × List Effect :=
  if Text.blankText t.storeLocator then (.error (.locatorNotDerived t.id), o.stores, o.effects)
  else
    let opened := o.effects ++ [.opening t.id t.storeLocator]
    match o.stores.provision svc.pool t.storeLocator with
    | (.error f, stores) => (.error f, stores, opened)
    | (.ok handle, stores) =>
      match svc.migration with
      | none => (.ok handle, stores, opened)
      | some run =>
        let migrated := opened ++ [.migrating t.id]
        match run stores handle t with
        | (.ok (), stores) => (.ok handle, stores, migrated)
        | (.error f, stores) => (.error (migrationFault t f), stores.close handle, migrated)

/-- The ways in which a creation can end, with its answer and with the
    environment, the stores and the effects that it leaves. -/
inductive Created (svc : Service) (o : Office) (t : Tenant) :
    Except Fault Tenant → Env → Stores → List Effect → Prop where
  /-- The record may not be stored. -/
  | invalid {f : Fault} (hcheck : t.check = .error f) :
      Created svc o t (.error f) o.env o.stores o.effects
  /-- There is a tenant with the id, perhaps a deleted one. -/
  | taken {u : Tenant} (hcheck : t.check = .ok ())
      (hid : o.env.registry.findById t.id = .ok u) :
      Created svc o t (.error (.idTaken t.id)) o.env o.stores o.effects
  /-- The registry cannot tell whether there is. -/
  | unread {f : Fault} (hcheck : t.check = .ok ())
      (hid : o.env.registry.findById t.id = .error f) (hkind : f.isNotFound = false) :
      Created svc o t (.error f) o.env o.stores o.effects
  /-- The store cannot be prepared. -/
  | unprepared {f g : Fault} {stores : Stores} {effects : List Effect} (hcheck : t.check = .ok ())
      (hid : o.env.registry.findById t.id = .error f) (hkind : f.isNotFound = true)
      (hprepare : o.prepareAlone svc (o.place svc t) = (.error g, stores, effects)) :
      Created svc o t (.error g) o.env stores effects
  /-- The registry refuses the record. -/
  | unstored {f g : Fault} {handle : Nat} {stores : Stores} {effects : List Effect}
      (hcheck : t.check = .ok ()) (hid : o.env.registry.findById t.id = .error f)
      (hkind : f.isNotFound = true)
      (hprepare : o.prepareAlone svc (o.place svc t) = (.ok handle, stores, effects))
      (hstore : o.env.registry.store.create (o.place svc t) = .error g) :
      Created svc o t (.error g) o.env (stores.close handle) effects
  /-- The record is stored, and the resolver forgets its keys. -/
  | stored {f : Fault} {handle : Nat} {stores : Stores} {effects : List Effect} {store : Store}
      (hcheck : t.check = .ok ()) (hid : o.env.registry.findById t.id = .error f)
      (hkind : f.isNotFound = true)
      (hprepare : o.prepareAlone svc (o.place svc t) = (.ok handle, stores, effects))
      (hstore : o.env.registry.store.create (o.place svc t) = .ok store) :
      Created svc o t (.ok (o.place svc t))
        ((o.withStore store).forget svc (o.place svc t)).env
        (stores.close handle) effects

/-- The ways in which an update can end. -/
inductive Updated (svc : Service) (o : Office) (id : String) (patch : Patch) :
    Except Fault Tenant → Office → Prop where
  /-- There is no active tenant with the id. -/
  | unknown {f : Fault} (hid : o.activeById id = .error f) : Updated svc o id patch (.error f) o
  /-- The registry refuses the new record. -/
  | unwritten {t : Tenant} {f : Fault} (hid : o.activeById id = .ok t)
      (hstore : o.env.registry.store.update (patch.apply t o.env.wall) = .error f) :
      Updated svc o id patch (.error f) o
  /-- The new record is stored, and the resolver forgets the keys of both. -/
  | written {t : Tenant} {store : Store} (hid : o.activeById id = .ok t)
      (hstore : o.env.registry.store.update (patch.apply t o.env.wall) = .ok store) :
      Updated svc o id patch (.ok (patch.apply t o.env.wall))
        (((o.withStore store).forget svc t).forget svc
          (patch.apply t o.env.wall))

/-- The ways in which a deletion can end. -/
inductive Deleted (svc : Service) (o : Office) (id : String) :
    Except Fault Unit → Office → Prop where
  /-- There is no tenant with the id. -/
  | unknown {f : Fault} (hid : o.env.registry.findById id = .error f) :
      Deleted svc o id (.error f) o
  /-- The registry refuses. -/
  | unmarked {t : Tenant} {f : Fault} (hid : o.env.registry.findById id = .ok t)
      (hstore : o.env.registry.store.softDelete t.id o.env.wall = .error f) :
      Deleted svc o id (.error f) o
  /-- The record is marked as deleted, and the resolver forgets its keys. -/
  | marked {t : Tenant} {store : Store} (hid : o.env.registry.findById id = .ok t)
      (hstore : o.env.registry.store.softDelete t.id o.env.wall = .ok store) :
      Deleted svc o id (.ok ()) ((o.withStore store).forget svc t)

/-- The ways in which resolving a key can end. -/
inductive Looked (o : Office) (key : String) : Option Tenant → Office → Prop where
  /-- The cache has a live answer. -/
  | hit {outcome : Resolved}
      (hprobe : (o.env.resolver.probe o.env.clock key).1 = some outcome) :
      Looked o key outcome.tenant?
        (o.withResolver (o.env.resolver.probe o.env.clock key).2)
  /-- The registry is asked, and its answer is cached. -/
  | missed (hprobe : (o.env.resolver.probe o.env.clock key).1 = none) :
      Looked o key (Resolved.ofLookup (o.env.registry.find key).1).tenant?
        ((o.withRegistry (o.env.registry.find key).2).withResolver
          ((o.env.resolver.probe o.env.clock key).2.fill o.env.clock key
            (Resolved.ofLookup (o.env.registry.find key).1)))

/-! ### Running the steps -/

theorem runSteps_done (svc : Service) (task n : Nat) (o : Office) (r : Reply) :
    runSteps svc task n o (.done r) = (o, .done r) := by
  induction n with
  | zero => rfl
  | succ n ih => exact ih

theorem freshTask_idle {o : Office} (h : o.Idle) : o.freshTask = 0 := by
  unfold freshTask
  rw [h]
  rfl

theorem run_eq {o : Office} (h : o.Idle) (svc : Service) (c : Call) :
    o.run svc c =
      ((runSteps svc 0 maxSteps o (.begun c)).1,
        (runSteps svc 0 maxSteps o (.begun c)).2.reply?) := by
  unfold run
  rw [freshTask_idle h]

theorem runSteps_succ (svc : Service) (task n : Nat) (o : Office) (s : Stage) :
    runSteps svc task (n + 1) o s =
      runSteps svc task n (s.step svc o task).1 (s.step svc o task).2 := rfl

/-- What the resolver forgets is no matter of the locks, the stores and the
    effects. -/
theorem forget_eq (svc : Service) (o : Office) (t : Tenant) :
    o.forget svc t = { o with env := (o.forget svc t).env } := by
  unfold forget
  split
  · rfl
  · rfl

theorem env_forget_congr (svc : Service) {o o' : Office} (h : o.env = o'.env) (t : Tenant) :
    (o.forget svc t).env = (o'.forget svc t).env := by
  unfold forget
  split
  · simp only [h]
  · exact h

theorem idle_forget {o : Office} (h : o.Idle) (svc : Service) (t : Tenant) :
    (o.forget svc t).Idle := by
  rw [forget_eq]
  exact h

theorem run_update {o : Office} (h : o.Idle) (svc : Service) (id : String) (patch : Patch) :
    ∃ o' r, o.run svc (.update id patch) = (o', some (.record r)) ∧ o'.Idle ∧
      Updated svc o id patch r o' := by
  rw [run_eq h, maxSteps, runSteps_succ]
  -- The first step reads the record.
  cases hid : o.activeById id with
  | error f =>
      have hbegun : (Stage.begun (.update id patch)).step svc o 0 =
          (o, .done (.record (.error f))) := by
        simp only [Stage.step, start, hid]
      rw [hbegun, runSteps_done]
      exact ⟨o, .error f, rfl, h, .unknown hid⟩
  | ok t =>
      have hbegun : (Stage.begun (.update id patch)).step svc o 0 =
          (o, .read t (patch.apply t o.env.wall)) := by
        simp only [Stage.step, start, hid]
      rw [hbegun, runSteps_succ]
      -- The second writes it, and only then the caches have something to forget.
      cases hstore : o.env.registry.store.update (patch.apply t o.env.wall) with
      | error f =>
          have hread : (Stage.read t (patch.apply t o.env.wall)).step svc o 0 =
              (o, .done (.record (.error f))) := by
            simp only [Stage.step, Registry.update, hstore, Registry.wrote]
          rw [hread, runSteps_done]
          exact ⟨o, .error f, rfl, h, .unwritten hid hstore⟩
      | ok store =>
          have hread : (Stage.read t (patch.apply t o.env.wall)).step svc o 0 =
              (o.withStore store, .written t (patch.apply t o.env.wall)) := by
            simp only [Stage.step, Registry.update, hstore, Registry.wrote, withStore, withRegistry]
          -- A write to the registry does not touch the locks.
          have hidle : (o.withStore store).Idle := h
          rw [hread, runSteps_succ, Stage.step, runSteps_done]
          exact ⟨_, _, rfl, idle_forget (idle_forget hidle svc t) svc _, .written hid hstore⟩

theorem run_delete {o : Office} (h : o.Idle) (svc : Service) (id : String) :
    ∃ o' r, o.run svc (.delete id) = (o', some (.deleted r)) ∧ o'.Idle ∧ Deleted svc o id r o' := by
  rw [run_eq h, maxSteps, runSteps_succ]
  -- The first step looks for the record, whatever its status is.
  cases hid : o.env.registry.findById id with
  | error f =>
      have hbegun : (Stage.begun (.delete id)).step svc o 0 = (o, .done (.deleted (.error f))) := by
        simp only [Stage.step, start, hid]
      rw [hbegun, runSteps_done]
      exact ⟨o, .error f, rfl, h, .unknown hid⟩
  | ok t =>
      have hbegun : (Stage.begun (.delete id)).step svc o 0 = (o, .known t) := by
        simp only [Stage.step, start, hid]
      rw [hbegun, runSteps_succ]
      -- The second marks it as deleted, and the last one forgets its keys.
      cases hstore : o.env.registry.store.softDelete t.id o.env.wall with
      | error f =>
          have hknown : (Stage.known t).step svc o 0 = (o, .done (.deleted (.error f))) := by
            simp only [Stage.step, Registry.softDelete, hstore, Registry.wrote]
          rw [hknown, runSteps_done]
          exact ⟨o, .error f, rfl, h, .unmarked hid hstore⟩
      | ok store =>
          have hknown : (Stage.known t).step svc o 0 = (o.withStore store, .marked t) := by
            simp only [Stage.step, Registry.softDelete, hstore, Registry.wrote, withStore,
              withRegistry]
          -- Nor does this write touch the locks.
          have hidle : (o.withStore store).Idle := h
          rw [hknown, runSteps_succ, Stage.step, runSteps_done]
          exact ⟨_, _, rfl, idle_forget hidle svc t, .marked hid hstore⟩

/-! ### Creating -/

/-- The office while a creation holds its lock. -/
def locked (o : Office) (creating : Locks Nat) : Office :=
  { o with creating }

/-- Giving up the only claim leaves an office idle. -/
theorem fail_eq {o : Office} {creating : Locks Nat} {key : String} {mutex : Nat} {held : Bool}
    (h : creating.claims = [{ task := 0, key, mutex, held }]) (f : Fault) :
    ∃ left, (o.locked creating).fail 0 f = (o.locked left, .done (.record (.error f))) ∧
      left.claims = [] :=
  ⟨creating.drop 0, rfl, Locks.claims_drop_sole h⟩

/-- What the two steps about the store of a record come to. -/
theorem runSteps_free (svc : Service) (o : Office) (creating : Locks Nat) (t : Tenant) (n : Nat) :
    runSteps svc 0 (n + 2) (o.locked creating) (.free t) =
      match o.prepareAlone svc (o.place svc t) with
      | (.error f, stores, effects) =>
        (({ o with stores, effects }.locked creating).fail 0 f)
      | (.ok handle, stores, effects) =>
        runSteps svc 0 n ({ o with stores, effects }.locked creating)
          (.migrated (o.place svc t) handle) := by
  have hplace : (o.locked creating).place svc t = o.place svc t := rfl
  have hfree : (Stage.free t).step svc (o.locked creating) 0 =
      (o.locked creating).openFor svc 0 (o.place svc t) := by
    rw [Stage.step, hplace]
  rw [runSteps_succ, hfree]
  -- Which record it is does not matter from here on.
  generalize o.place svc t = p
  unfold openFor prepareAlone
  by_cases hblank : Text.blankText p.storeLocator = true
  · rw [if_pos hblank, if_pos hblank]
    exact runSteps_done svc 0 (n + 1) _ _
  · rw [if_neg hblank, if_neg hblank]
    have hstores : ((o.locked creating).did (.opening p.id p.storeLocator)).stores = o.stores := rfl
    simp only [hstores]
    cases hopen : o.stores.provision svc.pool p.storeLocator with
    | mk result stores =>
        cases result with
        | error f => exact runSteps_done svc 0 (n + 1) _ _
        | ok handle =>
            simp only
            rw [runSteps_succ, Stage.step, migrate]
            cases hrun : svc.migration with
            | none => rfl
            | some run =>
                have hstores' : (({ (o.locked creating).did (.opening p.id p.storeLocator) with
                    stores }).did (.migrating p.id)).stores = stores := rfl
                simp only [hstores']
                cases hmig : run stores handle p with
                | mk outcome after =>
                    cases outcome with
                    | error f => exact runSteps_done svc 0 n _ _
                    | ok u => rfl

/-- The two steps after the store of a record is ready. -/
theorem run_migrated {svc : Service} {o : Office} {creating : Locks Nat} {t : Tenant} {f : Fault}
    {key : String} {mutex handle : Nat} {stores : Stores} {effects : List Effect}
    (hclaims : creating.claims = [{ task := 0, key, mutex, held := true }])
    (hcheck : t.check = .ok ()) (hid : o.env.registry.findById t.id = .error f)
    (hkind : f.isNotFound = true)
    (hprepare : o.prepareAlone svc (o.place svc t) = (.ok handle, stores, effects)) :
    ∃ o' r, ((runSteps svc 0 2 ({ o with stores, effects }.locked creating)
        (.migrated (o.place svc t) handle)).1,
      (runSteps svc 0 2 ({ o with stores, effects }.locked creating)
        (.migrated (o.place svc t) handle)).2.reply?) = (o', some (.record r)) ∧ o'.Idle ∧
      Created svc o t r o'.env o'.stores o'.effects := by
  rw [runSteps_succ]
  -- The store of the tenant is closed either way; only the lock must be given up.
  cases hstore : o.env.registry.store.create (o.place svc t) with
  | error g =>
      have hmigrated : (Stage.migrated (o.place svc t) handle).step svc
          ({ o with stores, effects }.locked creating) 0 =
          ({ o with stores := stores.close handle, effects }.locked creating).fail 0 g := by
        simp only [Stage.step, store, locked, Registry.create, hstore, Registry.wrote]
      rcases fail_eq (o := { o with stores := stores.close handle, effects }) hclaims g with
        ⟨left, hfail, hleft⟩
      rw [hmigrated, hfail, runSteps_done]
      exact ⟨_, _, rfl, hleft, .unstored hcheck hid hkind hprepare hstore⟩
  | ok store' =>
      have hmigrated : (Stage.migrated (o.place svc t) handle).step svc
          ({ o with stores, effects }.locked creating) 0 =
          (({ o with stores := stores.close handle, effects }.locked creating).withStore store',
            .stored (o.place svc t)) := by
        simp only [Stage.step, store, locked, Registry.create, hstore, Registry.wrote, withStore,
          withRegistry]
      have hstored : (Stage.stored (o.place svc t)).step svc
          (({ o with stores := stores.close handle, effects }.locked creating).withStore store') 0 =
          ({ o with
              env := ((o.withStore store').forget svc (o.place svc t)).env
              stores := stores.close handle
              effects }.locked (creating.drop 0), .done (.record (.ok (o.place svc t)))) := by
        have henv : ((({ o with stores := stores.close handle, effects }.locked creating).withStore
            store').forget svc (o.place svc t)).env =
            ((o.withStore store').forget svc (o.place svc t)).env := by
          refine env_forget_congr svc ?_ _
          rfl
        rw [Stage.step, forget_eq, henv]
        rfl
      rw [hmigrated, runSteps_succ, hstored, runSteps_done]
      exact ⟨_, _, rfl, Locks.claims_drop_sole hclaims, .stored hcheck hid hkind hprepare hstore⟩

/-- Taking the lock of an id takes two steps, and nobody is in the way. -/
theorem runSteps_enter {o : Office} (h : o.Idle) (svc : Service) {t : Tenant}
    (hcheck : t.check = .ok ()) (n : Nat) :
    ∃ creating mutex, creating.claims = [{ task := 0, key := t.id, mutex, held := true }] ∧
      runSteps svc 0 (n + 2) o (.begun (.create t)) =
        runSteps svc 0 n (o.locked creating) (.entered t) := by
  -- Without other claims the request is the sole claim, and is granted at once.
  rcases Locks.claims_request o.creating h 0 t.id with ⟨mutex, hrequest⟩
  rcases Locks.grant?_sole hrequest with ⟨creating, hgrant, hclaims⟩
  refine ⟨creating, mutex, hclaims, ?_⟩
  have hbegun : (Stage.begun (.create t)).step svc o 0 =
      (o.locked (o.creating.request 0 t.id), .queued t) := by
    simp only [Stage.step, start, hcheck, locked]
  -- The second step is the grant, since nobody else can be served before.
  have hqueued : (Stage.queued t).step svc (o.locked (o.creating.request 0 t.id)) 0 =
      (o.locked creating, .entered t) := by
    simp only [Stage.step, locked, hgrant]
  rw [runSteps_succ, hbegun, runSteps_succ, hqueued]

theorem run_create {o : Office} (h : o.Idle) (svc : Service) (t : Tenant) :
    ∃ o' r, o.run svc (.create t) = (o', some (.record r)) ∧ o'.Idle ∧
      Created svc o t r o'.env o'.stores o'.effects := by
  rw [run_eq h, maxSteps]
  cases hcheck : t.check with
  | error f =>
      have hbegun : (Stage.begun (.create t)).step svc o 0 = (o, .done (.record (.error f))) := by
        simp only [Stage.step, start, hcheck]
      rw [runSteps_succ, hbegun, runSteps_done]
      exact ⟨o, .error f, rfl, h, .invalid hcheck⟩
  | ok u =>
      rcases runSteps_enter h svc hcheck 5 with ⟨creating, mutex, hclaims, henter⟩
      rw [henter, runSteps_succ]
      have hregistry : (o.locked creating).env.registry = o.env.registry := rfl
      cases hid : o.env.registry.findById t.id with
      | ok v =>
          have hentered : (Stage.entered t).step svc (o.locked creating) 0 =
              (o.locked creating).fail 0 (.idTaken t.id) := by
            simp only [Stage.step, hregistry, hid]
          rcases fail_eq hclaims (.idTaken t.id) with ⟨left, hfail, hleft⟩
          rw [hentered, hfail, runSteps_done]
          exact ⟨o.locked left, _, rfl, hleft, .taken hcheck hid⟩
      | error f =>
          -- A registry that cannot tell is not one that knows of nobody.
          cases hkind : f.isNotFound with
          | false =>
              have hentered : (Stage.entered t).step svc (o.locked creating) 0 =
                  (o.locked creating).fail 0 f := by
                simp only [Stage.step, hregistry, hid, hkind, Bool.false_eq_true, if_false]
              rcases fail_eq hclaims f with ⟨left, hfail, hleft⟩
              rw [hentered, hfail, runSteps_done]
              exact ⟨o.locked left, _, rfl, hleft, .unread hcheck hid hkind⟩
          | true =>
              have hentered : (Stage.entered t).step svc (o.locked creating) 0 =
                  (o.locked creating, .free t) := by
                simp only [Stage.step, hregistry, hid, hkind, if_true]
              rw [hentered, runSteps_free]
              cases hprepare : o.prepareAlone svc (o.place svc t) with
              | mk result rest =>
                  rcases rest with ⟨stores, effects⟩
                  cases result with
                  | error g =>
                      rcases fail_eq (o := { o with stores, effects }) hclaims g with
                        ⟨left, hfail, hleft⟩
                      simp only [hfail]
                      exact ⟨_, _, rfl, hleft, .unprepared hcheck hid hkind hprepare⟩
                  | ok handle =>
                      exact run_migrated hclaims hcheck hid hkind hprepare

theorem run_resolve {o : Office} (h : o.Idle) (svc : Service) (key : String) :
    ∃ o' t, o.run svc (.resolve key) = (o', some (.resolved t)) ∧ o'.Idle ∧ Looked o key t o' := by
  rw [run_eq h, maxSteps, runSteps_succ]
  -- A key that is cached needs one step.
  rcases hprobe : o.env.resolver.probe o.env.clock key with ⟨hit, resolver⟩
  cases hit with
  | some outcome =>
      have hbegun : (Stage.begun (.resolve key)).step svc o 0 =
          (o.withResolver resolver, .done (.resolved outcome.tenant?)) := by
        simp only [Stage.step, start, hprobe, withResolver]
      have hlooked := @Looked.hit o key outcome (by rw [hprobe])
      rw [hprobe] at hlooked
      rw [hbegun, runSteps_done]
      exact ⟨o.withResolver resolver, _, rfl, h, hlooked⟩
  | none =>
      -- A miss asks the registry, and the answer is cached in a step of its own.
      have hbegun : (Stage.begun (.resolve key)).step svc o 0 =
          (o.withResolver resolver, .missed key) := by
        simp only [Stage.step, start, hprobe, withResolver]
      have hmissed : (Stage.missed key).step svc (o.withResolver resolver) 0 =
          ((o.withRegistry (o.env.registry.find key).2).withResolver resolver,
            .answered key (.ofLookup (o.env.registry.find key).1)) := by
        simp only [Stage.step, withResolver, withRegistry]
      have hlooked := @Looked.missed o key (by rw [hprobe])
      rw [hprobe] at hlooked
      rw [hbegun, runSteps_succ, hmissed, runSteps_succ, Stage.step, runSteps_done]
      exact ⟨_, _, rfl, h, hlooked⟩

end Office

end Multitenancy
