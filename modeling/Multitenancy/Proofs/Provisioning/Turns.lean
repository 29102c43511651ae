import Multitenancy.Proofs.Locks
import Multitenancy.Proofs.Provisioning.Alone
import Multitenancy.Proofs.Provisioning.Conflicts
import Multitenancy.Proofs.Provisioning.Waiting
import Multitenancy.Proofs.Registry.Serving
/-!
# What a Creation Does When It Is Its Turn

Creations as the others see them: by the lock, the log of what was done to
stores, and the ids in the registry.

Of the many places where an operation may wait they tell six apart. A creation
is fresh, queues for the lock of its id, holds it and is about to check the id,
goes on because the id is free, has written its record, or is over. What it
does between the check and the write differs only in what is added to the log.
An operation of another kind adds neither to the log nor to the ids. All that an
event can do is said here once, case by case, and the invariants of racing
creations are read off these cases.

## Main definitions

* `CreationPhase`: How far a creation has come, as others see it.
* `CreationPhase.claim?`: The claim on a lock that goes with a phase.
* `Progress.phase`: The phase of an operation.
* `CreationTurn`: What an operation does when it is its turn.
* `Turned`: The office before and after a turn.

## Theorems

* `CreationTurn.of_mem_new`, `CreationTurn.of_mem_log`: Who adds to the ids and
  to the log has found its id free.
* `CreationTurn.of_building`, `CreationTurn.of_wrote`: How an operation comes to
  a phase.
* `CreationTurn.of_call`: An operation stays one of its call.
* `CreationTurn.claims_iff`, `CreationTurn.sound`: The locks go with the phases.
* `Progress.turned_go`, `Progress.turned_opened`, `Progress.turned_migrated`,
  `Progress.turned_cancel`: Every event is a turn.
-/

namespace Multitenancy

/-- How far a creation has come, as others see it. -/
inductive CreationPhase where
  /-- It is not a creation, and under way. -/
  | elsewhere
  | fresh (id : String)
  /-- It waits for the lock. -/
  | queued (id : String)
  /-- It holds the lock, and checks the id next. -/
  | checking (id : String)
  /-- The id was free, and the record is not written yet. -/
  | building (id : String)
  | stored (id : String)
  | over (accepted : Bool)
  deriving DecidableEq

namespace CreationPhase

/-- The id of a creation that is under way. -/
def id? : CreationPhase → Option String
  | .fresh id | .queued id | .checking id | .building id | .stored id => some id
  | .elsewhere | .over _ => none

/-- The lock that it holds or waits for. -/
def claim? : CreationPhase → Option (String × Bool)
  | .queued id => some (id, false)
  | .checking id | .building id | .stored id => some (id, true)
  | .elsewhere | .fresh _ | .over _ => none

/-- Whether the record was written, if it is a creation. -/
def wrote : CreationPhase → Bool
  | .stored _ => true
  | .over accepted => accepted
  | .elsewhere | .fresh _ | .queued _ | .checking _ | .building _ => false

end CreationPhase

/-- The phase of an operation. -/
def Progress.phase : Progress → CreationPhase
  | .between (.begun (.create t)) => .fresh t.id
  | .between (.queued t) => .queued t.id
  | .between (.entered t) => .checking t.id
  | .between (.free t) | .between (.prepared t _) | .between (.migrated t _) => .building t.id
  | .opening t | .migrating t _ | .failing t _ _ | .closed t => .building t.id
  | .between (.stored t) => .stored t.id
  | .between (.done (.record (.ok _))) => .over true
  | .between (.done _) | .between .dropped => .over false
  | .between _ => .elsewhere

/-- The id that a call is to create a tenant of, if it is. -/
def Call.created? : Call → Option String
  | .create t => some t.id
  | .update _ _ | .delete _ | .resolve _ => none

/-- A phase that an operation with this call may be in. -/
def CreationPhase.Of (c : Call) (φ : CreationPhase) : Prop :=
  (∃ accepted, φ = .over accepted) ∨ φ.id? = c.created?

/-- What is under way is so for the id of its call. -/
theorem CreationPhase.Of.id?_eq {c : Call} {φ : CreationPhase} (h : φ.Of c)
    (hunder : ∀ accepted, φ ≠ .over accepted) : φ.id? = c.created? :=
  h.resolve_left fun ⟨accepted, hover⟩ => hunder accepted hover

/-- The id that an effect is about. -/
def Effect.id : Effect → String
  | .opening id _ => id
  | .migrating id => id

/-- The ids of a roster. -/
def Roster.ids (ts : Roster) : List String :=
  ts.map Tenant.id

/-- What an operation does when it is its turn: it goes from one phase to
    another, leaves the locks in some state, and adds to the log and to the ids
    in the registry. -/
inductive CreationTurn (task : Nat) (ids : List String) (locks : Locks Nat) :
    CreationPhase → Locks Nat → List Effect → List String → CreationPhase → Prop
  /-- Nothing that the others see. -/
  | still {φ : CreationPhase} : CreationTurn task ids locks φ locks [] [] φ
  /-- An operation that is no creation ends. -/
  | finish {accepted : Bool} : CreationTurn task ids locks .elsewhere locks [] [] (.over accepted)
  /-- A record is refused at once. -/
  | refuse {id : String} : CreationTurn task ids locks (.fresh id) locks [] [] (.over false)
  | queue {id : String} :
      CreationTurn task ids locks (.fresh id) (locks.request task id) [] [] (.queued id)
  | enter {id : String} {locks' : Locks Nat} (hgrant : locks.grant? task = some locks') :
      CreationTurn task ids locks (.queued id) locks' [] [] (.checking id)
  | pass {id : String} (hfree : id ∉ ids) :
      CreationTurn task ids locks (.checking id) locks [] [] (.building id)
  /-- Something is done to the store. -/
  | work {id : String} {e : Effect} (he : e.id = id) :
      CreationTurn task ids locks (.building id) locks [e] [] (.building id)
  | write {id : String} : CreationTurn task ids locks (.building id) locks [] [id] (.stored id)
  | accept {id : String} :
      CreationTurn task ids locks (.stored id) (locks.drop task) [] [] (.over true)
  /-- The operation fails or is dropped. -/
  | leave {φ : CreationPhase} : CreationTurn task ids locks φ (locks.drop task) [] [] (.over false)

namespace CreationTurn

variable {task : Nat} {ids new : List String} {locks locks' : Locks Nat} {log : List Effect}
  {φ φ' : CreationPhase}

/-! ### What the cases have in common -/

/-- A new id is that of a creation which has found it free, and writes. -/
theorem of_mem_new (h : CreationTurn task ids locks φ locks' log new φ') {id : String}
    (hid : id ∈ new) : φ = .building id := by
  cases h with
  | write => rw [List.mem_singleton.mp hid]
  | _ => exact absurd hid List.not_mem_nil

/-- What is added to the log is about the id of a creation which has found it
    free. -/
theorem of_mem_log (h : CreationTurn task ids locks φ locks' log new φ') {e : Effect}
    (he : e ∈ log) : φ = .building e.id := by
  cases h with
  | work hid => rw [List.mem_singleton.mp he, hid]
  | _ => exact absurd he List.not_mem_nil

/-- Who goes on with a free id did so before, or has checked it right now. -/
theorem of_building (h : CreationTurn task ids locks φ locks' log new φ') {id : String}
    (hφ' : φ' = .building id) : (φ = .building id ∨ id ∉ ids) ∧ new = [] := by
  cases h with
  | still => exact ⟨Or.inl hφ', rfl⟩
  | pass hfree => exact ⟨Or.inr (CreationPhase.building.inj hφ' ▸ hfree), rfl⟩
  | work => exact ⟨Or.inl hφ', rfl⟩
  | _ => exact absurd hφ' (by simp only [reduceCtorEq, not_false_eq_true])

/-- Who has written did so before, does it now, or is no creation. -/
theorem of_wrote (h : CreationTurn task ids locks φ locks' log new φ') (hφ' : φ'.wrote = true) :
    φ.wrote = true ∨ φ = .elsewhere ∨ ∃ id, φ = .building id ∧ id ∈ new := by
  cases h with
  | still => exact Or.inl hφ'
  | finish => exact Or.inr (Or.inl rfl)
  | write => exact Or.inr (Or.inr ⟨_, rfl, List.mem_singleton_self _⟩)
  | accept => exact Or.inl rfl
  | _ => exact absurd hφ' Bool.false_ne_true

/-- An operation stays one of its call. -/
theorem of_call (h : CreationTurn task ids locks φ locks' log new φ') {c : Call} (hφ : φ.Of c) :
    φ'.Of c := by
  cases h with
  | still => exact hφ
  | finish | refuse | accept | leave => exact Or.inl ⟨_, rfl⟩
  | _ => exact Or.inr (hφ.id?_eq fun _ => by simp only [ne_eq, reduceCtorEq, not_false_eq_true])

/-! ### Locks -/

/-- Who keeps its claim keeps the claims of all. -/
theorem claims_same_iff
    (hown : ∀ key held, locks.Claims task key held ↔ φ.claim? = some (key, held))
    (hclaim : φ'.claim? = φ.claim?) {other : Nat} {key : String} {held : Bool} :
    locks.Claims other key held ↔
      (other ≠ task ∧ locks.Claims other key held) ∨
        (other = task ∧ φ'.claim? = some (key, held)) := by
  -- Its own claims are those of its phase, which are the same in both.
  by_cases hother : other = task
  · rw [hother, hown, hclaim]
    simp only [ne_eq, not_true_eq_false, false_and, true_and, false_or]
  · simp only [ne_eq, hother, not_false_eq_true, true_and, false_and, or_false]

/-- Who gives up its claim leaves those of the others. -/
theorem claims_drop_iff_of_none (hclaim : φ'.claim? = none) {other : Nat} {key : String}
    {held : Bool} :
    (locks.drop task).Claims other key held ↔
      (other ≠ task ∧ locks.Claims other key held) ∨
        (other = task ∧ φ'.claim? = some (key, held)) := by
  rw [Locks.claims_drop_iff, hclaim]
  simp only [reduceCtorEq, and_false, or_false]

/-- The claims of the others stay, and that of the operation goes with its
    phase. -/
theorem claims_iff (h : CreationTurn task ids locks φ locks' log new φ') (hsound : locks.Sound)
    (hown : ∀ key held, locks.Claims task key held ↔ φ.claim? = some (key, held))
    {other : Nat} {key : String} {held : Bool} :
    locks'.Claims other key held ↔
      (other ≠ task ∧ locks.Claims other key held) ∨
        (other = task ∧ φ'.claim? = some (key, held)) := by
  -- Most turns touch no lock; the others are a request, a grant, and the end of a claim.
  cases h with
  | still | finish | refuse | pass | work | write => exact claims_same_iff hown rfl
  | accept | leave => exact claims_drop_iff_of_none rfl
  | @queue id =>
      rw [Locks.claims_request_iff]
      by_cases hother : other = task
      · -- It had no claim before.
        rw [hother, hown]
        simp only [CreationPhase.claim?, reduceCtorEq, false_or, ne_eq, not_true_eq_false,
          false_and, true_and, Option.some.injEq, Prod.mk.injEq, @eq_comm _ key,
          @eq_comm _ held]
      · simp only [hother, false_and, or_false, ne_eq, not_false_eq_true, true_and]
  | @enter id locks' hgrant =>
      -- A grant turns the claim of the task into one that is held.
      rw [hsound.claims_grant?_iff hgrant, hown]
      simp only [CreationPhase.claim?, Option.some.injEq, Prod.mk.injEq, true_and,
        @eq_comm _ held, and_comm]

/-- The locks stay sound. -/
theorem sound (h : CreationTurn task ids locks φ locks' log new φ') (hsound : locks.Sound)
    (hown : ∀ key held, locks.Claims task key held ↔ φ.claim? = some (key, held)) :
    locks'.Sound := by
  cases h with
  | queue =>
      -- A creation asks for its lock once: before that it has no claim.
      refine hsound.request fun key held hclaim => ?_
      exact absurd ((hown key held).mp hclaim) (by simp only [CreationPhase.claim?, reduceCtorEq,
        not_false_eq_true])
  | enter hgrant => exact hsound.grant? hgrant
  | accept | leave => exact hsound.drop task
  | _ => exact hsound

end CreationTurn

/-! ### Every event is one of the cases -/

namespace Office

/-- Telling the resolver about a record concerns neither log nor locks. -/
theorem effects_forget (svc : Service) (o : Office) (t : Tenant) :
    (o.forget svc t).effects = o.effects := by
  rw [forget_eq]

theorem creating_forget (svc : Service) (o : Office) (t : Tenant) :
    (o.forget svc t).creating = o.creating := by
  rw [forget_eq]

end Office

/-- An operation has had its turn: the registry keeps another roster, and ids
    and log have become what the turn makes of them. -/
structure Turned (task : Nat) (ts us : Roster) (log : List Effect) (new : List String)
    (before after : Office × Progress) : Prop where
  keeps : after.1.env.registry.store.KeepsSound us
  effects : after.1.effects = before.1.effects ++ log
  ids : us.ids = ts.ids ++ new
  turn : CreationTurn task ts.ids before.1.creating before.2.phase after.1.creating log new
    after.2.phase

namespace Progress

variable {svc : Service} {o : Office} {ts : Roster} {task : Nat} {p : Progress}
  {after : Office × Progress}

/-- A turn that leaves the registry and the log alone. -/
theorem turned_quietly (h : o.env.registry.store.KeepsSound ts)
    (hregistry : after.1.env.registry = o.env.registry) (heffects : after.1.effects = o.effects)
    (hturn : CreationTurn task ts.ids o.creating p.phase after.1.creating [] [] after.2.phase) :
    ∃ us log new, Turned task ts us log new (o, p) after :=
  ⟨ts, [], [], by rwa [hregistry], by rw [heffects, List.append_nil],
    (List.append_nil _).symm, hturn⟩

/-- An operation that fails. -/
theorem turned_fail (h : o.env.registry.store.KeepsSound ts) {o' : Office}
    (hregistry : o'.env.registry = o.env.registry) (heffects : o'.effects = o.effects)
    (hlocks : o'.creating = o.creating) (f : Fault) :
    ∃ us log new, Turned task ts us log new (o, p) (reached (o'.fail task f)) := by
  refine turned_quietly h hregistry heffects ?_
  have hdrop : (o'.fail task f).1.creating = o.creating.drop task := by
    rw [Office.fail, hlocks]
  -- Whoever fails gives its lock up, wherever it was.
  change CreationTurn task ts.ids o.creating p.phase (o'.fail task f).1.creating [] [] (.over false)
  rw [hdrop]
  exact .leave

/-- The first step. -/
theorem turned_start (h : o.env.registry.store.KeepsSound ts) (task : Nat) (c : Call) :
    ∃ us log new,
      Turned task ts us log new (o, .between (.begun c)) (reached (o.start task c)) := by
  -- Whether a call goes on or ends here, at most it takes its place in the queue.
  cases c with
  | create t =>
      rw [Office.start]
      cases t.check with
      | ok u => exact turned_quietly h rfl rfl .queue
      | error f => exact turned_quietly h rfl rfl .refuse
  | update id patch =>
      rw [Office.start]
      cases o.activeById id with
      | ok t => exact turned_quietly h rfl rfl .still
      | error f => exact turned_quietly h rfl rfl .finish
  | delete id =>
      rw [Office.start]
      cases o.env.registry.findById id with
      | ok t => exact turned_quietly h rfl rfl .still
      | error f => exact turned_quietly h rfl rfl .finish
  | resolve key =>
      rw [Office.start]
      rcases o.env.resolver.probe o.env.clock key with ⟨_ | outcome, resolver⟩
      · exact turned_quietly h rfl rfl .still
      · exact turned_quietly h rfl rfl .finish

/-- The step at which a creation checks its id. -/
theorem turned_entered (svc : Service) (h : o.env.registry.store.KeepsSound ts) (task : Nat)
    (t : Tenant) :
    ∃ us log new, Turned task ts us log new (o, .between (.entered t))
      (reached ((Stage.entered t).step svc o task)) := by
  rw [Stage.step]
  cases hfound : o.env.registry.findById t.id with
  | ok u => exact turned_fail h rfl rfl rfl _
  | error f =>
      simp only
      split
      · rename_i hfree
        -- Not even a deleted record has the id.
        refine turned_quietly h rfl rfl (.pass fun hmem => ?_)
        rcases List.mem_map.mp hmem with ⟨u, hu, hid⟩
        have hnobody := Office.byId?_of_findById h hfound hfree
        exact (Roster.byId?_eq_none_iff ts t.id).mp hnobody u hu hid
      · exact turned_fail h rfl rfl rfl f

/-- The steps of an update and of a deletion that write. -/
theorem turned_read (svc : Service) (h : o.env.registry.store.KeepsSound ts) (task : Nat)
    (previous new : Tenant) :
    ∃ us log ids, Turned task ts us log ids (o, .between (.read previous new))
      (reached ((Stage.read previous new).step svc o task)) := by
  rw [Stage.step]
  rcases Registry.update_of_keeps h new with ⟨us, hus, hok, hkeeps⟩ | ⟨f, _, herror⟩
  · rcases hupdate : o.env.registry.update new with ⟨result, registry⟩
    rw [hupdate] at hok hkeeps
    simp only at hok hkeeps
    subst hok
    -- Whoever is replaced, the ids are the same.
    rcases (Roster.update_eq_ok_iff ts us new).mp hus with ⟨existing, hex, _, rfl⟩
    refine ⟨_, [], [], hkeeps, (List.append_nil _).symm, ?_, .still⟩
    rw [List.append_nil]
    exact Roster.map_id_replace ts rfl
  · rw [herror]
    exact turned_quietly h rfl rfl .finish

theorem turned_known (svc : Service) (h : o.env.registry.store.KeepsSound ts) (task : Nat)
    (t : Tenant) :
    ∃ us log new, Turned task ts us log new (o, .between (.known t))
      (reached ((Stage.known t).step svc o task)) := by
  rw [Stage.step]
  rcases Registry.softDelete_of_keeps h t.id o.env.wall with
    ⟨us, hus, hok, hkeeps⟩ | ⟨f, _, herror⟩
  · rcases hdelete : o.env.registry.softDelete t.id o.env.wall with ⟨result, registry⟩
    rw [hdelete] at hok hkeeps
    simp only at hok hkeeps
    subst hok
    -- The record is marked and stays where it is.
    rcases (Roster.softDelete_eq_ok_iff ts us t.id o.env.wall).mp hus with ⟨existing, hex, rfl⟩
    refine ⟨_, [], [], hkeeps, (List.append_nil _).symm, ?_, .still⟩
    rw [List.append_nil]
    split
    · exact Roster.map_id_replace ts (Roster.mem_of_byId? hex).2
    · rfl
  · rw [herror]
    exact turned_quietly h rfl rfl .finish

/-- The write of a creation. -/
theorem turned_closed (svc : Service) (h : o.env.registry.store.KeepsSound ts) (task : Nat)
    (t : Tenant) :
    ∃ us log new, Turned task ts us log new (o, .closed t) ((Progress.closed t).go svc o task) := by
  rw [go]
  rcases Registry.create_of_keeps h t with ⟨us, hus, hok, hkeeps⟩ | ⟨f, _, herror⟩
  · rcases hcreate : o.env.registry.create t with ⟨result, registry⟩
    rw [hcreate] at hok hkeeps
    simp only at hok hkeeps
    subst hok
    -- The write succeeds, and its id is the one that is new.
    rcases (Roster.create_eq_ok_iff ts us t).mp hus with ⟨_, _, _, rfl⟩
    refine ⟨_, [], [t.id], hkeeps, (List.append_nil _).symm, ?_, .write⟩
    rw [Roster.ids, List.map_append]
    rfl
  · rw [herror]
    exact turned_fail h rfl rfl rfl f

/-- The step at which a creation gets its lock, if it does. -/
theorem turned_queued (svc : Service) (h : o.env.registry.store.KeepsSound ts) (task : Nat)
    (t : Tenant) :
    ∃ us log new, Turned task ts us log new (o, .between (.queued t))
      (reached ((Stage.queued t).step svc o task)) := by
  rw [Stage.step]
  cases hgrant : o.creating.grant? task with
  | none => exact turned_quietly h rfl rfl .still
  | some creating => exact turned_quietly h rfl rfl (.enter hgrant)

/-- The step at which a creation begins to open its store. -/
theorem turned_free (svc : Service) (h : o.env.registry.store.KeepsSound ts) (task : Nat)
    (t : Tenant) :
    ∃ us log new, Turned task ts us log new (o, .between (.free t))
      ((between (.free t)).go svc o task) := by
  have hid := Office.id_place svc o t
  rw [go]
  split
  · exact turned_fail h rfl rfl rfl _
  · refine ⟨ts, [.opening (o.place svc t).id (o.place svc t).storeLocator], [], h, rfl,
      (List.append_nil _).symm, ?_⟩
    -- The record gets a locator before the store is opened, and keeps its id.
    have hphase : (opening (o.place svc t)).phase = .building t.id := congrArg _ hid
    rw [hphase]
    exact .work hid

/-- Ending with the resolver told about records, after a write. -/
theorem turned_done (h : o.env.registry.store.KeepsSound ts) {o' : Office}
    (hregistry : o'.env.registry = o.env.registry) (heffects : o'.effects = o.effects)
    (hlocks : o'.creating = o.creating) (hp : p.phase = .elsewhere) {r : Reply}
    {accepted : Bool} (hr : (between (.done r)).phase = .over accepted) :
    ∃ us log new, Turned task ts us log new (o, p) (reached (o', .done r)) := by
  refine turned_quietly h hregistry heffects ?_
  change CreationTurn task ts.ids o.creating p.phase o'.creating [] [] (between (.done r)).phase
  rw [hlocks, hp, hr]
  exact .finish

/-- The step at which a creation ends well. -/
theorem turned_stored (svc : Service) (h : o.env.registry.store.KeepsSound ts) (task : Nat)
    (t : Tenant) :
    ∃ us log new, Turned task ts us log new (o, .between (.stored t))
      (reached ((Stage.stored t).step svc o task)) := by
  rw [Stage.step]
  refine turned_quietly h (Office.registry_forget svc o t) (Office.effects_forget svc o t) ?_
  change CreationTurn task ts.ids o.creating _ ((o.forget svc t).creating.drop task) [] [] _
  rw [Office.creating_forget]
  exact .accept

/-- The steps at which an update and a deletion end well. -/
theorem turned_written (svc : Service) (h : o.env.registry.store.KeepsSound ts) (task : Nat)
    (previous new : Tenant) :
    ∃ us log ids, Turned task ts us log ids (o, .between (.written previous new))
      (reached ((Stage.written previous new).step svc o task)) := by
  rw [Stage.step]
  refine turned_done h ?_ ?_ ?_ rfl rfl
  · rw [Office.registry_forget, Office.registry_forget]
  · rw [Office.effects_forget, Office.effects_forget]
  · rw [Office.creating_forget, Office.creating_forget]

theorem turned_marked (svc : Service) (h : o.env.registry.store.KeepsSound ts) (task : Nat)
    (t : Tenant) :
    ∃ us log new, Turned task ts us log new (o, .between (.marked t))
      (reached ((Stage.marked t).step svc o task)) := by
  rw [Stage.step]
  exact turned_done h (Office.registry_forget svc o t) (Office.effects_forget svc o t)
    (Office.creating_forget svc o t) rfl rfl

/-- An operation that goes on has its turn. -/
theorem turned_go (svc : Service) (h : o.env.registry.store.KeepsSound ts) (task : Nat)
    (p : Progress) : ∃ us log new, Turned task ts us log new (o, p) (p.go svc o task) := by
  cases p with
  | opening t => exact turned_quietly h rfl rfl .still
  | migrating t handle => exact turned_quietly h rfl rfl .still
  | failing t handle f =>
      -- The store is closed first.
      have hclosed : { o with stores := o.stores.close handle }.env.registry = o.env.registry := rfl
      exact turned_fail h hclosed rfl rfl _
  | closed t => exact turned_closed svc h task t
  | between stage =>
      cases stage with
      | begun c => exact turned_start h task c
      | queued t => exact turned_queued svc h task t
      | entered t => exact turned_entered svc h task t
      | free t => exact turned_free svc h task t
      | prepared t handle =>
          rw [go]
          cases svc.migration with
          | none => exact turned_quietly h rfl rfl .still
          | some run =>
              exact ⟨ts, [.migrating t.id], [], h, rfl, (List.append_nil _).symm, .work rfl⟩
      | migrated t handle => exact turned_quietly h rfl rfl .still
      | stored t => exact turned_stored svc h task t
      | read previous new => exact turned_read svc h task previous new
      | written previous new => exact turned_written svc h task previous new
      | known t => exact turned_known svc h task t
      | marked t => exact turned_marked svc h task t
      | missed key =>
          -- The registry counts the look-up.
          exact ⟨ts, [], [], h, (List.append_nil _).symm, (List.append_nil _).symm, .still⟩
      | answered key outcome => exact turned_quietly h rfl rfl .finish
      | done r => exact turned_quietly h rfl rfl .still
      | dropped => exact turned_quietly h rfl rfl .still

theorem turned_opened (h : o.env.registry.store.KeepsSound ts) (task : Nat) (p : Progress)
    (outcome : Except Fault Nat) :
    ∃ us log new, Turned task ts us log new (o, p) (p.opened outcome o task) := by
  cases p with
  | opening t =>
      cases outcome with
      | ok handle => exact turned_quietly h rfl rfl .still
      | error f => exact turned_fail h rfl rfl rfl f
  | _ => exact turned_quietly h rfl rfl .still

theorem turned_migrated (h : o.env.registry.store.KeepsSound ts) (task : Nat) (p : Progress)
    (outcome : Except Fault Unit) :
    ∃ us log new, Turned task ts us log new (o, p) (p.migrated outcome o task) := by
  cases p with
  | migrating t handle =>
      cases outcome with
      | ok u => exact turned_quietly h rfl rfl .still
      | error f => exact turned_quietly h rfl rfl .still
  | _ => exact turned_quietly h rfl rfl .still

theorem turned_cancel (h : o.env.registry.store.KeepsSound ts) (task : Nat) (p : Progress) :
    ∃ us log new, Turned task ts us log new (o, p) (p.cancel o task) := by
  cases p with
  | between stage =>
      cases stage with
      | done r =>
          -- An operation that has answered is not dropped any more.
          exact turned_quietly h rfl rfl .still
      | _ => exact turned_quietly h rfl rfl .leave
  | _ => exact turned_quietly h rfl rfl .leave

end Progress

end Multitenancy
