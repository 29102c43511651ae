import Multitenancy.Proofs.Provisioning.Conflicts
/-!
# What Operations Depend On

Two offices with the same environment, whose stores, locks and effects may
differ, do the same.

Updating, deleting and resolving work on the environment alone: on registry,
resolver and clocks. Creating works on stores too, and what it finds there
decides whether it succeeds; but how the environment comes out depends on that
alone, and on nothing else about the stores. So as long as the same creations
succeed in both offices, nobody who asks for tenants can tell which office is
which.

## Main definitions

* `LaterEvent`: An operation run alone, or a change past the operations.
* `Stage.onEnv`: The operation works on the environment alone.
* `Office.creates`: A creation succeeds.
* `Office.SameCreations`: In two offices the same creations succeed.

## Theorems

* `Stage.step_congr`, `Office.run_congr`: Operations on the environment do the
  same in both offices.
* `Office.env_create_congr`: So does a creation that succeeds in both or in
  neither.
* `Office.env_afterwards_congr`: So do events among which the same creations
  succeed.
-/

namespace Multitenancy

/-- What may happen later on: an operation runs alone, or something is done to
    the environment past the operations. That may be a write to the registry,
    a key that the resolver forgets, or time that passes. -/
inductive LaterEvent where
  | call (c : Call)
  | change (f : Env → Env)

namespace Stage

/-- Whether the operation works on the environment alone. -/
def onEnv : Stage → Bool
  | .begun (.create _) => false
  | .begun _ | .read _ _ | .written _ _ | .known _ | .marked _ | .missed _ | .answered _ _ => true
  | .done _ | .dropped => true
  | .queued _ | .entered _ | .free _ | .prepared _ _ | .migrated _ _ | .stored _ => false

/-- Such an operation takes the same steps wherever the environment is the
    same. -/
theorem step_congr (svc : Service) {o o' : Office} (henv : o.env = o'.env) (task task' : Nat)
    {stage : Stage} (honly : stage.onEnv = true) :
    (stage.step svc o task).1.env = (stage.step svc o' task').1.env ∧
      (stage.step svc o task).2 = (stage.step svc o' task').2 ∧
        (stage.step svc o task).2.onEnv = true := by
  -- The answers of registry and resolver, on which the steps branch, are the same.
  cases stage with
  | begun c =>
      cases c with
      | create t => exact absurd honly Bool.false_ne_true
      | update id patch =>
          have hsame : o.activeById id = o'.activeById id := by
            rw [Office.activeById, Office.activeById, henv]
          cases hid : o'.activeById id with
          | ok t => simp only [step, Office.start, hsame, hid, henv, onEnv, and_self]
          | error f => simp only [step, Office.start, hsame, hid, henv, onEnv, and_self]
      | delete id =>
          cases hid : o'.env.registry.findById id with
          | ok t => simp only [step, Office.start, henv, hid, onEnv, and_self]
          | error f => simp only [step, Office.start, henv, hid, onEnv, and_self]
      | resolve key =>
          rcases hprobe : o'.env.resolver.probe o'.env.clock key with ⟨hit, resolver⟩
          cases hit with
          | some outcome => simp only [step, Office.start, henv, hprobe, onEnv, and_self]
          | none => simp only [step, Office.start, henv, hprobe, onEnv, and_self]
  | read previous new =>
      rcases hwrite : o'.env.registry.update new with ⟨result, registry⟩
      cases result with
      | ok u => simp only [step, henv, hwrite, onEnv, and_self]
      | error f => simp only [step, henv, hwrite, onEnv, and_self]
  | written previous new =>
      exact ⟨Office.env_forget_congr svc (Office.env_forget_congr svc henv previous) new, rfl, rfl⟩
  | known t =>
      rcases hwrite : o'.env.registry.softDelete t.id o'.env.wall with ⟨result, registry⟩
      cases result with
      | ok u => simp only [step, henv, hwrite, onEnv, and_self]
      | error f => simp only [step, henv, hwrite, onEnv, and_self]
  | marked t => exact ⟨Office.env_forget_congr svc henv t, rfl, rfl⟩
  | missed key => simp only [step, henv, onEnv, and_self]
  | answered key outcome => simp only [step, henv, onEnv, and_self]
  | done r => exact ⟨henv, rfl, rfl⟩
  | dropped => exact ⟨henv, rfl, rfl⟩
  | queued t => exact absurd honly Bool.false_ne_true
  | entered t => exact absurd honly Bool.false_ne_true
  | free t => exact absurd honly Bool.false_ne_true
  | prepared t handle => exact absurd honly Bool.false_ne_true
  | migrated t handle => exact absurd honly Bool.false_ne_true
  | stored t => exact absurd honly Bool.false_ne_true

end Stage

namespace Office

section Operations

variable {svc : Service} {o o' : Office}

theorem runSteps_congr (svc : Service) (task task' n : Nat) (henv : o.env = o'.env) {stage : Stage}
    (honly : stage.onEnv = true) :
    (runSteps svc task n o stage).1.env = (runSteps svc task' n o' stage).1.env ∧
      (runSteps svc task n o stage).2 = (runSteps svc task' n o' stage).2 := by
  induction n generalizing o o' stage with
  | zero => exact ⟨henv, rfl⟩
  | succ n ih =>
      -- A step that looks at the environment only does the same in both offices, and so does the
      -- rest.
      rcases Stage.step_congr svc henv task task' honly with ⟨hnext, hstage, honly'⟩
      rw [runSteps_succ, runSteps_succ, ← hstage]
      exact ih hnext honly'

/-- An operation that works on the environment alone comes out the same
    wherever the environment is the same. -/
theorem run_congr (henv : o.env = o'.env) {c : Call} (honly : (Stage.begun c).onEnv = true) :
    (o.run svc c).1.env = (o'.run svc c).1.env ∧ (o.run svc c).2 = (o'.run svc c).2 := by
  rcases runSteps_congr svc o.freshTask o'.freshTask maxSteps henv honly with
    ⟨hnext, hstage⟩
  exact ⟨hnext, congrArg Stage.reply? hstage⟩

theorem place_congr (henv : o.env = o'.env) (svc : Service) (t : Tenant) :
    o.place svc t = o'.place svc t := by
  rw [place, place, henv]

/-- A creation has no effect on the environment, or stores the placed record
    and forgets its keys. -/
theorem Created.env_eq {t : Tenant} {result : Except Fault Tenant} {env : Env} {stores : Stores}
    {effects : List Effect} (hc : Created svc o t result env stores effects) :
    match result with
    | .error _ => env = o.env
    | .ok _ => ∃ store, o.env.registry.store.create (o.place svc t) = .ok store ∧
        env = ((o.withStore store).forget svc (o.place svc t)).env := by
  -- There are five ways to fail before the write, none of which touches the environment.
  cases hc with
  | invalid _ => rfl
  | taken _ _ => rfl
  | unread _ _ _ => rfl
  | unprepared _ _ _ _ => rfl
  | unstored _ _ _ _ _ => rfl
  | @stored _ _ _ _ store _ _ _ _ hstore => exact ⟨store, hstore, rfl⟩

end Operations

/-- Whether a creation that runs now succeeds. -/
def creates (svc : Service) (o : Office) (t : Tenant) : Bool :=
  match (o.run svc (.create t)).2 with
  | some (.record (.ok _)) => true
  | _ => false

/-- The office after a later event. -/
def goOn (svc : Service) (o : Office) : LaterEvent → Office
  | .call c => (o.run svc c).1
  | .change f => { o with env := f o.env }

/-- The office after a sequence of later events. -/
def afterwards (svc : Service) (o : Office) (events : List LaterEvent) : Office :=
  events.foldl (goOn svc) o

/-- In two offices the same of the creations among some events succeed. -/
def SameCreations (svc : Service) : Office → Office → List LaterEvent → Prop
  | _, _, [] => True
  | o, o', event :: rest =>
    (∀ t, event = .call (.create t) → o.creates svc t = o'.creates svc t) ∧
      SameCreations svc (o.goOn svc event) (o'.goOn svc event) rest

section Histories

variable {svc : Service} {o o' : Office}

/-- How a creation leaves the environment depends on whether it succeeds, and
    on nothing else about the stores. -/
theorem env_create_congr (hidle : o.Idle) (hidle' : o'.Idle) (henv : o.env = o'.env) {t : Tenant}
    (hsame : o.creates svc t = o'.creates svc t) :
    (o.run svc (.create t)).1.env = (o'.run svc (.create t)).1.env := by
  rcases run_create hidle svc t with ⟨after, result, hrun, _, hc⟩
  rcases run_create hidle' svc t with ⟨after', result', hrun', _, hc'⟩
  have hleft := hc.env_eq
  have hleft' := hc'.env_eq
  -- Either both fail and change nothing, or both store the same record.
  rw [creates, creates, hrun, hrun'] at hsame
  rw [hrun, hrun']
  cases result with
  | error f =>
      cases result' with
      | error f' =>
          simp only at hleft hleft'
          rw [hleft, hleft', henv]
      | ok r' => exact absurd hsame Bool.false_ne_true
  | ok r =>
      cases result' with
      | error f' => exact absurd hsame.symm Bool.false_ne_true
      | ok r' =>
          rcases hleft with ⟨store, hstore, hforget⟩
          rcases hleft' with ⟨store', hstore', hforget'⟩
          rw [← henv, ← place_congr henv, hstore, Except.ok.injEq] at hstore'
          subst hstore'
          rw [hforget, hforget', ← place_congr henv]
          refine env_forget_congr svc ?_ _
          rw [withStore, withStore, withRegistry, withRegistry, henv]

theorem env_goOn_congr (hidle : o.Idle) (hidle' : o'.Idle) (henv : o.env = o'.env)
    {event : LaterEvent}
    (hsame : ∀ t, event = .call (.create t) → o.creates svc t = o'.creates svc t) :
    (o.goOn svc event).env = (o'.goOn svc event).env := by
  -- Only a creation depends on more than the environment, and of it both offices know the outcome.
  cases event with
  | call c =>
      cases c with
      | create t => exact env_create_congr hidle hidle' henv (hsame t rfl)
      | update id patch => exact (run_congr henv rfl).1
      | delete id => exact (run_congr henv rfl).1
      | resolve key => exact (run_congr henv rfl).1
  | change f => exact congrArg f henv

theorem idle_goOn (h : o.Idle) (svc : Service) (event : LaterEvent) : (o.goOn svc event).Idle := by
  cases event with
  | call c => exact idle_happen h svc (.call c)
  | change f => exact h

/-- Where the environments are the same and the same creations succeed, they
    stay the same. -/
theorem env_afterwards_congr (hidle : o.Idle) (hidle' : o'.Idle) (henv : o.env = o'.env)
    {events : List LaterEvent} (hsame : SameCreations svc o o' events) :
    (o.afterwards svc events).env = (o'.afterwards svc events).env := by
  induction events generalizing o o' with
  | nil => exact henv
  | cons event rest ih =>
      -- Both offices are idle again, so the rest can be compared in the same way.
      exact ih (idle_goOn hidle svc event) (idle_goOn hidle' svc event)
        (env_goOn_congr hidle hidle' henv hsame.1) hsame.2

end Histories

end Office

end Multitenancy
