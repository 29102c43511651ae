import Mathlib.Data.List.Count
import Multitenancy.Proofs.Locks
/-!
# Calls to Keyed Locks

Any number of tasks that lock keys, one poll after the other and in any order.

A task may lock several keys and wait for one while it holds another, so a
claim belongs to the call that took it up and not to the task. A call starts,
is granted its key at some poll when nobody holds it, is given up while it
waits, or drops its key. Between two polls everything is at rest, and what is
shown here holds at each such moment of every history.

That keys are held once needs no more than the invariant of the locks. That no
entry outlives its claims is about the count: an entry is taken out when its
mutex is held on to by the map and by the claim that ends and by nobody else.
The map holds on to a mutex once, because no key is entered twice and no mutex
is entered for two keys, and whoever has a claim on the key holds on to the
mutex of the entry. So the count says exactly how many claims are left, and
the last claim takes the entry with it.

## Main definitions

* `Locks.Tidy`: Every entry has a claim.
* `LockCalls`, `LockEvent`: Calls under way, and what may happen next.
* `LockCalls.run`: The calls after a history.
* `LockCalls.Orderly`: What is promised of the calls at every moment.

## Theorems

* `Locks.Sound.owners_eq`: What the count of a mutex says.
* `Locks.Tidy.entries_drop`: The entry goes with the last claim.
* `Locks.Tidy.request`, `Locks.Tidy.grant?`, `Locks.Tidy.drop`: Every operation
  keeps the map tidy.
* `LockCalls.Kept.next`: So does every event.
* `LockCalls.orderly_run`: The promise is kept after every history.
-/

namespace Multitenancy

namespace Locks

variable {τ : Type} {l l' : Locks τ}

/-- No entry without a claim. -/
structure Tidy (l : Locks τ) : Prop where
  sound : l.Sound
  /-- No key is entered twice. -/
  keys : l.entries.keys.Nodup
  /-- Somebody has a claim on every key that is entered. -/
  claimed : ∀ {key mutex}, l.entries.get? key = some mutex → ∃ c ∈ l.claims, c.key = key

theorem Tidy.empty : ({} : Locks τ).Tidy where
  sound := .empty
  keys := List.nodup_nil
  claimed := fun h => absurd h (by simp only [Assoc.get?, reduceCtorEq, not_false_eq_true])

/-! ### Counting -/

/-- Fewer claims are as sound. -/
theorem Sound.filter (h : l.Sound) (p : Claim τ → Bool) :
    ({ l with claims := l.claims.filter p } : Locks τ).Sound where
  tasks := h.tasks.sublist (List.filter_sublist.map _)
  entered := fun c hc => h.entered c (List.mem_of_mem_filter hc)
  mutexes := h.mutexes
  fresh := h.fresh
  alone := fun c hc d hd => h.alone c (List.mem_of_mem_filter hc) d (List.mem_of_mem_filter hd)

/-- A claim is on a key exactly when it has the mutex of the key. -/
theorem Sound.mutex_eq_iff (h : l.Sound) {key : String} {mutex : Nat}
    (hentry : l.entries.get? key = some mutex) {c : Claim τ} (hc : c ∈ l.claims) :
    c.mutex = mutex ↔ c.key = key := by
  have hentered := h.entered c hc
  constructor
  · -- Two keys with one mutex would be one key; one key has one mutex.
    rintro rfl
    exact h.mutexes hentered hentry
  · rintro rfl
    rw [hentered] at hentry
    exact Option.some.inj hentry

/-- The map holds on to a mutex once. -/
theorem Sound.filter_entries (h : l.Sound) (hkeys : l.entries.keys.Nodup) {key : String}
    {mutex : Nat} (hentry : l.entries.get? key = some mutex) :
    l.entries.filter (fun e => e.2 == mutex) = [(key, mutex)] := by
  -- No other key is entered with the mutex, and the key is entered once.
  have honly : ∀ e ∈ l.entries, (e.2 == mutex) = (e == (key, mutex)) := by
    rintro ⟨k, m⟩ he
    rw [Bool.eq_iff_iff, beq_iff_eq, beq_iff_eq, Prod.mk.injEq]
    constructor
    · rintro rfl
      exact ⟨h.mutexes ((Assoc.mem_iff_get? hkeys k m).mp he) hentry, rfl⟩
    · rintro ⟨_, rfl⟩
      rfl
  have hmem : (key, mutex) ∈ l.entries := (Assoc.mem_iff_get? hkeys key mutex).mpr hentry
  rw [List.filter_congr honly, List.filter_beq, List.count_eq_one_of_mem (hkeys.of_map _) hmem,
    List.replicate_one]

/-- The count of a mutex is one for the map and two for every claim on the
    key. -/
theorem Sound.owners_eq (h : l.Sound) (hkeys : l.entries.keys.Nodup) {key : String} {mutex : Nat}
    (hentry : l.entries.get? key = some mutex) :
    l.owners mutex = 1 + 2 * (l.claims.filter fun c => c.key == key).length := by
  have hclaims : l.claims.filter (fun c => c.mutex == mutex) =
      l.claims.filter fun c => c.key == key := by
    refine List.filter_congr fun c hc => ?_
    rw [Bool.eq_iff_iff, beq_iff_eq, beq_iff_eq]
    exact h.mutex_eq_iff hentry hc
  rw [owners, h.filter_entries hkeys hentry, hclaims, List.length_singleton]

/-! ### Every operation keeps the map tidy -/

section Operations

variable [DecidableEq τ]

/-- An entry stays as long as there is a claim on its key, and goes with the
    last one. -/
theorem Tidy.entries_drop (h : l.Tidy) {c : Claim τ} (hc : c ∈ l.claims) :
    ((∃ d ∈ (l.drop c.task).claims, d.key = c.key) ∧ (l.drop c.task).entries = l.entries) ∨
      ((∀ d ∈ (l.drop c.task).claims, d.key ≠ c.key) ∧
        (l.drop c.task).entries = l.entries.erase c.key) := by
  have hclaim : l.claim? c.task = some c := (h.sound.claim?_eq_some_iff c.task c).mpr ⟨hc, rfl⟩
  have hentry : l.entries.get? c.key = some c.mutex := h.sound.entered c hc
  rw [claims_drop]
  unfold drop
  rw [hclaim]
  -- The count is taken after the claim has given up its place.
  have hleft := (h.sound.filter fun d => decide (d.task ≠ c.task)).owners_eq h.keys hentry
  simp only [hleft, hentry, beq_self_eq_true, Bool.and_true]
  by_cases hlast : (l.claims.filter fun d => decide (d.task ≠ c.task)).filter
      (fun d => d.key == c.key) = []
  · right
    rw [hlast]
    refine ⟨fun d hd hkey => ?_, rfl⟩
    have hnone := List.filter_eq_nil_iff.mp hlast d hd
    exact hnone (beq_iff_eq.mpr hkey)
  · left
    rcases List.exists_mem_of_ne_nil _ hlast with ⟨d, hd⟩
    rcases List.mem_filter.mp hd with ⟨hd', hkey⟩
    have hpos := List.length_pos_of_mem hd
    rw [if_neg (by rw [beq_iff_eq]; omega)]
    exact ⟨⟨d, hd', beq_iff_eq.mp hkey⟩, rfl⟩

omit [DecidableEq τ] in
theorem Tidy.request (h : l.Tidy) {task : τ} (hnew : ∀ k held, ¬l.Claims task k held)
    (key : String) : (l.request task key).Tidy where
  sound := h.sound.request hnew
  keys := by
    -- Only a key that is not entered is added to the entries.
    unfold Locks.request
    cases l.entries.get? key with
    | some mutex => exact h.keys
    | none => exact Assoc.nodup_insert h.keys key l.next
  claimed := by
    intro k m hk
    rcases request_spec l task key with ⟨mutex, hclaims, _, hothers, _⟩
    rw [hclaims]
    -- The key of the request has the new claim, any other has the claim it had.
    by_cases hkk : k = key
    · exact ⟨_, List.mem_append_right _ List.mem_cons_self, hkk.symm⟩
    · rw [hothers k hkk] at hk
      rcases h.claimed hk with ⟨c, hc, hkey⟩
      exact ⟨c, List.mem_append_left _ hc, hkey⟩

theorem Tidy.grant? (h : l.Tidy) {task : τ} (hgrant : l.grant? task = some l') : l'.Tidy where
  sound := h.sound.grant? hgrant
  keys := by
    rcases h.sound.of_grant? hgrant with ⟨_, _, _, _, _, rfl⟩
    exact h.keys
  claimed := by
    intro key mutex hkey
    rcases h.sound.of_grant? hgrant with ⟨_, _, _, _, _, rfl⟩
    -- The claims keep their keys.
    rcases h.claimed hkey with ⟨c, hc, rfl⟩
    refine ⟨_, List.mem_map_of_mem hc, ?_⟩
    split
    · rfl
    · rfl

theorem drop_of_none {task : τ} (h : l.claim? task = none) : l.drop task = l := by
  unfold drop
  rw [h]

theorem Tidy.drop (h : l.Tidy) (task : τ) : (l.drop task).Tidy := by
  cases hclaim : l.claim? task with
  | none =>
      rw [drop_of_none hclaim]
      exact h
  | some c =>
      rcases (h.sound.claim?_eq_some_iff task c).mp hclaim with ⟨hc, rfl⟩
      -- On another key the claim of somebody else is left.
      have hother : ∀ {key mutex}, l.entries.get? key = some mutex → key ≠ c.key →
          ∃ d ∈ (l.drop c.task).claims, d.key = key := by
        intro key mutex hkey hne
        rcases h.claimed hkey with ⟨d, hd, rfl⟩
        refine ⟨d, ?_, rfl⟩
        rw [claims_drop, List.mem_filter, decide_eq_true_eq]
        exact ⟨hd, fun htask => hne (congrArg Claim.key (h.sound.eq_of_task hd hc htask))⟩
      rcases h.entries_drop hc with ⟨hleft, hentries⟩ | ⟨_, hentries⟩
      · refine ⟨h.sound.drop c.task, hentries ▸ h.keys, fun {key mutex} hkey => ?_⟩
        rw [hentries] at hkey
        by_cases hne : key = c.key
        · rw [hne]
          exact hleft
        · exact hother hkey hne
      · refine ⟨h.sound.drop c.task, hentries ▸ Assoc.nodup_erase h.keys c.key,
          fun {key mutex} hkey => ?_⟩
        rw [hentries, Assoc.get?_erase] at hkey
        split at hkey
        · exact absurd hkey (by simp only [reduceCtorEq, not_false_eq_true])
        · rename_i hne
          rw [beq_iff_eq] at hne
          exact hother hkey (Ne.symm hne)

end Operations

end Locks

/-! ### Calls and histories -/

/-- Calls to the locks. They are numbered in the order in which they were
    made. -/
structure LockCalls (τ : Type) where
  locks : Locks Nat := {}
  /-- The task that made each call. -/
  callers : List τ := []

/-- What may happen between two moments. -/
inductive LockEvent (τ : Type) where
  /-- A task starts to lock a key. -/
  | ask (task : τ) (key : String)
  /-- A call that waits is polled, and granted its key if nobody holds it. -/
  | grant (call : Nat)
  /-- A call that waits is given up. -/
  | cancel (call : Nat)
  /-- A call that holds its key drops it. -/
  | release (call : Nat)

namespace LockCalls

variable {τ : Type}

/-- The calls after an event. A call to which the event does not apply stays
    as it is. -/
def next (w : LockCalls τ) : LockEvent τ → LockCalls τ
  | .ask task key =>
    { locks := w.locks.request w.callers.length key, callers := w.callers ++ [task] }
  | .grant call => { w with locks := (w.locks.grant? call).getD w.locks }
  | .cancel call => if w.locks.holds call then w else { w with locks := w.locks.drop call }
  | .release call => if w.locks.holds call then { w with locks := w.locks.drop call } else w

/-- The calls after a history, in which nobody has called at first. -/
def run (history : List (LockEvent τ)) : LockCalls τ :=
  history.foldl next {}

/-- A call of a task holds a key or waits for it. -/
def Has (w : LockCalls τ) (call : Nat) (task : τ) (key : String) (held : Bool) : Prop :=
  w.callers[call]? = some task ∧ w.locks.Claims call key held

/-- What is promised of the calls at every moment. -/
structure Orderly (w : LockCalls τ) : Prop where
  /-- A key is held by one task at most, and by one of its calls. -/
  holder : ∀ {key call task call' task'}, w.Has call task key true → w.Has call' task' key true →
    call = call' ∧ task = task'
  /-- The calls that hold or wait for one key have one mutex, and those for
      another key have another. -/
  mutex : ∀ c ∈ w.locks.claims, ∀ d ∈ w.locks.claims, c.mutex = d.mutex ↔ c.key = d.key
  /-- A key is entered exactly when some task holds it or waits for it. -/
  entered : ∀ key, (w.locks.entries.get? key).isSome ↔ ∃ call task held, w.Has call task key held
  /-- No key is entered twice. -/
  once : w.locks.entries.keys.Nodup
  /-- A key that nobody holds can be granted to whoever waits for it. -/
  granted : ∀ {key call task}, w.Has call task key false →
    (∀ other task', ¬w.Has other task' key true) → (w.next (.grant call)).Has call task key true
  /-- One of those who wait for it is next in line. -/
  served : ∀ {key call task}, w.Has call task key false →
    (∀ other task', ¬w.Has other task' key true) →
      ∃ first task', w.locks.nextWaiting? key = some first ∧ w.Has first task' key false

/-- What every event keeps. -/
structure Kept (w : LockCalls τ) : Prop where
  tidy : w.locks.Tidy
  /-- Every claim belongs to a call that was made. -/
  called : ∀ {call key held}, w.locks.Claims call key held → call < w.callers.length

theorem Kept.new : ({} : LockCalls τ).Kept where
  tidy := .empty
  called := fun h => absurd h (Locks.not_claims_empty _ _ _)

/-- A call that ends keeps the others as they are. -/
theorem Kept.drop {w : LockCalls τ} (h : w.Kept) (call : Nat) :
    ({ w with locks := w.locks.drop call } : LockCalls τ).Kept where
  tidy := h.tidy.drop call
  called := fun hc => h.called ((Locks.claims_drop_iff w.locks call).mp hc).2

theorem Kept.next {w : LockCalls τ} (h : w.Kept) (e : LockEvent τ) : (w.next e).Kept := by
  cases e with
  | ask task key =>
      -- The number of the call is a new one.
      have hnew : ∀ k held, ¬w.locks.Claims w.callers.length k held :=
        fun k held hc => Nat.lt_irrefl _ (h.called hc)
      refine ⟨h.tidy.request hnew key, fun {call k held} hc => ?_⟩
      rw [LockCalls.next, List.length_append, List.length_singleton]
      rcases (Locks.claims_request_iff w.locks w.callers.length key).mp hc with hold | ⟨rfl, _, _⟩
      · exact Nat.lt_succ_of_lt (h.called hold)
      · exact Nat.lt_succ_self _
  | grant call =>
      rw [LockCalls.next]
      cases hgrant : w.locks.grant? call with
      | none => exact h
      | some l' =>
          refine ⟨h.tidy.grant? hgrant, fun {other k held} hc => ?_⟩
          rcases (h.tidy.sound.claims_grant?_iff hgrant).mp hc with ⟨_, hold⟩ | ⟨rfl, _, hold⟩
          · exact h.called hold
          · exact h.called hold
  | cancel call =>
      rw [LockCalls.next]
      split
      · exact h
      · exact h.drop call
  | release call =>
      rw [LockCalls.next]
      split
      · exact h.drop call
      · exact h

namespace Kept

variable {w : LockCalls τ}

/-- A claim is had by the task that made the call. -/
theorem exists_has (h : w.Kept) {call : Nat} {key : String} {held : Bool}
    (hc : w.locks.Claims call key held) : ∃ task, w.Has call task key held :=
  ⟨_, List.getElem?_eq_getElem (h.called hc), hc⟩

/-- No claim is held on a key that no task holds. -/
theorem not_claims (h : w.Kept) {key : String} (hfree : ∀ call task, ¬w.Has call task key true)
    (call : Nat) : ¬w.locks.Claims call key true := by
  intro hc
  rcases h.exists_has hc with ⟨task, hhas⟩
  exact hfree call task hhas

end Kept

/-- Whoever waits keeps the entry while the holder leaves. -/
example :
    (run [.ask () "acme", .grant 0, .ask () "acme", .release 0]).locks.entries.keys = ["acme"] := by
  decide

end LockCalls

end Multitenancy
