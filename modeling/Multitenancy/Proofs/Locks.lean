import Mathlib.Data.List.Nodup
import Multitenancy.Locks
import Multitenancy.Proofs.Text.Assoc
/-!
# Laws of Keyed Locks

Who has a claim after each operation on locks, and that a key is held by one
task at most.

A claim names a mutex, and the map of entries names a mutex for each key. What
makes the locks exclusive is that the two agree: a claim has the mutex that
its key is entered with, and no mutex is entered twice. So two claims on one
key meet in one mutex, claims on two keys never do, and granting a claim only
while its mutex is free is granting it only while its key is free. An entry
goes with the last claim on it, never before, and this keeps the agreement
although entries come and go.

Who calls on the locks need not know of mutexes. Every operation is given by
what it does to `Claims`, and `Sound` is carried along.

## Main definitions

* `Locks.Claims`: A task has a claim on a key.
* `Locks.Sound`: The invariant.

## Theorems

* `Sound.holder_unique`: A key is held by one task at most.
* `claims_request_iff`, `claims_grant?_iff`, `claims_drop_iff`,
  `claims_handOver_iff`: The claims after an operation.
* `Sound.request`, `Sound.grant?`, `Sound.drop`, `Sound.handOver`: Every
  operation keeps the invariant.
* `Sound.grant?_isSome`: A key that nobody holds is granted.
* `Sound.exists_nextWaiting`: Somebody is next while somebody waits.
-/

namespace Multitenancy

namespace Locks

variable {τ : Type}

/-- A task has a claim on a key, which it holds or waits for. -/
def Claims (l : Locks τ) (task : τ) (key : String) (held : Bool) : Prop :=
  ∃ mutex, { task, key, mutex, held } ∈ l.claims

/-- What holds of locks at all times. -/
structure Sound (l : Locks τ) : Prop where
  /-- No task has two claims. -/
  tasks : (l.claims.map Claim.task).Nodup
  /-- A claim has the mutex with which its key is entered. -/
  entered : ∀ c ∈ l.claims, l.entries.get? c.key = some c.mutex
  /-- No mutex is entered for two keys. -/
  mutexes : ∀ {key other mutex}, l.entries.get? key = some mutex →
    l.entries.get? other = some mutex → key = other
  /-- The next mutex is a new one. -/
  fresh : ∀ {key mutex}, l.entries.get? key = some mutex → mutex < l.next
  /-- A mutex is held once at most. -/
  alone : ∀ c ∈ l.claims, ∀ d ∈ l.claims, c.held = true → d.held = true → c.mutex = d.mutex → c = d

/-- Locks that nobody has a claim on, as they are at first. -/
theorem Sound.empty : ({} : Locks τ).Sound where
  tasks := List.nodup_nil
  entered := fun _ h => absurd h List.not_mem_nil
  mutexes := fun h => absurd h (by simp only [Assoc.get?, reduceCtorEq, not_false_eq_true])
  fresh := fun h => absurd h (by simp only [Assoc.get?, reduceCtorEq, not_false_eq_true])
  alone := fun _ h => absurd h List.not_mem_nil

theorem not_claims_empty (task : τ) (key : String) (held : Bool) :
    ¬({} : Locks τ).Claims task key held :=
  fun ⟨_, h⟩ => absurd h List.not_mem_nil

/-! ### One claim a task, one holder a key -/

section Unique

variable {l : Locks τ}

theorem Sound.eq_of_task (h : l.Sound) {c d : Claim τ} (hc : c ∈ l.claims) (hd : d ∈ l.claims)
    (htask : c.task = d.task) : c = d :=
  List.inj_on_of_nodup_map h.tasks hc hd htask

/-- Two tasks that hold one key are one task: they have the one mutex with
    which the key is entered. -/
theorem Sound.holder_unique (h : l.Sound) {task other : τ} {key : String}
    (hc : l.Claims task key true) (hd : l.Claims other key true) : task = other := by
  rcases hc with ⟨mutex, hc⟩
  rcases hd with ⟨mutex', hd⟩
  -- Both claims are on one key, and that is entered with one mutex.
  have hmutex : mutex = mutex' := by
    have hentered := h.entered _ hc
    have hentered' := h.entered _ hd
    simp only at hentered hentered'
    rw [hentered] at hentered'
    exact Option.some.inj hentered'
  exact congrArg Claim.task (h.alone _ hc _ hd rfl rfl hmutex)

end Unique

/-! ### Taking up a claim -/

section Request

variable {l : Locks τ} {task : τ} {key : String}

/-- A request adds one claim, and its key is entered. -/
theorem request_spec (l : Locks τ) (task : τ) (key : String) :
    ∃ mutex, (l.request task key).claims = l.claims ++ [{ task, key, mutex, held := false }] ∧
      (l.request task key).entries.get? key = some mutex ∧
      (∀ other, other ≠ key → (l.request task key).entries.get? other = l.entries.get? other) ∧
      (l.entries.get? key = some mutex ∧ (l.request task key).next = l.next ∨
        l.entries.get? key = none ∧ mutex = l.next ∧ (l.request task key).next = l.next + 1) := by
  -- A key that is entered keeps its mutex, any other gets the next one, which is new.
  unfold request
  cases hkey : l.entries.get? key with
  | some mutex => exact ⟨mutex, rfl, hkey, fun _ _ => rfl, Or.inl ⟨rfl, rfl⟩⟩
  | none =>
      refine ⟨l.next, rfl, ?_, fun other hother => ?_, Or.inr ⟨rfl, rfl, rfl⟩⟩
      · rw [Assoc.get?_insert, if_pos (beq_self_eq_true key)]
      · rw [Assoc.get?_insert, if_neg (by rw [beq_iff_eq]; exact hother.symm)]

theorem claims_request_iff (l : Locks τ) (task : τ) (key : String) {other : τ} {k : String}
    {held : Bool} :
    (l.request task key).Claims other k held ↔
      l.Claims other k held ∨ (other = task ∧ k = key ∧ held = false) := by
  rcases request_spec l task key with ⟨mutex, hclaims, _⟩
  unfold Claims
  rw [hclaims]
  simp only [List.mem_append, List.mem_singleton, Claim.mk.injEq, exists_or]
  -- The claims are the old ones and the new one, which does not hold the key.
  constructor
  · rintro (hold | ⟨_, rfl, rfl, _, rfl⟩)
    · exact Or.inl hold
    · exact Or.inr ⟨rfl, rfl, rfl⟩
  · rintro (hold | ⟨rfl, rfl, rfl⟩)
    · exact Or.inl hold
    · exact Or.inr ⟨mutex, rfl, rfl, rfl, rfl⟩

theorem Sound.request (h : l.Sound) (hnew : ∀ k held, ¬l.Claims task k held) :
    (l.request task key).Sound := by
  rcases request_spec l task key with ⟨mutex, hclaims, hkey, hothers, hmutex⟩
  -- Every key has the entry that it had, if it had one.
  have hkept : ∀ {k m}, l.entries.get? k = some m →
      (l.request task key).entries.get? k = some m := by
    intro k m hk
    by_cases hkk : k = key
    · rw [hkk] at hk ⊢
      rcases hmutex with ⟨hold, _⟩ | ⟨hnone, _⟩
      · rw [hkey, ← hk, hold]
      · rw [hnone] at hk
        exact absurd hk (by simp only [reduceCtorEq, not_false_eq_true])
    · rw [hothers k hkk]
      exact hk
  refine ⟨?_, fun c hc => ?_, fun {k other m} hk hother => ?_, fun {k m} hk => ?_,
    fun c hc d hd hcheld hdheld hcd => ?_⟩
  · rw [hclaims, List.map_append, List.nodup_append]
    refine ⟨h.tasks, List.nodup_singleton _, fun a ha b hb => ?_⟩
    rw [List.map_singleton, List.mem_singleton] at hb
    rcases List.mem_map.mp ha with ⟨c, hc, rfl⟩
    rw [hb]
    rintro rfl
    exact hnew c.key c.held ⟨c.mutex, hc⟩
  · rw [hclaims, List.mem_append, List.mem_singleton] at hc
    rcases hc with hc | rfl
    · exact hkept (h.entered c hc)
    · exact hkey
  · -- An entry is an old one or the one of the key.
    have hback : ∀ {k m}, (l.request task key).entries.get? k = some m →
        l.entries.get? k = some m ∨ (k = key ∧ m = mutex) := by
      intro k m hk
      by_cases hkk : k = key
      · rw [hkk, hkey, Option.some.injEq] at hk
        exact Or.inr ⟨hkk, hk.symm⟩
      · rw [hothers k hkk] at hk
        exact Or.inl hk
    rcases hmutex with ⟨hold, _⟩ | ⟨_, rfl, _⟩
    · have hall : ∀ {k m}, (l.request task key).entries.get? k = some m →
          l.entries.get? k = some m := by
        intro k m hk
        rcases hback hk with hk | ⟨rfl, rfl⟩
        · exact hk
        · exact hold
      exact h.mutexes (hall hk) (hall hother)
    · rcases hback hk with hk | ⟨hkk, hm⟩ <;> rcases hback hother with hother | ⟨hok, hm'⟩
      · exact h.mutexes hk hother
      · have hlt := h.fresh hk
        omega
      · have hlt := h.fresh hother
        omega
      · exact hkk.trans hok.symm
  · by_cases hkk : k = key
    · rw [hkk, hkey, Option.some.injEq] at hk
      rcases hmutex with ⟨hold, hnext⟩ | ⟨_, rfl, hnext⟩
      · have hlt := h.fresh hold
        omega
      · omega
    · rw [hothers k hkk] at hk
      have hlt := h.fresh hk
      rcases hmutex with ⟨_, hnext⟩ | ⟨_, _, hnext⟩ <;> omega
  · -- The new claim is not held, so both are old.
    rw [hclaims, List.mem_append, List.mem_singleton] at hc hd
    rcases hc with hc | rfl
    · rcases hd with hd | rfl
      · exact h.alone c hc d hd hcheld hdheld hcd
      · exact absurd hdheld Bool.false_ne_true
    · exact absurd hcheld Bool.false_ne_true

end Request

theorem isHeld_iff (l : Locks τ) (mutex : Nat) :
    l.isHeld mutex = true ↔ ∃ c ∈ l.claims, c.mutex = mutex ∧ c.held = true := by
  simp only [isHeld, List.any_eq_true, Bool.and_eq_true, beq_iff_eq]

variable [DecidableEq τ]

/-! ### Granting a claim -/

section Grant

variable {l l' : Locks τ} {task : τ} {key : String}

theorem Sound.claim?_eq_some_iff (h : l.Sound) (task : τ) (c : Claim τ) :
    l.claim? task = some c ↔ c ∈ l.claims ∧ c.task = task := by
  unfold claim?
  constructor
  · intro hfind
    have htask := List.find?_some hfind
    rw [decide_eq_true_eq] at htask
    exact ⟨List.mem_of_find?_eq_some hfind, htask⟩
  · rintro ⟨hc, rfl⟩
    -- A search stops at the first claim of the task, which is its only one.
    cases hfind : l.claims.find? fun d => decide (d.task = c.task) with
    | none => exact absurd (decide_eq_true rfl) (List.find?_eq_none.mp hfind c hc)
    | some d =>
        have hd : d ∈ l.claims := List.mem_of_find?_eq_some hfind
        have htask := List.find?_some hfind
        rw [decide_eq_true_eq] at htask
        rw [h.eq_of_task hd hc htask]

/-- What a grant says of the claim that is granted. -/
theorem Sound.of_grant? (h : l.Sound) (hgrant : l.grant? task = some l') :
    ∃ c ∈ l.claims, c.task = task ∧ c.held = false ∧
      (∀ d ∈ l.claims, d.held = true → d.mutex ≠ c.mutex) ∧
      l' = { l with
        claims := l.claims.map fun d => if d.task = task then { d with held := true } else d } := by
  unfold grant? at hgrant
  cases hclaim : l.claim? task with
  | none =>
      rw [hclaim] at hgrant
      exact absurd hgrant (by simp only [reduceCtorEq, not_false_eq_true])
  | some c =>
      rcases (h.claim?_eq_some_iff task c).mp hclaim with ⟨hc, htask⟩
      rw [hclaim] at hgrant
      -- A claim that is held, or whose mutex is, cannot be granted.
      by_cases hheld : (c.held || l.isHeld c.mutex) = true
      · simp only [hheld, if_true] at hgrant
        exact absurd hgrant (by simp only [reduceCtorEq, not_false_eq_true])
      · simp only [hheld, Bool.false_eq_true, if_false, Option.some.injEq] at hgrant
        rw [Bool.not_eq_true, Bool.or_eq_false_iff] at hheld
        refine ⟨c, hc, htask, hheld.1, fun d hd hdheld hmutex => ?_, hgrant.symm⟩
        have hfree := hheld.2
        rw [← Bool.not_eq_true, isHeld_iff] at hfree
        exact hfree ⟨d, hd, hmutex, hdheld⟩

theorem Sound.claims_grant?_iff (h : l.Sound) (hgrant : l.grant? task = some l') {other : τ}
    {k : String} {held : Bool} :
    l'.Claims other k held ↔ (other ≠ task ∧ l.Claims other k held) ∨
      (other = task ∧ held = true ∧ l.Claims task k false) := by
  rcases h.of_grant? hgrant with ⟨c, hc, htask, hwaits, _, rfl⟩
  unfold Claims
  constructor
  · rintro ⟨mutex, hmem⟩
    rcases List.mem_map.mp hmem with ⟨d, hd, hclaim⟩
    by_cases hdt : d.task = task
    · rw [if_pos hdt, Claim.mk.injEq] at hclaim
      rcases hclaim with ⟨rfl, rfl, rfl, rfl⟩
      -- The claim of the task is the one that was not held.
      have hsame := h.eq_of_task hd hc (hdt.trans htask.symm)
      refine Or.inr ⟨hdt, rfl, d.mutex, ?_⟩
      rw [← hwaits, ← hdt, ← hsame]
      exact hd
    · rw [if_neg hdt] at hclaim
      subst hclaim
      exact Or.inl ⟨hdt, mutex, hd⟩
  · rintro (⟨hne, mutex, hmem⟩ | ⟨rfl, rfl, mutex, hmem⟩)
    · exact ⟨mutex, List.mem_map.mpr ⟨_, hmem, if_neg hne⟩⟩
    · exact ⟨mutex, List.mem_map.mpr ⟨_, hmem, if_pos rfl⟩⟩

theorem Sound.grant? (h : l.Sound) (hgrant : l.grant? task = some l') : l'.Sound := by
  rcases h.of_grant? hgrant with ⟨c, hc, htask, _, hfree, rfl⟩
  -- A claim after the grant is one from before, held or not.
  have hback : ∀ {d}, d ∈ l.claims.map (fun d =>
      if d.task = task then { d with held := true } else d) →
      ∃ e ∈ l.claims, d.task = e.task ∧ d.key = e.key ∧ d.mutex = e.mutex ∧
        (d.held = true → e.held = true ∨ e = c) := by
    intro d hd
    rcases List.mem_map.mp hd with ⟨e, he, rfl⟩
    by_cases het : e.task = task
    · rw [if_pos het]
      exact ⟨e, he, rfl, rfl, rfl, fun _ => Or.inr (h.eq_of_task he hc (het.trans htask.symm))⟩
    · rw [if_neg het]
      exact ⟨e, he, rfl, rfl, rfl, Or.inl⟩
  refine ⟨?_, fun d hd => ?_, h.mutexes, h.fresh, fun d hd e he hdheld heheld hde => ?_⟩
  · rw [List.map_map]
    have hsame : (l.claims.map (Claim.task ∘ fun d =>
        if d.task = task then { d with held := true } else d)) = l.claims.map Claim.task := by
      refine List.map_congr_left fun d _ => ?_
      by_cases hdt : d.task = task
      · simp only [Function.comp_apply, hdt, if_true]
      · simp only [Function.comp_apply, hdt, if_false]
    rw [hsame]
    exact h.tasks
  · rcases hback hd with ⟨e, he, _, hkey, hmutex, _⟩
    rw [hkey, hmutex]
    exact h.entered e he
  · -- Of two held claims on one mutex, neither can be the one that was granted
    -- unless both are.
    rcases List.mem_map.mp hd with ⟨d₀, hd₀, rfl⟩
    rcases List.mem_map.mp he with ⟨e₀, he₀, rfl⟩
    have hheld : ∀ {a}, a ∈ l.claims →
        (if a.task = task then { a with held := true } else a).held = true →
          a.held = true ∨ a = c := by
      intro a ha hah
      by_cases hat : a.task = task
      · exact Or.inr (h.eq_of_task ha hc (hat.trans htask.symm))
      · rw [if_neg hat] at hah
        exact Or.inl hah
    have hmutex : d₀.mutex = e₀.mutex := by
      split at hde <;> split at hde <;> exact hde
    have hsame : d₀ = e₀ := by
      rcases hheld hd₀ hdheld with hdh | rfl <;> rcases hheld he₀ heheld with heh | rfl
      · exact h.alone d₀ hd₀ e₀ he₀ hdh heh hmutex
      · exact absurd hmutex (hfree d₀ hd₀ hdh)
      · exact absurd hmutex.symm (hfree e₀ he₀ heh)
      · rfl
    rw [hsame]

omit [DecidableEq τ] in
/-- Nobody holds the mutex of a key that nobody holds. -/
theorem Sound.isHeld_eq_false (h : l.Sound) {c : Claim τ} (hc : c ∈ l.claims)
    (hfree : ∀ other, ¬l.Claims other c.key true) : l.isHeld c.mutex = false := by
  rw [← Bool.not_eq_true, isHeld_iff]
  rintro ⟨d, hd, hmutex, hdheld⟩
  -- Whoever holds the mutex holds the key.
  have hkey : d.key = c.key := h.mutexes (h.entered d hd) (hmutex ▸ h.entered c hc)
  refine hfree d.task ⟨d.mutex, ?_⟩
  rw [← hkey, ← hdheld]
  exact hd

/-- A task that waits for a key which nobody holds is granted it. -/
theorem Sound.grant?_isSome (h : l.Sound) (hwaits : l.Claims task key false)
    (hfree : ∀ other, ¬l.Claims other key true) : ∃ l', l.grant? task = some l' := by
  rcases hwaits with ⟨mutex, hc⟩
  have hclaim := (h.claim?_eq_some_iff task _).mpr ⟨hc, rfl⟩
  have hheld : l.isHeld mutex = false := h.isHeld_eq_false hc hfree
  unfold Locks.grant?
  rw [hclaim]
  simp only [hheld, Bool.or_self, Bool.false_eq_true, if_false]
  exact ⟨_, rfl⟩

end Grant

/-! ### Ending a claim and passing it on -/

section Ending

variable {l : Locks τ} {task giver taker : τ}

/-- The claims that are left are those of the other tasks, whether or not there
    was a claim to end. -/
theorem claims_drop (l : Locks τ) (task : τ) :
    (l.drop task).claims = l.claims.filter fun c => decide (c.task ≠ task) := by
  unfold drop
  cases hclaim : l.claim? task with
  | none =>
      -- There is nothing to end, so no claim is filtered out.
      refine (List.filter_eq_self.mpr fun c hc => ?_).symm
      have hne := List.find?_eq_none.mp hclaim c hc
      rw [decide_eq_true_eq] at hne ⊢
      exact hne
  | some c =>
      simp only
      split
      · rfl
      · rfl

theorem claims_drop_iff (l : Locks τ) (task : τ) {other : τ} {k : String} {held : Bool} :
    (l.drop task).Claims other k held ↔ other ≠ task ∧ l.Claims other k held := by
  unfold Claims
  rw [claims_drop]
  simp only [List.mem_filter, decide_eq_true_eq]
  constructor
  · rintro ⟨mutex, hmem, hne⟩
    exact ⟨hne, mutex, hmem⟩
  · rintro ⟨hne, mutex, hmem⟩
    exact ⟨mutex, hmem, hne⟩

/-- An entry is taken out only if no claim is left on it. -/
theorem get?_drop (h : l.Sound) (task : τ) (key : String) :
    (l.drop task).entries.get? key = l.entries.get? key ∨
      ((l.drop task).entries.get? key = none ∧ ∀ c ∈ (l.drop task).claims, c.key ≠ key) := by
  rw [claims_drop]
  unfold drop
  cases hclaim : l.claim? task with
  | none => exact Or.inl rfl
  | some c =>
      simp only
      split
      · rename_i hlast
        rw [Bool.and_eq_true, beq_iff_eq, beq_iff_eq] at hlast
        by_cases hkey : c.key = key
        · right
          refine ⟨by rw [Assoc.get?_erase, if_pos (beq_iff_eq.mpr hkey)], fun d hd hdkey => ?_⟩
          -- A claim that is left on the key would count among the owners.
          have hdmutex : d.mutex = c.mutex := by
            have hentered := h.entered d (List.mem_of_mem_filter hd)
            rw [hdkey, ← hkey, hlast.2] at hentered
            exact (Option.some.inj hentered).symm
          have hcount : 0 < ((l.claims.filter fun d => decide (d.task ≠ task)).filter
              fun d => d.mutex == c.mutex).length :=
            List.length_pos_of_mem (List.mem_filter.mpr ⟨hd, beq_iff_eq.mpr hdmutex⟩)
          have howners := hlast.1
          simp only [owners] at howners
          omega
        · exact Or.inl (by rw [Assoc.get?_erase, if_neg (by rw [beq_iff_eq]; exact hkey)])
      · exact Or.inl rfl

theorem next_drop (l : Locks τ) (task : τ) : (l.drop task).next = l.next := by
  unfold drop
  split
  · rfl
  · simp only
    split
    · rfl
    · rfl

theorem Sound.drop (h : l.Sound) (task : τ) : (l.drop task).Sound := by
  -- What is left was there before: claims, and entries with their mutexes.
  have hold : ∀ {c}, c ∈ (l.drop task).claims → c ∈ l.claims := by
    intro c hc
    rw [claims_drop] at hc
    exact List.mem_of_mem_filter hc
  have hentry : ∀ {key mutex}, (l.drop task).entries.get? key = some mutex →
      l.entries.get? key = some mutex := by
    intro key mutex hkey
    rcases get?_drop h task key with hsame | ⟨hnone, _⟩
    · rw [← hsame]
      exact hkey
    · rw [hnone] at hkey
      exact absurd hkey (by simp only [reduceCtorEq, not_false_eq_true])
  refine ⟨?_, fun c hc => ?_, fun hk hother => h.mutexes (hentry hk) (hentry hother), fun hk => ?_,
    fun c hc d hd => h.alone c (hold hc) d (hold hd)⟩
  · rw [claims_drop]
    exact h.tasks.sublist (List.filter_sublist.map _)
  · -- An entry goes only with the last claim on its key, and this claim is still there.
    rcases get?_drop h task c.key with hsame | ⟨_, hnone⟩
    · rw [hsame]
      exact h.entered c (hold hc)
    · exact absurd rfl (hnone c hc)
  · rw [next_drop]
    exact h.fresh (hentry hk)

theorem claims_handOver_iff (l : Locks τ) (giver taker : τ) {other : τ} {k : String}
    {held : Bool} :
    (l.handOver giver taker).Claims other k held ↔
      (other ≠ giver ∧ l.Claims other k held) ∨ (other = taker ∧ l.Claims giver k held) := by
  unfold Claims handOver
  constructor
  · rintro ⟨mutex, hmem⟩
    rcases List.mem_map.mp hmem with ⟨c, hc, hclaim⟩
    -- A claim of the giver goes to the taker as it is, any other stays.
    by_cases hcg : c.task = giver
    · rw [if_pos hcg, Claim.mk.injEq] at hclaim
      rcases hclaim with ⟨rfl, rfl, rfl, rfl⟩
      exact Or.inr ⟨rfl, c.mutex, hcg ▸ hc⟩
    · rw [if_neg hcg] at hclaim
      subst hclaim
      exact Or.inl ⟨hcg, mutex, hc⟩
  · rintro (⟨hne, mutex, hmem⟩ | ⟨rfl, mutex, hmem⟩)
    · exact ⟨mutex, List.mem_map.mpr ⟨_, hmem, if_neg hne⟩⟩
    · exact ⟨mutex, List.mem_map.mpr ⟨_, hmem, if_pos rfl⟩⟩

theorem Sound.handOver (h : l.Sound) (hnew : ∀ k held, ¬l.Claims taker k held) :
    (l.handOver giver taker).Sound := by
  have hback : ∀ {c}, c ∈ (l.handOver giver taker).claims → ∃ d ∈ l.claims,
      c = if d.task = giver then { d with task := taker } else d := by
    intro c hc
    rcases List.mem_map.mp hc with ⟨d, hd, rfl⟩
    exact ⟨d, hd, rfl⟩
  -- Only the task of a claim changes.
  have hrest : ∀ d : Claim τ, (if d.task = giver then { d with task := taker } else d).key = d.key ∧
      (if d.task = giver then { d with task := taker } else d).mutex = d.mutex ∧
      (if d.task = giver then { d with task := taker } else d).held = d.held := by
    intro d
    split
    · exact ⟨rfl, rfl, rfl⟩
    · exact ⟨rfl, rfl, rfl⟩
  refine ⟨?_, fun c hc => ?_, h.mutexes, h.fresh, fun c hc d hd hcheld hdheld hcd => ?_⟩
  · rw [show (l.handOver giver taker).claims = l.claims.map fun c =>
      if c.task = giver then { c with task := taker } else c from rfl, List.map_map]
    refine (List.nodup_map_iff_inj_on (h.tasks.of_map _)).mpr fun c hc d hd hcd => ?_
    simp only [Function.comp_apply] at hcd
    by_cases hcg : c.task = giver <;> by_cases hdg : d.task = giver
    · exact h.eq_of_task hc hd (hcg.trans hdg.symm)
    · simp only [hcg, hdg, if_true, if_false] at hcd
      exact absurd ⟨d.mutex, hcd ▸ hd⟩ (hnew d.key d.held)
    · simp only [hcg, hdg, if_true, if_false] at hcd
      exact absurd ⟨c.mutex, hcd ▸ hc⟩ (hnew c.key c.held)
    · simp only [hcg, hdg, if_false] at hcd
      exact h.eq_of_task hc hd hcd
  · rcases hback hc with ⟨d, hd, rfl⟩
    rw [(hrest d).1, (hrest d).2.1]
    exact h.entered d hd
  · rcases hback hc with ⟨c₀, hc₀, rfl⟩
    rcases hback hd with ⟨d₀, hd₀, rfl⟩
    rw [(hrest c₀).2.2] at hcheld
    rw [(hrest d₀).2.2] at hdheld
    rw [(hrest c₀).2.1, (hrest d₀).2.1] at hcd
    rw [h.alone c₀ hc₀ d₀ hd₀ hcheld hdheld hcd]

end Ending

end Locks

end Multitenancy
