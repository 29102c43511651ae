import Multitenancy.Tenant.Fault
/-!
# Outcomes

Laws of operations that give a result or a fault.

An operation is a sequence of checks with a result at its end. What such a
sequence does is read off its parts: it succeeds when every part succeeds, and
otherwise its fault is that of the first part that fails. `Agree` compares two
operations that stop for the same faults but whose results are of different
kinds; it is how a registry is compared with the list of its tenants.

## Main definitions

* `Agree`: The same fault, or results that are related.

## Theorems

* `bind_eq_ok_iff`: A sequence of two succeeds when both do.
* `forM_eq_ok_iff`: A sequence of checks passes when each passes.
* `exists_of_forM_eq_error`: Its fault is that of one of them.
* `forM_congr`: Equal checks make equal sequences.
* `mapM_eq_ok`: A list is decoded when each member is.
* `run_bind`, `run_ofExcept`, `run_get`: What a program in place leaves behind.
* `Agree.ok_left`, `Agree.ok_right`, `Agree.error_right`: One side tells what
  the other does.
* `Agree.and_right`: What holds of all results of one side comes along.
-/

namespace Multitenancy

section Sequences

variable {α β : Type}

theorem bind_eq_ok_iff {ε : Type} {x : Except ε α} {f : α → Except ε β} {b : β} :
    (x >>= f) = .ok b ↔ ∃ a, x = .ok a ∧ f a = .ok b := by
  cases x with
  | error e =>
      -- A failure is passed on, so neither side can be a success.
      refine iff_of_false (fun h => ?_) (fun ⟨a, h, _⟩ => ?_)
      · exact absurd h (by simp only [bind, Except.bind, reduceCtorEq, not_false_eq_true])
      · exact absurd h (by simp only [reduceCtorEq, not_false_eq_true])
  | ok a =>
      constructor
      · intro h
        exact ⟨a, rfl, h⟩
      · rintro ⟨a', ha, h⟩
        rw [Except.ok.injEq] at ha
        rw [ha]
        exact h

/-- A sequence of checks passes exactly when each of them passes. -/
theorem forM_eq_ok_iff (l : List α) (f : α → Except Fault Unit) :
    l.forM f = .ok () ↔ ∀ x ∈ l, f x = .ok () := by
  induction l with
  | nil => exact iff_of_true rfl fun x hx => absurd hx List.not_mem_nil
  | cons x rest ih =>
      -- The checks after the first run only if the first has passed.
      have hcons : (x :: rest).forM f = (f x >>= fun _ => rest.forM f) := rfl
      rw [hcons, bind_eq_ok_iff, List.forall_mem_cons, ih]
      constructor
      · rintro ⟨_, hx, hrest⟩
        exact ⟨hx, hrest⟩
      · rintro ⟨hx, hrest⟩
        exact ⟨(), hx, hrest⟩

/-- A sequence of checks that does not pass stops for the fault of one of
    them. -/
theorem exists_of_forM_eq_error {l : List α} {f : α → Except Fault Unit} {e : Fault}
    (h : l.forM f = .error e) : ∃ x ∈ l, f x = .error e := by
  induction l with
  | nil =>
      have hnil : ([] : List α).forM f = .ok () := rfl
      rw [hnil] at h
      exact absurd h (by simp only [reduceCtorEq, not_false_eq_true])
  | cons x rest ih =>
      have hcons : (x :: rest).forM f = (f x >>= fun _ => rest.forM f) := rfl
      rw [hcons] at h
      -- Either the first check is the one that fails, or the rest fails as a whole.
      cases hx : f x with
      | error g =>
          rw [hx] at h
          exact ⟨x, List.mem_cons_self, hx.trans h⟩
      | ok u =>
          rw [hx] at h
          rcases ih h with ⟨y, hy, hfail⟩
          exact ⟨y, List.mem_cons_of_mem x hy, hfail⟩

/-- Checks that agree on the members of a list make the same sequence. -/
theorem forM_congr {l : List α} {f g : α → Except Fault Unit} (h : ∀ x ∈ l, f x = g x) :
    l.forM f = l.forM g := by
  induction l with
  | nil => rfl
  | cons x rest ih =>
      rw [List.forall_mem_cons] at h
      have hf : (x :: rest).forM f = (f x >>= fun _ => rest.forM f) := rfl
      have hg : (x :: rest).forM g = (g x >>= fun _ => rest.forM g) := rfl
      rw [hf, hg, h.1, ih h.2]

/-- Decoding each member of a list succeeds when it does for every member. -/
theorem mapM_eq_ok {l : List α} {f : α → Except Fault β} {g : α → β}
    (h : ∀ x ∈ l, f x = .ok (g x)) : l.mapM f = .ok (l.map g) := by
  induction l with
  | nil => rfl
  | cons x rest ih =>
      rw [List.forall_mem_cons] at h
      rw [List.mapM_cons, h.1, ih h.2]
      rfl

end Sequences

/-! ### Programs in place

What such a program has assigned stays, also when it stops for a fault after
that. -/

section InPlace

variable {σ α β : Type}

/-- A program goes on from what its first part has assigned, and stops with
    that when its first part stops. -/
theorem run_bind (p : ExceptT Fault (StateM σ) α) (next : α → ExceptT Fault (StateM σ) β) (s : σ) :
    (p >>= next).run.run s = match p.run.run s with
      | (.ok a, s') => (next a).run.run s'
      | (.error f, s') => (.error f, s') := by
  change (ExceptT.bindCont next (p.run.run s).1).run (p.run.run s).2 = _
  rcases p.run.run s with ⟨_ | _, _⟩ <;> rfl

theorem run_ofExcept (x : Except Fault α) (s : σ) :
    (ofExcept x : ExceptT Fault (StateM σ) α).run.run s = (x, s) := by
  cases x <;> rfl

theorem run_get (s : σ) : (get : ExceptT Fault (StateM σ) σ).run.run s = (.ok s, s) := rfl

end InPlace

/-! ### Outcomes side by side -/

/-- Two operations stop for the same fault, or both succeed with results that
    are related. -/
def Agree {α β : Type} (R : α → β → Prop) : Except Fault α → Except Fault β → Prop
  | .ok a, .ok b => R a b
  | .error f, .error g => f = g
  | _, _ => False

namespace Agree

variable {α β : Type} {R : α → β → Prop} {x : Except Fault α} {y : Except Fault β}

theorem ok_left (h : Agree R x y) {a : α} (hx : x = .ok a) : ∃ b, y = .ok b ∧ R a b := by
  rw [hx] at h
  cases y with
  | ok b => exact ⟨b, rfl, h⟩
  | error f => exact absurd h id

theorem ok_right (h : Agree R x y) {b : β} (hy : y = .ok b) : ∃ a, x = .ok a ∧ R a b := by
  rw [hy] at h
  cases x with
  | ok a => exact ⟨a, rfl, h⟩
  | error f => exact absurd h id

theorem error_left (h : Agree R x y) {f : Fault} (hx : x = .error f) : y = .error f := by
  rw [hx] at h
  cases y with
  | ok b => exact absurd h id
  | error g => exact congrArg Except.error (Eq.symm h)

theorem error_right (h : Agree R x y) {f : Fault} (hy : y = .error f) : x = .error f := by
  rw [hy] at h
  cases x with
  | ok a => exact absurd h id
  | error g => exact congrArg Except.error h

/-- Two operations that agree also have what every result of the second one
    has. -/
theorem and_right {P : β → Prop} (h : Agree R x y) (hP : ∀ b, y = .ok b → P b) :
    Agree (fun a b => R a b ∧ P b) x y := by
  cases hy : y with
  | ok b =>
      rcases h.ok_right hy with ⟨a, rfl, hR⟩
      exact ⟨hR, hP b hy⟩
  | error f =>
      rw [h.error_right hy]
      exact rfl

end Agree

end Multitenancy
