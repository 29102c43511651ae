import Mathlib.Data.List.Induction
/-!
# Histories and Places

Two kinds of lists that systems of several tasks are made of.

A history is a list of events, and an earlier moment is a prefix of it. What
holds at one moment and is kept by every event holds at every later moment.
The tasks stand in a list by their numbers; an event writes the place of one
task, or adds a task at the end.

## Theorems

* `getElem?_set_some_iff`, `set_eq_self`: After one place was written.
* `getElem?_concat_some_iff`, `getElem?_mono`: After more was added.
* `prefix_induction`: From one moment of a history to a later one.
-/

namespace Multitenancy

/-! ### Places in lists -/

section Places

variable {α : Type} {l : List α} {n m : Nat} {a x y : α}

/-- What is in a list after one place was written. -/
theorem getElem?_set_some_iff (hn : l[n]? = some a) :
    (l.set n x)[m]? = some y ↔ (m ≠ n ∧ l[m]? = some y) ∨ (m = n ∧ y = x) := by
  have hlt : n < l.length := (List.getElem?_eq_some_iff.mp hn).1
  -- The place that was written holds the new value and nothing else.
  by_cases hmn : m = n
  · rw [hmn, List.getElem?_set_self hlt, Option.some.injEq]
    constructor
    · intro hxy
      exact Or.inr ⟨rfl, hxy.symm⟩
    · rintro (⟨hne, _⟩ | ⟨_, hxy⟩)
      · exact absurd rfl hne
      · exact hxy.symm
  · -- Any other place holds what it held.
    rw [List.getElem?_set_ne fun he => hmn he.symm]
    constructor
    · intro hy
      exact Or.inl ⟨hmn, hy⟩
    · rintro (⟨_, hy⟩ | ⟨he, _⟩)
      · exact hy
      · exact absurd he hmn

/-- Writing what is there leaves a list as it is. -/
theorem set_eq_self (hn : l[n]? = some a) : l.set n a = l := by
  rcases List.getElem?_eq_some_iff.mp hn with ⟨hlt, rfl⟩
  exact List.set_getElem_self hlt

/-- What is in a list after its end was written. -/
theorem getElem?_concat_some_iff :
    (l ++ [x])[m]? = some y ↔ l[m]? = some y ∨ (m = l.length ∧ y = x) := by
  rw [List.getElem?_append]
  by_cases hlt : m < l.length
  · -- The place is in the old list, so it is not the new one.
    rw [if_pos hlt]
    refine ⟨Or.inl, fun h => h.resolve_right fun ⟨he, _⟩ => ?_⟩
    omega
  · rw [if_neg hlt, List.getElem?_eq_none (Nat.le_of_not_lt hlt), List.getElem?_singleton]
    -- Behind the old list there is one more place, and nothing after it.
    by_cases he : m = l.length
    · rw [if_pos (by omega), Option.some.injEq]
      constructor
      · intro hxy
        exact Or.inr ⟨he, hxy.symm⟩
      · rintro (hno | ⟨_, hxy⟩)
        · exact absurd hno (by simp only [reduceCtorEq, not_false_eq_true])
        · exact hxy.symm
    · rw [if_neg (by omega)]
      constructor
      · intro hno
        exact Or.inl hno
      · rintro (hno | ⟨hm, _⟩)
        · exact hno
        · exact absurd hm he

/-- What is in a list is there when more was added. -/
theorem getElem?_mono {p q : List α} (h : p <+: q) (hn : p[n]? = some x) :
    q[n]? = some x := by
  rcases List.getElem?_eq_some_iff.mp hn with ⟨hlt, rfl⟩
  exact List.prefix_iff_getElem?.mp h n hlt

end Places

/-! ### Histories -/

/-- What is true at one moment and kept by every event is true at every later
    moment. -/
theorem prefix_induction {α : Type} {P : List α → Prop} {p q : List α} (hpq : p <+: q) (hp : P p)
    (hkeep : ∀ h e, p <+: h → h ++ [e] <+: q → P h → P (h ++ [e])) : P q := by
  rcases hpq with ⟨rest, rfl⟩
  -- The last event of the rest comes on top of a history that begins with `p` too.
  induction rest using List.reverseRecOn with
  | nil =>
      rw [List.append_nil]
      exact hp
  | append_singleton rest e ih =>
      rw [← List.append_assoc] at hkeep ⊢
      have hrest : P (p ++ rest) := ih fun h e' hph hhe =>
        hkeep h e' hph (hhe.trans (List.prefix_append _ _))
      exact hkeep _ e (List.prefix_append _ _) (List.prefix_refl _) hrest

/-- The history before an event is part of the history before the last one. -/
theorem prefix_of_concat_prefix {α : Type} {p q : List α} {e last : α}
    (h : p ++ [e] <+: q ++ [last]) : p <+: q := by
  rcases List.prefix_concat_iff.mp h with hsame | hpq
  · exact (List.append_inj' hsame rfl).1 ▸ List.prefix_refl p
  · exact (List.prefix_append p [e]).trans hpq

end Multitenancy
