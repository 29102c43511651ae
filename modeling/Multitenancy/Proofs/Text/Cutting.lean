import Multitenancy.Text.Split
/-!
# Laws of Cutting

Where a text is cut, and what the two sides are.

A cut at the first separator is the only way to write the text as two sides
with the separator between them and none on the left; a cut at the last one has
none on the right. Likewise a text is stripped of its ending in one way only.
So each cut is given by an equation between texts, and nobody has to follow the
search for the separator.

## Theorems

* `splitFirst_eq_some_iff`, `splitFirst_eq_none_iff`: The first separator.
* `splitLast_eq_some_iff`, `splitLast_eq_none_iff`: The last separator.
* `beforeEnd_eq_some_iff`: What precedes an ending.
* `splitAll_append_cons`, `splitAll_eq_singleton`: The pieces between all
  separators.
-/

namespace Multitenancy

namespace Text

variable {sep : Char} {cs front back ending : List Char}

theorem splitFirst_eq_none_iff (sep : Char) (cs : List Char) :
    splitFirst sep cs = none ↔ sep ∉ cs := by
  induction cs with
  | nil => exact iff_of_true rfl List.not_mem_nil
  | cons c cs ih =>
      rw [splitFirst, List.mem_cons, not_or, ← ih]
      by_cases hc : c = sep
      · rw [if_pos (beq_iff_eq.mpr hc)]
        exact iff_of_false (Option.some_ne_none _) fun h => h.1 hc.symm
      · rw [if_neg (by rw [beq_iff_eq]; exact hc), Option.map_eq_none_iff]
        exact (and_iff_right (Ne.symm hc)).symm

theorem splitFirst_eq_some_iff :
    splitFirst sep cs = some (front, back) ↔ cs = front ++ sep :: back ∧ sep ∉ front := by
  induction cs generalizing front with
  | nil =>
      refine iff_of_false (fun h => ?_) fun h => ?_
      · exact absurd h (by simp only [splitFirst, reduceCtorEq, not_false_eq_true])
      · exact absurd h.1 (by simp only [List.nil_eq, List.append_eq_nil_iff, reduceCtorEq,
          and_false, not_false_eq_true])
  | cons c cs ih =>
      rw [splitFirst]
      by_cases hc : c = sep
      · -- The separator stands first, so nothing precedes it.
        subst hc
        rw [if_pos (beq_self_eq_true c), Option.some.injEq, Prod.mk.injEq]
        constructor
        · rintro ⟨rfl, rfl⟩
          exact ⟨rfl, List.not_mem_nil⟩
        · rintro ⟨hcut, hnot⟩
          cases front with
          | nil => exact ⟨rfl, List.tail_eq_of_cons_eq hcut⟩
          | cons d front =>
              rw [List.cons_append, List.cons.injEq] at hcut
              exact absurd (hcut.1 ▸ List.mem_cons_self) hnot
      · -- The left side starts with this character.
        rw [if_neg (by rw [beq_iff_eq]; exact hc)]
        constructor
        · intro h
          rcases Option.map_eq_some_iff.mp h with ⟨⟨rest, after⟩, hrest, hpair⟩
          rw [Prod.mk.injEq] at hpair
          rcases hpair with ⟨rfl, rfl⟩
          rcases ih.mp hrest with ⟨rfl, hnot⟩
          refine ⟨rfl, fun hmem => ?_⟩
          rcases List.mem_cons.mp hmem with hsep | hmem
          · exact hc hsep.symm
          · exact hnot hmem
        · rintro ⟨hcut, hnot⟩
          cases front with
          | nil =>
              rw [List.nil_append, List.cons.injEq] at hcut
              exact absurd hcut.1 hc
          | cons d front =>
              rw [List.cons_append, List.cons.injEq] at hcut
              rcases hcut with ⟨rfl, hcut⟩
              have hrest := ih.mpr ⟨hcut, fun hmem => hnot (List.mem_cons_of_mem _ hmem)⟩
              rw [hrest, Option.map_some]

theorem splitLast_eq_none_iff (sep : Char) (cs : List Char) :
    splitLast sep cs = none ↔ sep ∉ cs := by
  rw [splitLast, Option.map_eq_none_iff, splitFirst_eq_none_iff, List.mem_reverse]

/-- The last separator is the first one of the reversed text. -/
theorem splitLast_eq_some_iff :
    splitLast sep cs = some (front, back) ↔ cs = front ++ sep :: back ∧ sep ∉ back := by
  have hreverse : cs = front ++ sep :: back ↔
      cs.reverse = back.reverse ++ sep :: front.reverse := by
    rw [← List.reverse_inj, List.reverse_append, List.reverse_cons, List.append_assoc]
    rfl
  have hmem : sep ∈ back ↔ sep ∈ back.reverse := List.mem_reverse.symm
  rw [hreverse, hmem, ← splitFirst_eq_some_iff, splitLast,
    Option.map_eq_some_iff]
  constructor
  · rintro ⟨⟨after, before⟩, hfirst, hpair⟩
    rw [Prod.mk.injEq] at hpair
    rw [← hpair.1, ← hpair.2, List.reverse_reverse, List.reverse_reverse]
    exact hfirst
  · intro hfirst
    exact ⟨_, hfirst, by rw [List.reverse_reverse, List.reverse_reverse]⟩

theorem splitAll_ne_nil (sep : Char) (cs : List Char) : splitAll sep cs ≠ [] := by
  cases cs with
  | nil => exact List.cons_ne_nil _ _
  | cons c cs =>
      rw [splitAll]
      split
      · exact List.cons_ne_nil _ _
      · split <;> exact List.cons_ne_nil _ _

/-- The pieces of two texts with a separator between them are those of the one
    and those of the other. -/
theorem splitAll_append_cons (sep : Char) (front back : List Char) :
    splitAll sep (front ++ sep :: back) = splitAll sep front ++ splitAll sep back := by
  induction front with
  | nil =>
      have hstart : splitAll sep (sep :: back) = [] :: splitAll sep back := by
        rw [splitAll, if_pos (beq_self_eq_true sep)]
      exact hstart
  | cons c front ih =>
      rw [List.cons_append, splitAll, splitAll, ih]
      -- A separator in front starts a piece of its own; another character joins the first piece.
      by_cases hc : (c == sep) = true
      · rw [if_pos hc, if_pos hc, List.cons_append]
      · rw [if_neg hc, if_neg hc]
        cases hfront : splitAll sep front with
        | nil => exact absurd hfront (splitAll_ne_nil sep front)
        | cons piece rest => rfl

/-- A text without the separator is one piece. -/
theorem splitAll_eq_singleton (h : sep ∉ cs) : splitAll sep cs = [cs] := by
  induction cs with
  | nil => rfl
  | cons c cs ih =>
      rw [List.mem_cons, not_or] at h
      rw [splitAll, if_neg (by rw [beq_iff_eq]; exact Ne.symm h.1), ih h.2]

theorem afterStart_eq_some_iff {start rest : List Char} :
    afterStart start cs = some rest ↔ cs = start ++ rest := by
  induction start generalizing cs with
  | nil => rw [afterStart, Option.some.injEq, List.nil_append]
  | cons p ps ih =>
      cases cs with
      | nil =>
          refine iff_of_false (fun h => ?_) (List.cons_ne_nil _ _).symm
          exact absurd h (by simp only [afterStart, reduceCtorEq, not_false_eq_true])
      | cons c cs =>
          rw [afterStart, List.cons_append, List.cons.injEq, ← ih]
          by_cases hp : p = c
          · rw [if_pos (beq_iff_eq.mpr hp)]
            exact (and_iff_right hp.symm).symm
          · rw [if_neg (by rw [beq_iff_eq]; exact hp)]
            exact iff_of_false (Option.some_ne_none _).symm fun h => hp h.1.symm

theorem beforeEnd_eq_some_iff : beforeEnd ending cs = some front ↔ cs = front ++ ending := by
  rw [beforeEnd, Option.map_eq_some_iff]
  constructor
  · rintro ⟨rest, hrest, rfl⟩
    rw [← List.reverse_inj, afterStart_eq_some_iff.mp hrest, List.reverse_append,
      List.reverse_reverse]
  · rintro rfl
    exact ⟨front.reverse, afterStart_eq_some_iff.mpr (List.reverse_append),
      List.reverse_reverse front⟩

theorem beforeEnd_eq_none_iff (ending cs : List Char) :
    beforeEnd ending cs = none ↔ ¬ending <:+ cs := by
  rw [Option.eq_none_iff_forall_ne_some]
  constructor
  · rintro h ⟨front, rfl⟩
    exact h front (beforeEnd_eq_some_iff.mpr rfl)
  · intro h front hfront
    exact h ⟨front, (beforeEnd_eq_some_iff.mp hfront).symm⟩

end Text

end Multitenancy
