import Multitenancy.Proofs.Text.Folding
/-!
# Ids That May Be Stored

What the check of a record says about its id.

The check refuses a record for the first thing that is wrong with its id and
looks at nothing else. An id that passes is not blank, so it is never mistaken for a
missing key.

## Theorems

* `check_eq_ok_iff`: Which ids pass.
* `check_congr`: The check looks at the id only.
* `kind_of_check`: A record that is refused is invalid.
* `id_ne_empty`, `trim_id`, `id_not_blank`: What an id is not.
-/

namespace Multitenancy

namespace Tenant

/-- The check looks at nothing but the id. -/
theorem check_congr {t u : Tenant} (h : t.id = u.id) : t.check = u.check := by
  simp only [check, h]

/-- An id passes when it is trimmed, not empty, without forbidden characters,
    and not a name that directories use. -/
theorem check_eq_ok_iff (t : Tenant) :
    t.check = .ok () ↔ t.id ≠ "" ∧ Text.trim t.id.toList = t.id.toList ∧
      (∀ c ∈ t.id.toList, c ∉ forbidden) ∧ t.id ≠ "." ∧ t.id ≠ ".." := by
  have hempty : t.id.toList = [] ↔ t.id = "" := by
    rw [← String.toList_inj, String.toList_empty]
  unfold check
  simp only
  -- The tests are made one after the other, and each has its own fault.
  by_cases htrim : Text.trim t.id.toList = t.id.toList
  · by_cases hnil : t.id = ""
    · rw [if_pos (by rw [htrim, List.isEmpty_iff]; exact hempty.mpr hnil)]
      exact iff_of_false (by simp only [reduceCtorEq, not_false_eq_true]) fun h => h.1 hnil
    · rw [if_neg (by rw [htrim, List.isEmpty_iff]; exact fun h => hnil (hempty.mp h)),
        if_neg (by simp only [htrim, bne_self_eq_false, Bool.false_eq_true, not_false_eq_true])]
      cases hfind : t.id.toList.find? (forbidden.contains ·) with
      | some c =>
          refine iff_of_false (by simp only [reduceCtorEq, not_false_eq_true]) fun h => ?_
          exact h.2.2.1 c (List.mem_of_find?_eq_some hfind)
            (List.contains_iff_mem.mp (List.find?_some hfind))
      | none =>
          have hclean : ∀ c ∈ t.id.toList, c ∉ forbidden := by
            intro c hc hbad
            exact List.find?_eq_none.mp hfind c hc (List.contains_iff_mem.mpr hbad)
          by_cases hdots : t.id = "." ∨ t.id = ".."
          · rw [if_pos (by simpa only [Bool.or_eq_true, beq_iff_eq] using hdots)]
            refine iff_of_false (by simp only [reduceCtorEq, not_false_eq_true]) fun h => ?_
            rcases hdots with hdot | hdots
            · exact h.2.2.2.1 hdot
            · exact h.2.2.2.2 hdots
          · rw [if_neg (by simpa only [Bool.or_eq_true, beq_iff_eq] using hdots)]
            rw [not_or] at hdots
            exact iff_of_true rfl ⟨hnil, htrim, hclean, hdots⟩
  · refine iff_of_false ?_ fun h => htrim h.2.1
    split
    · simp only [reduceCtorEq, not_false_eq_true]
    · rw [if_pos (by simpa only [bne_iff_ne, ne_eq] using htrim)]
      simp only [reduceCtorEq, not_false_eq_true]

/-- Whatever is wrong with an id makes the record invalid, and nothing else. -/
theorem kind_of_check {t : Tenant} {f : Fault} (h : t.check = .error f) : f.kind = .invalid := by
  unfold check at h
  simp only at h
  -- A test that fails gives an invalid record; after the last one there is no fault.
  split at h
  · rw [← Except.error.inj h, Fault.kind]
  · split at h
    · rw [← Except.error.inj h, Fault.kind]
    · split at h
      · rw [← Except.error.inj h, Fault.kind]
      · split at h
        · rw [← Except.error.inj h, Fault.kind]
        · exact absurd h (by simp only [reduceCtorEq, not_false_eq_true])

theorem id_ne_empty {t : Tenant} (h : t.check = .ok ()) : t.id ≠ "" :=
  ((t.check_eq_ok_iff).mp h).1

theorem trim_id {t : Tenant} (h : t.check = .ok ()) : Text.trim t.id.toList = t.id.toList :=
  ((t.check_eq_ok_iff).mp h).2.1

theorem id_not_blank {t : Tenant} (h : t.check = .ok ()) : Text.blankText t.id = false := by
  rw [← Bool.not_eq_true, Text.blankText, ← Text.trim_eq_nil_iff, trim_id h]
  intro hnil
  exact id_ne_empty h (String.toList_inj.mp (by rw [hnil, String.toList_empty]))

end Tenant

end Multitenancy
