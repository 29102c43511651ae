import Multitenancy.Text.Assoc
/-!
# Laws of Association Lists

What a map answers after a write or a removal, key by key. The list behind the
map keeps an order, but no law here mentions it: a map is known by `get?`.

## Theorems

* `get?_insert`: A written key has the value written, others keep theirs.
* `get?_filter`: A key that passes a test keeps its value, others lose theirs.
* `get?_erase`: A removed key has no value, others keep theirs.
* `get?_extend`: A key has the last of the values that are written to it.
* `mem_of_get?_ofPairs`: The value of a key is that of one of the pairs.
* `get?_ofPairs`: It is that of the last of them.
* `nodup_insert`, `nodup_erase`, `nodup_ofPairs`: A key occurs once.
* `length_insert`: A new key makes the map longer.
* `mem_iff_get?`: The pairs are then the keys with their values.
-/

namespace Multitenancy

namespace Assoc

section Pairs

variable {κ α : Type} [BEq κ]

theorem get?_cons (k : κ) (a : α) (rest : Assoc κ α) (key : κ) :
    get? ((k, a) :: rest) key = if k == key then some a else rest.get? key := rfl

theorem insert_cons (k : κ) (a : α) (rest : Assoc κ α) (key : κ) (value : α) :
    insert ((k, a) :: rest) key value =
      if k == key then (k, value) :: rest else (k, a) :: rest.insert key value := rfl

end Pairs

variable {κ α : Type} [BEq κ] [LawfulBEq κ]

/-- A key that equals the second of two different keys is not the first. -/
theorem not_beq_of_beq {k key other : κ} (hkey : ¬(k == key) = true)
    (hother : (k == other) = true) :
    ¬(key == other) = true := by
  rw [← eq_of_beq hother, Bool.beq_comm]
  exact hkey

theorem get?_insert (m : Assoc κ α) (key other : κ) (value : α) :
    (m.insert key value).get? other = if key == other then some value else m.get? other := by
  induction m with
  | nil => rfl
  | cons p rest ih =>
      rcases p with ⟨k, a⟩
      rw [insert_cons, get?_cons]
      by_cases hkey : k == key
      · -- The pair of the key is replaced where it stands.
        rw [if_pos hkey, get?_cons, eq_of_beq hkey]
        by_cases hother : key == other
        · rw [if_pos hother, if_pos hother]
        · rw [if_neg hother, if_neg hother, if_neg hother]
      · rw [if_neg hkey, get?_cons, ih]
        by_cases hother : k == other
        · rw [if_pos hother, if_neg (not_beq_of_beq hkey hother), if_pos hother]
        · rw [if_neg hother, if_neg hother]

/-- A key that passes a test keeps its value, and others have none, when they
    are sorted out. -/
theorem get?_filter (m : Assoc κ α) (p : κ → Bool) (key : κ) :
    get? (m.filter fun q => p q.1) key = if p key then m.get? key else none := by
  induction m with
  | nil => exact (ite_self none).symm
  | cons q rest ih =>
      rcases q with ⟨k, a⟩
      rw [List.filter_cons, get?_cons]
      -- A pair with this key is kept exactly when the key passes; other pairs do not matter.
      by_cases hkey : k == key
      · rw [if_pos hkey, eq_of_beq hkey]
        by_cases hp : p key = true
        · rw [if_pos hp, if_pos hp, get?_cons, if_pos BEq.rfl]
        · rw [if_neg hp, if_neg hp, ih, if_neg hp]
      · rw [if_neg hkey]
        by_cases hp : p k = true
        · rw [if_pos hp, get?_cons, if_neg hkey, ih]
        · rw [if_neg hp, ih]

theorem get?_erase (m : Assoc κ α) (key other : κ) :
    (m.erase key).get? other = if key == other then none else m.get? other := by
  refine (get?_filter m (fun k => !(k == key)) other).trans ?_
  rw [Bool.beq_comm]
  cases key == other <;> rfl

/-- What the pairs written say about a key counts, and otherwise what the map
    said before. -/
theorem get?_extend (m more : Assoc κ α) (key : κ) :
    (m.extend more).get? key = ((extend [] more).get? key).or (m.get? key) := by
  induction more generalizing m with
  | nil => rfl
  | cons p rest ih =>
      have hstep : ∀ l : Assoc κ α, l.extend (p :: rest) = (l.insert p.1 p.2).extend rest :=
        fun _ => rfl
      -- The pairs after the first decide; without one of the key the first does.
      rw [hstep, hstep, ih (m.insert p.1 p.2), ih (insert [] p.1 p.2), get?_insert, get?_insert,
        Option.or_assoc]
      by_cases hkey : p.1 == key
      · rw [if_pos hkey, if_pos hkey, Option.some_or]
      · rw [if_neg hkey, if_neg hkey]
        exact congrArg _ (Option.none_or).symm

theorem mem_of_get?_ofPairs {pairs : List (κ × α)} {key : κ} {value : α}
    (h : (ofPairs pairs).get? key = some value) : (key, value) ∈ pairs := by
  induction pairs with
  | nil => exact absurd h (by simp only [ofPairs, extend, List.foldl_nil, get?, reduceCtorEq,
      not_false_eq_true])
  | cons p rest ih =>
      have hstep : ofPairs (p :: rest) = (insert [] p.1 p.2).extend rest := rfl
      rw [hstep, get?_extend, get?_insert, Option.or_eq_some_iff] at h
      -- A pair that comes later counts before the first one.
      rcases h with hrest | ⟨_, hfirst⟩
      · exact List.mem_cons_of_mem _ (ih hrest)
      · by_cases hkey : p.1 == key
        · rw [if_pos hkey, Option.some.injEq] at hfirst
          rw [← eq_of_beq hkey, ← hfirst]
          exact List.mem_cons_self
        · rw [if_neg hkey] at hfirst
          exact absurd hfirst (by simp only [get?, reduceCtorEq, not_false_eq_true])

/-- Of the pairs with one key the last counts. -/
theorem get?_ofPairs (pairs : List (κ × α)) (key : κ) :
    (ofPairs pairs).get? key = pairs.reverse.lookup key := by
  induction pairs with
  | nil => rfl
  | cons p rest ih =>
      rcases p with ⟨k, a⟩
      -- The first pair is put in first, so a later one with its key replaces the value.
      have hstep : ofPairs ((k, a) :: rest) = (insert [] k a).extend rest := rfl
      have hfirst : (insert [] k a : Assoc κ α).get? key = [(k, a)].lookup key := by
        rw [insert, get?_cons, List.lookup_cons, Bool.beq_comm]
        cases key == k <;> rfl
      rw [hstep, get?_extend, List.reverse_cons, List.lookup_append, ← ih, hfirst]
      rfl

/-! ### Keys occur once -/

theorem mem_keys_insert (m : Assoc κ α) (key other : κ) (value : α) :
    other ∈ (m.insert key value).keys ↔ other = key ∨ other ∈ m.keys := by
  induction m with
  | nil => exact List.mem_cons
  | cons p rest ih =>
      rcases p with ⟨k, a⟩
      rw [insert_cons]
      -- The key stands in front and gets the new value, or is put in further on.
      by_cases hkey : k == key
      · rw [if_pos hkey, eq_of_beq hkey, keys, keys, List.map_cons, List.map_cons, List.mem_cons]
        exact ⟨Or.inr, fun h => h.elim Or.inl id⟩
      · rw [if_neg hkey, keys, List.map_cons, List.mem_cons, keys, List.map_cons, List.mem_cons]
        change other = k ∨ other ∈ (insert rest key value).keys ↔ _
        rw [ih]
        exact or_left_comm

theorem nodup_insert {m : Assoc κ α} (h : m.keys.Nodup) (key : κ) (value : α) :
    (m.insert key value).keys.Nodup := by
  induction m with
  | nil => exact List.nodup_cons.mpr ⟨List.not_mem_nil, List.nodup_nil⟩
  | cons p rest ih =>
      rcases p with ⟨k, a⟩
      rcases List.nodup_cons.mp h with ⟨hnew, hrest⟩
      rw [insert_cons]
      by_cases hkey : k == key
      · rw [if_pos hkey]
        exact h
      · rw [if_neg hkey]
        refine List.nodup_cons.mpr ⟨fun hmem => ?_, ih hrest⟩
        -- A key that was there before is written in its own place.
        rcases (mem_keys_insert rest key k value).mp hmem with rfl | hold
        · exact hkey BEq.rfl
        · exact hnew hold

omit [LawfulBEq κ] in
theorem nodup_erase {m : Assoc κ α} (h : m.keys.Nodup) (key : κ) : (m.erase key).keys.Nodup :=
  h.sublist (List.filter_sublist.map Prod.fst)

theorem nodup_extend {m : Assoc κ α} (h : m.keys.Nodup) (more : Assoc κ α) :
    (m.extend more).keys.Nodup := by
  induction more generalizing m with
  | nil => exact h
  | cons p rest ih => exact ih (nodup_insert h p.1 p.2)

theorem nodup_ofPairs (pairs : List (κ × α)) : (ofPairs pairs).keys.Nodup :=
  nodup_extend (m := []) List.nodup_nil pairs

omit [LawfulBEq κ] in
/-- A new key makes the map longer by one. -/
theorem length_insert {m : Assoc κ α} {key : κ} (h : m.get? key = none) (value : α) :
    (m.insert key value).length = m.length + 1 := by
  induction m with
  | nil => rfl
  | cons p rest ih =>
      rcases p with ⟨k, a⟩
      rw [get?_cons] at h
      by_cases hkey : k == key
      · rw [if_pos hkey] at h
        exact absurd h (Option.some_ne_none a)
      · rw [if_neg hkey] at h
        rw [insert_cons, if_neg hkey, List.length_cons, ih h, List.length_cons]

/-- A map in which keys occur once consists of the keys that have a value. -/
theorem mem_iff_get? {m : Assoc κ α} (h : m.keys.Nodup) (key : κ) (value : α) :
    (key, value) ∈ m ↔ m.get? key = some value := by
  induction m with
  | nil => exact iff_of_false List.not_mem_nil (Option.some_ne_none value).symm
  | cons p rest ih =>
      rcases p with ⟨k, a⟩
      rcases List.nodup_cons.mp h with ⟨hnew, hrest⟩
      rw [List.mem_cons, get?_cons, Prod.mk.injEq, ih hrest]
      by_cases hkey : k == key
      · rw [if_pos hkey, Option.some.injEq, eq_of_beq hkey]
        refine ⟨fun hmem => ?_, fun heq => Or.inl ⟨rfl, heq.symm⟩⟩
        rcases hmem with ⟨_, rfl⟩ | hlater
        · rfl
        · -- The key does not come again.
          rw [← ih hrest, ← eq_of_beq hkey] at hlater
          exact absurd (List.mem_map_of_mem hlater) hnew
      · rw [if_neg hkey]
        refine or_iff_right fun heq => hkey ?_
        rw [heq.1]
        exact BEq.rfl

end Assoc

end Multitenancy
