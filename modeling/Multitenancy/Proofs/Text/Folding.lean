import Mathlib.Data.List.DropRight
import Multitenancy.Tenant.Basic
/-!
# Laws of Folded Keys

What folding a routing key forgets, and that folding twice forgets no more.

A stored domain or subdomain is a folded key: trimmed, and lowered from A to Z.
Two things are needed of that form everywhere. Folding leaves a folded key as
it is, so a record that is stored again is stored the same way; and lowering
alone leaves it as it is too, so the search for a claimant, which lowers
without trimming, meets the stored form.

Both rest on one fact about characters: no blank is a letter, so trimming and
lowering do not disturb each other.

## Theorems

* `toNat_toLower`, `toLower_cases`: What lowering does to a character.
* `toLower_eq_iff`, `isDigit_toLower`: What it does not touch.
* `trim_lower`, `trim_lower_eq_self_iff`: Trimming and lowering commute.
* `trim_part`: A trimmed text is part of the text.
* `trim_trim`: Trimming is idempotent.
* `trim_eq_self_iff`: A text is trimmed when neither end is blank.
* `trim_append_eq_self`: What may stand before a trimmed text.
* `trim_append_of_not_blank`: What may stand after one.
* `trim_append_cons`: What may stand between two.
* `trim_eq_nil_iff`: Nothing is left of a blank text.
* `foldKey_foldKey`: Folding is idempotent.
* `lowerText_foldKey`: A folded key is lowered.
* `sameLetters_trim_iff`: Two keys differ by case and blanks when they fold
  alike.
* `foldKey_eq_empty_iff`: A blank key folds to nothing.
-/

namespace Multitenancy

namespace Text

/-- Lowering moves A to Z by 32 places and nothing else. -/
theorem toNat_toLower (c : Char) :
    c.toLower.toNat = if 65 ≤ c.toNat ∧ c.toNat ≤ 90 then c.toNat + 32 else c.toNat := by
  have hupper : (c.val ≥ 'A'.val ∧ c.val ≤ 'Z'.val) ↔ 65 ≤ c.toNat ∧ c.toNat ≤ 90 :=
    and_congr UInt32.le_iff_toNat_le UInt32.le_iff_toNat_le
  by_cases h : c.val ≥ 'A'.val ∧ c.val ≤ 'Z'.val
  · have hshift : ('a'.val - 'A'.val).toNat = 32 := rfl
    have hhi : c.val.toNat ≤ 90 := (hupper.mp h).2
    unfold Char.toLower
    rw [if_pos (hupper.mp h), dif_pos h]
    change (c.val + ('a'.val - 'A'.val)).toNat = c.val.toNat + 32
    -- The sum is far below the modulus.
    rw [UInt32.toNat_add, hshift, Nat.mod_eq_of_lt (by omega)]
  · unfold Char.toLower
    rw [if_neg (mt hupper.mpr h), dif_neg h]

/-- A character is left alone unless it is one of A to Z, which move up by
    32 places. -/
theorem toLower_cases (c : Char) :
    c.toLower = c ∨ (65 ≤ c.toNat ∧ c.toNat ≤ 90 ∧ c.toLower.toNat = c.toNat + 32) := by
  by_cases h : 65 ≤ c.toNat ∧ c.toNat ≤ 90
  · right
    exact ⟨h.1, h.2, by rw [toNat_toLower, if_pos h]⟩
  · left
    exact Char.toNat_inj.mp (by rw [toNat_toLower, if_neg h])

theorem toLower_toLower (c : Char) : c.toLower.toLower = c.toLower := by
  rcases toLower_cases c with h | ⟨hlo, hhi, hval⟩
  · rw [h, h]
  · rcases toLower_cases c.toLower with h | ⟨_, hhi', _⟩
    · exact h
    · -- The moved character lies above Z.
      omega

/-- Lowering moves a letter to a letter, so it neither makes nor removes a
    blank. -/
theorem isBlank_toLower (c : Char) : isBlank c.toLower = isBlank c := by
  rcases toLower_cases c with h | ⟨hlo, hhi, hval⟩
  · rw [h]
  · -- Neither a capital letter nor a small one is a blank.
    have hupper : isBlank c = false := by
      simp only [isBlank, Bool.or_eq_false_iff, Bool.and_eq_false_iff, decide_eq_false_iff_not,
        beq_eq_false_iff_ne]
      omega
    have hlower : isBlank c.toLower = false := by
      simp only [isBlank, Bool.or_eq_false_iff, Bool.and_eq_false_iff, decide_eq_false_iff_not,
        beq_eq_false_iff_ne]
      omega
    rw [hlower, hupper]

/-- Only a character that is not a small letter comes from itself alone. -/
theorem toLower_eq_iff {d : Char} (hself : d.toLower = d)
    (hletter : d.toNat < 97 ∨ 122 < d.toNat) (c : Char) : c.toLower = d ↔ c = d := by
  constructor
  · intro h
    rcases toLower_cases c with hsame | ⟨hlo, hhi, hval⟩
    · rw [← hsame, h]
    · -- A letter is moved to a small letter.
      rw [h] at hval
      omega
  · rintro rfl
    exact hself

theorem isDigit_iff (c : Char) : c.isDigit = true ↔ 48 ≤ c.toNat ∧ c.toNat ≤ 57 := by
  rw [Char.isDigit, Bool.and_eq_true, decide_eq_true_eq, decide_eq_true_eq]
  exact and_congr UInt32.le_iff_toNat_le UInt32.le_iff_toNat_le

/-- Lowering makes and removes no digit. -/
theorem isDigit_toLower (c : Char) : c.toLower.isDigit = c.isDigit := by
  rcases toLower_cases c with h | ⟨hlo, hhi, hval⟩
  · rw [h]
  · rw [Bool.eq_iff_iff, isDigit_iff, isDigit_iff]
    omega

@[simp] theorem lower_lower (cs : List Char) : lower (lower cs) = lower cs := by
  simp only [lower, List.map_map]
  exact List.map_congr_left fun c _ => toLower_toLower c

/-- Dropping blanks from the end is the library's drop from the right. -/
theorem trimEnd_eq_rdropWhile (cs : List Char) : trimEnd cs = cs.rdropWhile isBlank := rfl

theorem dropWhile_isBlank_lower (cs : List Char) :
    (lower cs).dropWhile isBlank = lower (cs.dropWhile isBlank) := by
  have hcomp : isBlank ∘ Char.toLower = isBlank := funext isBlank_toLower
  rw [lower, List.dropWhile_map, hcomp, lower]

/-- Trimming and lowering commute: the blanks at the ends of a lowered text
    are those of the text. -/
theorem trim_lower (cs : List Char) : trim (lower cs) = lower (trim cs) := by
  -- The end of a text is the front of the reversed text.
  have hend : ∀ ds : List Char, trimEnd (lower ds) = lower (trimEnd ds) := by
    intro ds
    have hrev : (lower ds).reverse = lower ds.reverse := by
      simp only [lower, List.map_reverse]
    rw [trimEnd, hrev, dropWhile_isBlank_lower, trimEnd]
    simp only [lower, List.map_reverse]
  rw [trim, dropWhile_isBlank_lower, hend, trim]

theorem trim_part (cs : List Char) : trim cs <:+: cs :=
  (List.rdropWhile_prefix isBlank _).isInfix.trans (List.dropWhile_suffix isBlank).isInfix

theorem length_trim_le (cs : List Char) : (trim cs).length ≤ cs.length :=
  (trim_part cs).length_le

/-- A lowered text is trimmed exactly when the text is. -/
theorem trim_lower_eq_self_iff (cs : List Char) : trim (lower cs) = lower cs ↔ trim cs = cs := by
  rw [trim_lower]
  constructor
  · intro h
    have hlength := congrArg List.length h
    rw [lower, lower, List.length_map, List.length_map] at hlength
    exact (trim_part cs).eq_of_length hlength
  · intro h
    rw [h]

/-- A text is trimmed exactly when neither the drop at its front nor the drop
    at its end takes anything. -/
theorem trim_eq_self_iff (cs : List Char) :
    trim cs = cs ↔ cs.dropWhile isBlank = cs ∧ trimEnd cs = cs := by
  constructor
  · intro h
    have hfront : (cs.dropWhile isBlank).length ≤ cs.length :=
      (List.dropWhile_suffix isBlank).length_le
    -- Neither drop makes a text longer, so neither has made it shorter.
    have hback : (trim cs).length ≤ (cs.dropWhile isBlank).length :=
      (List.rdropWhile_prefix isBlank _).length_le
    rw [h] at hback
    have hkeep : cs.dropWhile isBlank = cs :=
      (List.dropWhile_suffix isBlank).eq_of_length (Nat.le_antisymm hfront hback)
    rw [trim, hkeep] at h
    exact ⟨hkeep, h⟩
  · rintro ⟨hfront, hback⟩
    rw [trim, hfront, hback]

/-- A text that starts without a blank and ends as a trimmed text does is
    trimmed. -/
theorem trim_append_eq_self {c : Char} {cs ds : List Char} (hc : isBlank c = false)
    (hds : trim ds = ds) (hne : ds ≠ []) : trim (c :: cs ++ ds) = c :: cs ++ ds := by
  have hlast : trimEnd ds = ds := ((trim_eq_self_iff ds).mp hds).2
  rw [trimEnd_eq_rdropWhile, List.rdropWhile_eq_self_iff] at hlast
  refine (trim_eq_self_iff _).mpr ⟨?_, ?_⟩
  · rw [List.cons_append, List.dropWhile_cons_of_neg (by rw [hc]; exact Bool.false_ne_true)]
  · rw [trimEnd_eq_rdropWhile, List.rdropWhile_eq_self_iff]
    -- The last character of the whole is that of `ds`.
    intro hne'
    rw [List.getLast_append_of_ne_nil hne' hne]
    exact hlast hne

/-- A text that goes on without blanks where a trimmed text ends is trimmed. -/
theorem trim_append_of_not_blank {cs ds : List Char} (hcs : trim cs = cs) (hne : cs ≠ [])
    (hds : ∀ d ∈ ds, isBlank d = false) : trim (cs ++ ds) = cs ++ ds := by
  rcases (trim_eq_self_iff cs).mp hcs with ⟨hfront, hback⟩
  refine (trim_eq_self_iff _).mpr ⟨?_, ?_⟩
  · cases cs with
    | nil => exact absurd rfl hne
    | cons c cs =>
        -- Dropping a blank would have left less than the whole text.
        have hc : ¬isBlank c = true := by
          intro hblank
          rw [List.dropWhile_cons_of_pos hblank] at hfront
          have hshort := (List.dropWhile_suffix isBlank (l := cs)).length_le
          rw [hfront, List.length_cons] at hshort
          omega
        rw [List.cons_append, List.dropWhile_cons_of_neg hc]
  · rw [trimEnd_eq_rdropWhile, List.rdropWhile_eq_self_iff]
    intro hne'
    -- The whole ends as `ds` does, or as `cs` if nothing follows it.
    by_cases hnil : ds = []
    · subst hnil
      rw [trimEnd_eq_rdropWhile, List.rdropWhile_eq_self_iff] at hback
      simp only [List.append_nil]
      exact hback hne
    · rw [List.getLast_append_of_ne_nil hne' hnil, hds _ (List.getLast_mem hnil)]
      exact Bool.false_ne_true

/-- Two trimmed texts with a character between them that is no blank. -/
theorem trim_append_cons {c : Char} {cs ds : List Char} (hc : isBlank c = false)
    (hcs : trim cs = cs) (hds : trim ds = ds) : trim (cs ++ c :: ds) = cs ++ c :: ds := by
  have hblank : ¬isBlank c = true := by
    rw [hc]
    exact Bool.false_ne_true
  refine (trim_eq_self_iff _).mpr ⟨?_, ?_⟩
  · have hfront := ((trim_eq_self_iff cs).mp hcs).1
    rw [List.dropWhile_eq_self_iff] at hfront ⊢
    intro hpos
    -- The whole starts as `cs` does, or with `c`.
    cases cs with
    | nil => exact hblank
    | cons d cs => exact hfront (Nat.succ_pos _)
  · have hback := ((trim_eq_self_iff ds).mp hds).2
    rw [trimEnd_eq_rdropWhile, List.rdropWhile_eq_self_iff] at hback ⊢
    intro hne
    rw [List.getLast_append_of_ne_nil hne (List.cons_ne_nil c ds)]
    -- It ends as `ds` does, or with `c` again.
    cases ds with
    | nil => exact hblank
    | cons d ds => exact hback (List.cons_ne_nil d ds)

/-- A blank at the front is dropped. -/
theorem trim_cons_of_blank {c : Char} (hc : isBlank c = true) (cs : List Char) :
    trim (c :: cs) = trim cs := by
  rw [trim, List.dropWhile_cons_of_pos hc, trim]

@[simp] theorem trim_trim (cs : List Char) : trim (trim cs) = trim cs := by
  refine (trim_eq_self_iff _).mpr ⟨?_, ?_⟩
  · -- What is left starts as the text without its first blanks starts.
    refine List.dropWhile_eq_self_iff.mpr fun hl => ?_
    have hpre : trim cs <+: cs.dropWhile isBlank := List.rdropWhile_prefix isBlank _
    have hpos : 0 < (cs.dropWhile isBlank).length := Nat.lt_of_lt_of_le hl hpre.length_le
    have hhead : (trim cs)[0] = (cs.dropWhile isBlank)[0] := hpre.getElem hl
    rw [hhead]
    exact List.dropWhile_get_zero_not isBlank cs hpos
  · exact List.rdropWhile_idempotent isBlank _

/-- Nothing is left of a text exactly when it holds nothing but blanks. -/
theorem trim_eq_nil_iff (cs : List Char) : trim cs = [] ↔ allBlank cs = true := by
  rw [allBlank, List.all_eq_true, ← List.dropWhile_eq_nil_iff, trim, trimEnd_eq_rdropWhile,
    List.rdropWhile_eq_nil_iff]
  constructor
  · intro h
    by_contra hne
    -- The first character that is left is no blank.
    have hpos : 0 < (cs.dropWhile isBlank).length := List.length_pos_iff.mpr hne
    exact List.dropWhile_get_zero_not isBlank cs hpos (h _ (List.get_mem _ _))
  · intro h x hx
    rw [h] at hx
    exact absurd hx (List.not_mem_nil)

end Text

theorem toList_foldKey (key : String) :
    (foldKey key).toList = Text.lower (Text.trim key.toList) := by
  rw [foldKey, String.toList_ofList]

@[simp] theorem foldKey_foldKey (key : String) : foldKey (foldKey key) = foldKey key := by
  rw [foldKey, toList_foldKey, Text.trim_lower, Text.trim_trim, Text.lower_lower, ← foldKey]

@[simp] theorem lowerText_foldKey (key : String) : Text.lowerText (foldKey key) = foldKey key := by
  rw [Text.lowerText, toList_foldKey, Text.lower_lower, ← foldKey]

theorem lowerText_eq_empty_iff (key : String) : Text.lowerText key = "" ↔ key = "" := by
  rw [Text.lowerText, ← String.toList_inj, String.toList_ofList, String.toList_empty, Text.lower,
    List.map_eq_nil_iff, ← String.toList_empty, String.toList_inj]

/-- Two keys are the same but for case and blanks exactly when they fold
    alike. -/
theorem sameLetters_trim_iff (a b : String) :
    Text.sameLetters (Text.trim a.toList) (Text.trim b.toList) = true ↔ foldKey a = foldKey b := by
  rw [Text.sameLetters, beq_iff_eq, foldKey, foldKey, String.ofList_inj]

/-- A blank key folds to nothing. -/
theorem foldKey_eq_empty_iff (key : String) : foldKey key = "" ↔ Text.blankText key = true := by
  rw [Text.blankText, ← Text.trim_eq_nil_iff, ← String.toList_inj, toList_foldKey,
    String.toList_empty, Text.lower, List.map_eq_nil_iff]

end Multitenancy
