import Multitenancy.Proofs.Resolution.Hosts
/-!
# Where a Host Is Cut

The key of any text that is given as a host.

A host comes from outside and need not look like one, so nothing is assumed of
it here. What is compared is its name: lowered, trimmed and without a port. The
name of a host lies in one of three ways to a base domain, and in no other. It
is nothing at all or the base domain itself; it is the base domain with a dot
and something before the dot; or the base domain does not end it, or not after
a dot. Only in the second case is anything cut off, so that no host gets the
key of another by ending in the letters of the base domain or by holding the
base domain somewhere inside.

## Theorems

* `normal_congr`: Letters of either case have one name.
* `normal_append_port`: A port has no part in the name.
* `key?_eq_none_iff`, `key?_eq_label_iff`, `key?_eq_normal_iff`: When there is no
  key, when something is cut off, and when nothing is.
* `cut_at_label`: All of this for any base domain and any text.
-/

namespace Multitenancy

namespace Host

variable {base host : List Char}

/-! ### The name of a host -/

/-- Texts that differ in the case of letters alone have the same name. -/
theorem normal_congr {other : List Char} (h : Text.sameLetters host other = true) :
    normal other = normal host := by
  rw [Text.sameLetters, beq_iff_eq] at h
  rw [normal_eq, normal_eq, h]

/-- A port after a text without one does not change the name. -/
theorem normal_append_port (htrim : Text.trim host = host) (hhead : host.head? ≠ some '[')
    (hcolon : ':' ∉ host) {digits : List Char} (hdigits : digits.all Char.isDigit = true) :
    normal (host ++ ':' :: digits) = normal host := by
  have hport : IsPort (':' :: digits) := Or.inr ⟨digits, rfl, hdigits⟩
  have hself : withoutPort host = host := withoutPort_of_no_colon hhead hcolon
  have htrim' : Text.trim (host ++ ':' :: digits) = host ++ ':' :: digits := by
    cases host with
    | nil =>
        -- The colon stands in front, and digits follow it.
        have hfront : Text.trim [':'] = [':'] := by decide
        have hback : ∀ c ∈ digits, Text.isBlank c = false := fun c hc =>
          hport.not_blank c (List.mem_cons_of_mem _ hc)
        have hwhole := Text.trim_append_of_not_blank hfront (List.cons_ne_nil _ _) hback
        exact hwhole
    | cons c cs =>
        exact Text.trim_append_of_not_blank htrim (List.cons_ne_nil _ _) hport.not_blank
  rw [normal, normal, htrim', htrim, withoutPort_append hhead hself hport, hself]

/-! ### The name and the base domain -/

/-- How a name lies to a base domain. -/
theorem bare_or_under_or_beside (base name : List Char) :
    (name = [] ∨ name = base) ∨ (∃ label, name = label ++ '.' :: base) ∨
      (name ≠ [] ∧ name ≠ base ∧ ¬('.' :: base <:+ name)) := by
  by_cases hbare : name = [] ∨ name = base
  · exact Or.inl hbare
  · rw [not_or] at hbare
    by_cases hunder : '.' :: base <:+ name
    · rcases hunder with ⟨label, hlabel⟩
      exact Or.inr (Or.inl ⟨label, hlabel.symm⟩)
    · exact Or.inr (Or.inr ⟨hbare.1, hbare.2, hunder⟩)

/-- What is cut off is not nothing, so the rest is not the whole. -/
theorem trim_label_ne (base label : List Char) : Text.trim label ≠ label ++ '.' :: base := by
  intro hsame
  have hlength := congrArg List.length hsame
  have hshort := Text.length_trim_le label
  rw [List.length_append, List.length_cons] at hlength
  omega

/-- A host has no key when its name is nothing or the base domain, or when only
    blanks stand before the dot of the base domain. -/
theorem key?_eq_none_iff (hbase : base ≠ []) : key? base host = none ↔
    normal host = [] ∨ normal host = base ∨
      ∃ label, Text.allBlank label = true ∧ normal host = label ++ '.' :: base := by
  constructor
  · intro hnone
    -- The name has one of the three positions, and only beside the base domain there is always a
    -- key.
    rcases bare_or_under_or_beside base (normal host) with hbare | ⟨label, hunder⟩ | hbeside
    · exact hbare.elim Or.inl fun h => Or.inr (Or.inl h)
    · rw [key?_under hbase hunder, nonBlank?_eq_none_iff] at hnone
      exact Or.inr (Or.inr ⟨label, hnone, hunder⟩)
    · rw [key?_beside hbeside.1 hbeside.2.1 hbeside.2.2] at hnone
      exact absurd hnone (Option.some_ne_none _)
  · rintro (hbare | hbare | ⟨label, hblank, hunder⟩)
    · exact key?_bare hbase (Or.inl hbare)
    · exact key?_bare hbase (Or.inr hbare)
    · rw [key?_under hbase hunder, nonBlank?_eq_none_iff]
      exact hblank

/-- A key other than the name is what precedes the dot of the base domain,
    without blanks at its ends. -/
theorem key?_eq_label_iff (hbase : base ≠ []) {key : List Char} :
    key? base host = some key ∧ key ≠ normal host ↔
      ∃ label, Text.allBlank label = false ∧ normal host = label ++ '.' :: base ∧
        key = Text.trim label := by
  constructor
  · rintro ⟨hkey, hother⟩
    -- Bare there is no key, and beside the key is the name, so the name is under the base domain.
    rcases bare_or_under_or_beside base (normal host) with hbare | ⟨label, hunder⟩ | hbeside
    · rw [key?_bare hbase hbare] at hkey
      exact absurd hkey (Option.some_ne_none _).symm
    · rw [key?_under hbase hunder, nonBlank?_eq_some_iff] at hkey
      exact ⟨label, hkey.1, hunder, hkey.2⟩
    · rw [key?_beside hbeside.1 hbeside.2.1 hbeside.2.2, Option.some.injEq] at hkey
      exact absurd hkey.symm hother
  · rintro ⟨label, hblank, hunder, rfl⟩
    refine ⟨?_, ?_⟩
    · rw [key?_under hbase hunder, nonBlank?_eq_some_iff]
      exact ⟨hblank, rfl⟩
    · -- A label is shorter than the name that it is cut from.
      rw [hunder]
      exact trim_label_ne base label

/-- The key is the name itself when the name is beside the base domain. -/
theorem key?_eq_normal_iff (hbase : base ≠ []) : key? base host = some (normal host) ↔
    normal host ≠ [] ∧ normal host ≠ base ∧ ¬('.' :: base <:+ normal host) := by
  constructor
  · intro hkey
    rcases bare_or_under_or_beside base (normal host) with hbare | ⟨label, hunder⟩ | hbeside
    · rw [key?_bare hbase hbare] at hkey
      exact absurd hkey (Option.some_ne_none _).symm
    · -- Under the base domain the key is a label, and that is never the whole name.
      rw [key?_under hbase hunder, nonBlank?_eq_some_iff, hunder] at hkey
      exact absurd hkey.2.symm (trim_label_ne base label)
    · exact hbeside
  · rintro ⟨hne, hother, hunder⟩
    exact key?_beside hne hother hunder

/-- The key of any text as a host, for any base domain. The case of letters does
    not matter. A port does not matter either, after a trimmed text that is not
    in brackets and has no colon. Where there is a base domain, there is no key
    exactly if the name is nothing, the base domain, or blanks, a dot and the
    base domain; the key is another text than the name exactly if something
    that is not blank stands before the dot, and then it is that text, trimmed;
    and the key is the whole name exactly if the base domain does not end it
    after a dot. -/
theorem cut_at_label (base host : List Char) :
    (∀ other, Text.sameLetters host other = true →
      key? (normalBase base) other = key? (normalBase base) host) ∧
    (Text.trim host = host → host.head? ≠ some '[' → ':' ∉ host →
      ∀ digits : List Char, digits.all Char.isDigit = true →
        key? (normalBase base) (host ++ ':' :: digits) = key? (normalBase base) host) ∧
    (normalBase base ≠ [] →
      (key? (normalBase base) host = none ↔
        normal host = [] ∨ normal host = normalBase base ∨
          ∃ label, Text.allBlank label = true ∧ normal host = label ++ '.' :: normalBase base) ∧
      (∀ key, key? (normalBase base) host = some key ∧ key ≠ normal host ↔
        ∃ label, Text.allBlank label = false ∧ normal host = label ++ '.' :: normalBase base ∧
          key = Text.trim label) ∧
      (key? (normalBase base) host = some (normal host) ↔
        normal host ≠ [] ∧ normal host ≠ normalBase base ∧
          ¬('.' :: normalBase base <:+ normal host))) := by
  refine ⟨?_, ?_, ?_⟩
  · -- Case and port are gone once the host is normalised, and the rest is read off its name.
    intro other hletters
    simp only [key?, normal_congr hletters]
  · intro htrim hhead hcolon digits hdigits
    simp only [key?, normal_append_port htrim hhead hcolon hdigits]
  · intro hbase
    exact ⟨key?_eq_none_iff hbase, fun _ => key?_eq_label_iff hbase, key?_eq_normal_iff hbase⟩

/-- Under the base domain `example.com`: a host with capital letters, one with a
    port, one with a blank before the dot, and one that ends in the letters of
    the base domain. -/
theorem cut_at_label_example :
    let base := normalBase " Example.com. ".toList
    key? base "Shop.EXAMPLE.com".toList = key? base "shop.example.com".toList ∧
      key? base "shop.example.com:8080".toList = key? base "shop.example.com".toList ∧
      key? base "shop.example.com".toList = some "shop".toList ∧
      key? base " .example.com:80".toList = none ∧
      key? base "notexample.com".toList = some "notexample.com".toList := by
  -- Each of the hosts is put into the part of the theorem that is about it.
  have hbase : normalBase " Example.com. ".toList ≠ [] := by decide
  have hshop := cut_at_label " Example.com. ".toList "shop.example.com".toList
  have hblank := cut_at_label " Example.com. ".toList " .example.com:80".toList
  have hnot := cut_at_label " Example.com. ".toList "notexample.com".toList
  refine ⟨?_, ?_, ?_, ?_, ?_⟩
  · exact hshop.1 "Shop.EXAMPLE.com".toList (by decide)
  · exact hshop.2.1 (by decide) (by decide) (by decide) "8080".toList (by decide)
  · exact (((hshop.2.2 hbase).2.1 "shop".toList).mpr
      ⟨"shop".toList, by decide, by decide, by decide⟩).1
  · exact (hblank.2.2 hbase).1.mpr (Or.inr (Or.inr ⟨[], by decide, by decide⟩))
  · exact (hnot.2.2 hbase).2.2.mpr ⟨by decide, by decide, by decide⟩

end Host

end Multitenancy
