import Multitenancy.Proofs.Tenant.Check
/-!
# Cache Keys of Different Tenants

When a tenant's part of a shared cache is its own.

A cache key is the id of the tenant and a key of its choice with a colon
between them. Which colon that is cannot be seen from the cache key: an id may
hold colons as well, since the check of a record keeps out the characters that
separate the parts of a locator and not the one that separates the parts of a
cache key. If one id goes on after a colon where another one ends, what it goes
on with can be part of a key of the other tenant. There is no other way for
two cache keys to meet.

This is within everybody's reach: every tenant that may be stored has another
one that may be stored and whose part of the cache lies within its own.

## Main definitions

* `Tenant.Continues`: An id goes on after a colon where another one ends.
* `Tenant.annex`: A tenant whose id goes on so.

## Theorems

* `Tenant.cacheKey_eq_iff`: Which cache keys meet.
* `Tenant.check_annex`: An id may go on after a colon.
* `Tenant.cacheKeys_meet_iff`: Whose cache keys meet.
-/

namespace Multitenancy

namespace Tenant

/-- An id goes on after a colon where another one ends. -/
def Continues (t u : Tenant) : Prop :=
  ∃ rest, t.id = u.id ++ ":" ++ rest

/-- The same text is cut at a colon twice: at the same one, or the part before
    one cut goes on after the other. -/
theorem append_colon_eq_iff (a b k l : List Char) :
    a ++ ':' :: k = b ++ ':' :: l ↔
      (a = b ∧ k = l) ∨ (∃ rest, b = a ++ ':' :: rest ∧ k = rest ++ ':' :: l) ∨
        ∃ rest, a = b ++ ':' :: rest ∧ l = rest ++ ':' :: k := by
  -- What one part before a cut has more than the other one, if anything.
  have hcut : ∀ {k l more : List Char}, ':' :: k = more ++ ':' :: l →
      (more = [] ∧ k = l) ∨ ∃ rest, more = ':' :: rest ∧ k = rest ++ ':' :: l := by
    intro k l more h
    cases more with
    | nil =>
        rw [List.nil_append, List.cons.injEq] at h
        exact Or.inl ⟨rfl, h.2⟩
    | cons c rest =>
        rw [List.cons_append, List.cons.injEq] at h
        exact Or.inr ⟨rest, by rw [h.1], h.2⟩
  rw [List.append_eq_append_iff]
  -- One of the two parts before the cuts is the longer one, or they are the same.
  constructor
  · rintro (⟨more, hb, hmore⟩ | ⟨more, ha, hmore⟩)
    · rcases hcut hmore with ⟨rfl, hkl⟩ | ⟨rest, rfl, hk⟩
      · exact Or.inl ⟨by rw [hb, List.append_nil], hkl⟩
      · exact Or.inr (Or.inl ⟨rest, hb, hk⟩)
    · rcases hcut hmore with ⟨rfl, hkl⟩ | ⟨rest, rfl, hl⟩
      · exact Or.inl ⟨by rw [ha, List.append_nil], hkl.symm⟩
      · exact Or.inr (Or.inr ⟨rest, ha, hl⟩)
  · rintro (⟨rfl, rfl⟩ | ⟨rest, rfl, rfl⟩ | ⟨rest, rfl, rfl⟩)
    · exact Or.inl ⟨[], (List.append_nil a).symm, rfl⟩
    · exact Or.inl ⟨_, rfl, rfl⟩
    · exact Or.inr ⟨_, rfl, rfl⟩

/-- Two cache keys are the same when tenant and key are, or when one id goes on
    after a colon where the other one ends and the other key starts with the
    rest. -/
theorem cacheKey_eq_iff (t u : Tenant) (k l : String) :
    t.cacheKey k = u.cacheKey l ↔
      (t.id = u.id ∧ k = l) ∨ (∃ rest, u.id = t.id ++ ":" ++ rest ∧ k = rest ++ ":" ++ l) ∨
        ∃ rest, t.id = u.id ++ ":" ++ rest ∧ l = rest ++ ":" ++ k := by
  have hcolon : ":".toList = [':'] := rfl
  -- The lemma on characters gives a rest of characters, and `hrest` makes a text of it.
  have hrest : ∀ {p : List Char → Prop}, (∃ rest : String, p rest.toList) ↔ ∃ rest, p rest :=
    fun {p} => ⟨fun ⟨rest, h⟩ => ⟨_, h⟩, fun ⟨rest, h⟩ =>
      ⟨String.ofList rest, by rwa [String.toList_ofList]⟩⟩
  simp only [cacheKey, ← String.toList_inj, String.toList_append, hcolon, List.append_assoc,
    List.append_cancel_left_eq, List.singleton_append, append_colon_eq_iff]
  rw [← hrest, ← hrest]

/-- Cache keys of tenants with different ids meet exactly when one id goes on
    after a colon where the other one ends. -/
theorem exists_cacheKey_eq_iff {t u : Tenant} (h : t.id ≠ u.id) :
    (∃ k l, t.cacheKey k = u.cacheKey l) ↔ t.Continues u ∨ u.Continues t := by
  simp only [cacheKey_eq_iff]
  constructor
  · rintro ⟨k, l, ⟨hid, _⟩ | ⟨rest, hid, _⟩ | ⟨rest, hid, _⟩⟩
    · exact absurd hid h
    · exact Or.inr ⟨rest, hid⟩
    · exact Or.inl ⟨rest, hid⟩
  · -- With an empty key on the shorter side the other key is the rest and a colon.
    rintro (⟨rest, hid⟩ | ⟨rest, hid⟩)
    · exact ⟨"", _, Or.inr (Or.inr ⟨rest, hid, rfl⟩)⟩
    · exact ⟨_, "", Or.inr (Or.inl ⟨rest, hid, rfl⟩)⟩

/-- Without a colon an id goes on after nobody's. -/
theorem not_continues {t : Tenant} (h : ':' ∉ t.id.toList) (u : Tenant) : ¬t.Continues u := by
  rintro ⟨rest, hid⟩
  refine h ?_
  rw [hid, String.toList_append, String.toList_append]
  exact List.mem_append_left _ (List.mem_append_right _ List.mem_cons_self)

/-! ### Who goes on where another one ends -/

/-- A tenant whose id goes on where that of another one ends. -/
def annex (t : Tenant) : Tenant :=
  { t with id := t.id ++ ":" ++ "x" }

theorem toList_annex_id (t : Tenant) : t.annex.id.toList = t.id.toList ++ [':', 'x'] := by
  rw [annex, String.toList_append, String.toList_append, List.append_assoc]
  rfl

theorem annex_id_ne (t : Tenant) : t.annex.id ≠ t.id := by
  rw [ne_eq, ← String.toList_inj, toList_annex_id, List.append_right_eq_self]
  exact List.cons_ne_nil _ _

/-- The check lets an annex in wherever it lets the tenant in: a colon is no
    forbidden character. -/
theorem check_annex {t : Tenant} (h : t.check = .ok ()) : t.annex.check = .ok () := by
  rcases (t.check_eq_ok_iff).mp h with ⟨hne, htrim, hclean, _, _⟩
  have hid := t.toList_annex_id
  -- An id that ends in a letter is none of those that directories use.
  have hends : ∀ name : String, 'x' ∉ name.toList → t.annex.id ≠ name := by
    rintro name hx rfl
    refine hx ?_
    rw [hid]
    exact List.mem_append_right _ (List.mem_cons_of_mem _ List.mem_cons_self)
  refine (t.annex.check_eq_ok_iff).mpr
    ⟨hends _ (by decide), ?_, ?_, hends _ (by decide), hends _ (by decide)⟩
  · -- An id that is trimmed starts without a blank, and still does.
    rcases hcs : t.id.toList with _ | ⟨c, cs⟩
    · exact absurd (String.toList_inj.mp (by rw [hcs, String.toList_empty])) hne
    · rw [hcs] at htrim
      have hfront := ((Text.trim_eq_self_iff _).mp htrim).1
      have hc : Text.isBlank c = false := by
        rw [← Bool.not_eq_true]
        intro hblank
        rw [List.dropWhile_cons_of_pos hblank] at hfront
        have hlen := (List.dropWhile_suffix Text.isBlank (l := cs)).length_le
        rw [hfront, List.length_cons] at hlen
        exact Nat.not_succ_le_self _ hlen
      rw [hid, hcs]
      exact Text.trim_append_eq_self hc (by decide) (List.cons_ne_nil _ _)
  · intro c hc
    rw [hid, List.mem_append] at hc
    rcases hc with hc | hc
    · exact hclean c hc
    · have hcolon : ':' ∉ forbidden := by decide
      have hx : 'x' ∉ forbidden := by decide
      rw [List.mem_cons, List.mem_singleton] at hc
      rcases hc with rfl | rfl
      · exact hcolon
      · exact hx

/-- The cache keys of a tenant are kept apart from those of every tenant with a
    different id, unless one id goes on after a colon where the other one ends;
    so they are kept apart if neither id holds a colon. But if the tenant may be
    stored, then there is another one that may be stored and whose cache keys
    are all cache keys of the first one as well. -/
theorem cacheKeys_meet_iff (t : Tenant) :
    (∀ u : Tenant, t.id ≠ u.id →
      ((∃ k l, t.cacheKey k = u.cacheKey l) ↔ t.Continues u ∨ u.Continues t)) ∧
    (∀ u : Tenant, t.id ≠ u.id → ':' ∉ t.id.toList → ':' ∉ u.id.toList →
      ∀ k l, t.cacheKey k ≠ u.cacheKey l) ∧
    (t.check = .ok () →
      ∃ u : Tenant, u.check = .ok () ∧ u.id ≠ t.id ∧ ∀ l, ∃ k, t.cacheKey k = u.cacheKey l) := by
  refine ⟨fun u h => exists_cacheKey_eq_iff h, fun u h ht hu k l heq => ?_, fun h => ?_⟩
  · -- With equal keys one id would go on after a colon of the other.
    rcases (exists_cacheKey_eq_iff h).mp ⟨k, l, heq⟩ with htu | hut
    · exact not_continues ht u htu
    · exact not_continues hu t hut
  · -- The annexed id goes on after a colon, and what follows the colon moves into the key.
    refine ⟨t.annex, check_annex h, t.annex_id_ne, fun l => ⟨"x" ++ ":" ++ l, ?_⟩⟩
    exact (cacheKey_eq_iff t t.annex _ l).mpr (Or.inr (Or.inl ⟨"x", rfl, rfl⟩))

/-- A tenant whose id is cut at a colon itself. -/
def branchRecord : Tenant :=
  Tenant.new "acme:eu" "Acme EU" ⟨0, 0⟩

/-- The tenant whose id is what comes before that colon. -/
def headRecord : Tenant :=
  Tenant.new "acme" "Acme" ⟨0, 0⟩

/-- A key of the one and a key of the other one give the same cache key. -/
theorem cacheKey_branch :
    headRecord.check = .ok () ∧ branchRecord.check = .ok () ∧ headRecord.id ≠ branchRecord.id ∧
      headRecord.cacheKey "eu:users" = branchRecord.cacheKey "users" := by
  decide +kernel

end Tenant

end Multitenancy
