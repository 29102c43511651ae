import Multitenancy.Proofs.Cache
import Multitenancy.Proofs.Registry.Lookup
import Multitenancy.Resolution.Resolver
/-!
# What the Resolver Forgets

Which outcomes are left in the cache after the keys of a tenant are forgotten.

A key is cached as it was asked for, under any casing and with any blanks
around it. Forgetting a key therefore removes every entry whose key folds as
the forgotten one does. A look-up compares an id as it is and a domain or
subdomain when the key is folded, and both comparisons imply that the keys
fold alike. So once the keys of a tenant are forgotten, no entry that is left
has a key that the tenant answers to.

## Theorems

* `mem_invalidate_iff`, `mem_invalidateTenant_iff`: Which entries are left.
* `not_answersTo_of_forgotten`: The tenant does not answer to their keys.
-/

namespace Multitenancy

namespace Resolver

theorem sameKey_iff (key cached : String) :
    sameKey key cached = true ↔ foldKey cached = foldKey key :=
  sameLetters_trim_iff cached key

theorem mem_invalidate_iff (r : Resolver) (key : String) (e : CacheEntry Resolved) :
    e ∈ (r.invalidate key).cache.entries ↔
      e ∈ r.cache.entries ∧ foldKey e.key ≠ foldKey key := by
  unfold invalidate
  rw [Cache.mem_deleteMatching_iff, ← Bool.not_eq_true, sameKey_iff]

/-- Forgetting one key after the other leaves the entries that none of them
    takes away. -/
theorem mem_foldl_invalidate_iff (keys : List String) (r : Resolver) (e : CacheEntry Resolved) :
    e ∈ (keys.foldl invalidate r).cache.entries ↔
      e ∈ r.cache.entries ∧ ∀ key ∈ keys, foldKey e.key ≠ foldKey key := by
  induction keys generalizing r with
  | nil =>
      rw [List.foldl_nil]
      exact (and_iff_left fun key hkey => absurd hkey List.not_mem_nil).symm
  | cons key rest ih =>
      rw [List.foldl_cons, ih, mem_invalidate_iff, List.forall_mem_cons, and_assoc]

theorem mem_invalidateTenant_iff (r : Resolver) (t : Tenant) (e : CacheEntry Resolved) :
    e ∈ (r.invalidateTenant t).cache.entries ↔
      e ∈ r.cache.entries ∧ ∀ key ∈ t.routingKeys, foldKey e.key ≠ foldKey key :=
  mem_foldl_invalidate_iff t.routingKeys r e

/-- Forgetting does not change how long entries live. -/
theorem lifetime_invalidateTenant (r : Resolver) (t : Tenant) :
    (r.invalidateTenant t).cache.lifetime = r.cache.lifetime := by
  -- Forgetting a tenant is forgetting its keys one after the other.
  have hkeys : ∀ (keys : List String) (r : Resolver),
      (keys.foldl invalidate r).cache.lifetime = r.cache.lifetime := by
    intro keys
    induction keys with
    | nil => exact fun _ => rfl
    | cons key rest ih =>
        exact fun r => (ih (r.invalidate key)).trans (Cache.lifetime_deleteMatching _ _)
  exact hkeys t.routingKeys r

end Resolver

/-- A record whose keys are those of a tenant in their stored form does not
    answer to a key that is left when the keys of the tenant are forgotten. -/
theorem not_answersTo_of_forgotten {t u : Tenant} {key : String} (hne : t.id ≠ "")
    (hid : u.id = t.id) (hdomain : u.domain = foldKey t.domain)
    (hsubdomain : u.subdomain = foldKey t.subdomain)
    (hleft : ∀ k ∈ t.routingKeys, foldKey key ≠ foldKey k) : u.answersTo key = false := by
  rw [← Bool.not_eq_true, Tenant.answersTo_iff]
  rintro ⟨_, hkey | hheld⟩
  · -- It would answer by its id, which was forgotten as it is.
    have hmem : key ∈ t.routingKeys := by
      rw [t.mem_routingKeys_iff, ← hkey, hid]
      exact ⟨hne, Or.inl rfl⟩
    exact hleft key hmem rfl
  · -- The field that holds the folded key is not empty, so it is among the keys.
    rcases (u.holds_iff _).mp hheld with ⟨hfolded, hfield⟩
    have hfull : ∀ field : String, foldKey field = foldKey key → field ≠ "" := by
      intro field hsame hempty
      have hblank : foldKey "" = "" := (foldKey_eq_empty_iff "").mpr rfl
      rw [← hsame, hempty] at hfolded
      exact hfolded hblank
    rcases hfield with hd | hs
    · have hsame : foldKey t.domain = foldKey key := hdomain.symm.trans hd
      have hmem : t.domain ∈ t.routingKeys :=
        (t.mem_routingKeys_iff _).mpr ⟨hfull _ hsame, Or.inr (Or.inl rfl)⟩
      exact hleft t.domain hmem hsame.symm
    · have hsame : foldKey t.subdomain = foldKey key := hsubdomain.symm.trans hs
      have hmem : t.subdomain ∈ t.routingKeys :=
        (t.mem_routingKeys_iff _).mpr ⟨hfull _ hsame, Or.inr (Or.inr rfl)⟩
      exact hleft t.subdomain hmem hsame.symm

theorem not_answersTo_normalised {t : Tenant} {key : String} (hne : t.id ≠ "")
    (hleft : ∀ k ∈ t.routingKeys, foldKey key ≠ foldKey k) : t.normalised.answersTo key = false :=
  not_answersTo_of_forgotten hne rfl rfl rfl hleft

theorem not_answersTo_stored {t : Tenant} {key : String} (hne : t.id ≠ "")
    (hfold : t.normalised = t) (hleft : ∀ k ∈ t.routingKeys, foldKey key ≠ foldKey k) :
    t.answersTo key = false := by
  rw [← hfold]
  exact not_answersTo_normalised hne hleft

end Multitenancy
