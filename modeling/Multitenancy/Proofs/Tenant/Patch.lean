import Multitenancy.Proofs.Registry.Invariant
import Multitenancy.Proofs.Text.Assoc
import Multitenancy.Tenant.Patch
/-!
# What a Patch Sets

A patch and a tenant, field by field.

The fields that an update can change are the name, the two optional keys and
each metadata entry. A patch has a value for some of them and a tenant for
some of them, and applying the patch gives every field the value of the patch,
or the one of the tenant where the patch has none. That one law is all that is
needed to follow a value through a number of patches; neither the order of the
metadata nor the stamps have a part in it.

## Main definitions

* `Field`: What an update can change.
* `Tenant.value?`, `Patch.value?`: The value of a field.
* `Patch.Disjoint`: Two patches set no field in common.
* `Patch.Carried`: A tenant has all the values that a patch sets.
* `Patch.Undone`: A tenant has none of them, but those it had at first.

## Theorems

* `Patch.value?_apply`: The value of a field after a patch.
* `Patch.carried_apply`: A patch is carried where it was applied.
* `Patch.Carried.apply`, `Patch.Undone.apply`: A patch that sets other fields
  changes neither.
* `Tenant.value?_successor`: Storing a record keeps its values.
-/

namespace Multitenancy

/-- What an update can change. -/
inductive Field where
  | name
  | domain
  | subdomain
  /-- The metadata entry of a key. -/
  | entry (key : String)
  deriving DecidableEq, Repr

namespace Tenant

/-- The value of a field. Only a metadata entry may be missing. -/
def value? (t : Tenant) : Field → Option String
  | .name => some t.name
  | .domain => some t.domain
  | .subdomain => some t.subdomain
  | .entry key => t.metadata.get? key

/-- A record in its stored form has the same values when it takes the place of
    another. -/
theorem value?_successor {existing t : Tenant} (hfold : t.normalised = t) (f : Field) :
    (Roster.successor existing t).value? f = t.value? f := by
  rw [Roster.successor, hfold]
  cases f <;> rfl

end Tenant

namespace Patch

/-- The value that a patch gives to a field, if it sets it: a domain or
    subdomain in its stored form, a metadata entry as the last pair of its key
    has it. -/
def value? (p : Patch) : Field → Option String
  | .name => p.name
  | .domain => p.domain.map foldKey
  | .subdomain => p.subdomain.map foldKey
  | .entry key => (Assoc.ofPairs (p.metadata.getD [])).get? key

/-- Two patches set no field in common. -/
def Disjoint (p q : Patch) : Prop :=
  ∀ f, p.value? f = none ∨ q.value? f = none

/-- A tenant has every value that a patch sets. -/
def Carried (p : Patch) (t : Tenant) : Prop :=
  ∀ f v, p.value? f = some v → t.value? f = some v

/-- In every field that a patch sets, a tenant has what another one has. -/
def Undone (p : Patch) (first t : Tenant) : Prop :=
  ∀ f, (p.value? f).isSome → t.value? f = first.value? f

theorem Disjoint.symm {p q : Patch} (h : p.Disjoint q) : q.Disjoint p :=
  fun f => (h f).symm

/-- Any two patches of a list whose members set no field in common. -/
theorem disjoint_of_pairwise {ps : List Patch} (h : ps.Pairwise Disjoint) {n m : Nat} {p q : Patch}
    (hne : n ≠ m) (hp : ps[n]? = some p) (hq : ps[m]? = some q) : p.Disjoint q := by
  rcases List.getElem?_eq_some_iff.mp hp with ⟨hn, rfl⟩
  rcases List.getElem?_eq_some_iff.mp hq with ⟨hm, rfl⟩
  rcases Nat.lt_or_gt_of_ne hne with hlt | hlt
  · exact List.pairwise_iff_getElem.mp h n m hn hm hlt
  · exact (List.pairwise_iff_getElem.mp h m n hm hn hlt).symm

theorem getD_eq_or (a : Option String) (b : String) : some (a.getD b) = a.or (some b) := by
  cases a <;> rfl

/-- A field has the value of the patch, or where there is none, that of the
    tenant. -/
theorem value?_apply (p : Patch) (t : Tenant) (now : Timestamp) (f : Field) :
    (p.apply t now).value? f = (p.value? f).or (t.value? f) := by
  cases f with
  | name => exact getD_eq_or p.name t.name
  | domain => exact getD_eq_or (p.domain.map foldKey) t.domain
  | subdomain => exact getD_eq_or (p.subdomain.map foldKey) t.subdomain
  | entry key => exact Assoc.get?_extend t.metadata (p.metadata.getD []) key

theorem carried_apply (p : Patch) (t : Tenant) (now : Timestamp) : p.Carried (p.apply t now) := by
  intro f v hv
  rw [value?_apply, hv, Option.some_or]

section Fields

variable {p q : Patch} {first t u : Tenant}

/-- What a tenant has of a patch shows in its values only. -/
theorem Carried.congr (h : p.Carried t) (hsame : ∀ f, u.value? f = t.value? f) : p.Carried u := by
  intro f v hv
  rw [hsame]
  exact h f v hv

theorem Undone.congr (h : p.Undone first t) (hsame : ∀ f, u.value? f = t.value? f) :
    p.Undone first u := by
  intro f hset
  rw [hsame]
  exact h f hset

theorem undone_self (p : Patch) (t : Tenant) : p.Undone t t :=
  fun _ _ => rfl

/-- A patch that sets other fields takes nothing away. -/
theorem Carried.apply (h : p.Carried t) (hdisjoint : p.Disjoint q) (now : Timestamp) :
    p.Carried (q.apply t now) := by
  intro f v hv
  -- A field that `p` sets is left alone by `q`.
  have hq : q.value? f = none := by
    rcases hdisjoint f with hp | hq
    · rw [hp] at hv
      exact absurd hv (by simp only [reduceCtorEq, not_false_eq_true])
    · exact hq
  rw [value?_apply, hq, Option.none_or]
  exact h f v hv

/-- A patch that sets other fields brings nothing back. -/
theorem Undone.apply (h : p.Undone first t) (hdisjoint : p.Disjoint q) (now : Timestamp) :
    p.Undone first (q.apply t now) := by
  intro f hset
  have hq : q.value? f = none := by
    rcases hdisjoint f with hp | hq
    · rw [hp] at hset
      exact absurd hset (by simp only [Option.isSome_none, Bool.false_eq_true, not_false_eq_true])
    · exact hq
  rw [value?_apply, hq, Option.none_or]
  exact h f hset

end Fields

/-- A patch leaves a record in its stored form. -/
theorem normalised_apply (p : Patch) {t : Tenant} (hfold : t.normalised = t) (now : Timestamp) :
    (p.apply t now).normalised = p.apply t now := by
  rw [Tenant.normalised_eq_self_iff] at hfold ⊢
  -- A key that the patch brings is folded by it, and an old one was folded before.
  have hkept : ∀ (a : Option String) (b : String), foldKey b = b →
      foldKey ((a.map foldKey).getD b) = (a.map foldKey).getD b := by
    intro a b hb
    cases a with
    | none => exact hb
    | some k => exact foldKey_foldKey k
  exact ⟨hkept p.domain t.domain hfold.1, hkept p.subdomain t.subdomain hfold.2⟩

end Patch

end Multitenancy
