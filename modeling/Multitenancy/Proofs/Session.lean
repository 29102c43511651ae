import Mathlib.Data.List.Nodup
import Mathlib.Data.String.Basic
import Multitenancy.Proofs.Text.Assoc
import Multitenancy.Session
/-!
# Tenants That Keep Apart

What the check of session cookies accepts.

The check goes through a list once and remembers one owner for each cookie. A
tenant that comes later is compared with that owner only, not with everybody
before it. This is enough, because whoever came before with the same cookie and
was let in is the owner: the check has stopped at anybody else.

Nothing that is accepted depends on the order of the list. What a refusal
names does not depend on it either, as long as no tenant is listed twice: the
check goes through the tenants in the order of their ids, and there is only one
way to order different ids. It names the owner of a cookie and a tenant that
comes later, so the smaller id comes first.

## Main definitions

* `Session.Isolated`: Different tenants of a list use different cookies.
* `Session.Uses`: A tenant of a list uses a cookie.

## Theorems

* `Session.scan_eq_ok_iff`: What is accepted with some owners known already.
* `Session.check_eq_ok_iff`: What is accepted.
* `Text.sortedByKey_eq_of_perm`: Different keys are ordered in one way.
* `Session.scan_eq_error`: What a refusal names.
* `Session.check_decides`: The check as a whole.
-/

namespace Multitenancy

/-! ### The order of the ids -/

section SortedByKey

variable {α : Type}

theorem Text.pairwise_sortedByKey (pairs : List (String × α)) :
    (Text.sortedByKey pairs).Pairwise fun p q => p.1 ≤ q.1 := by
  -- Merge sort gives a sorted list for an order that is transitive and total.
  have htrans : ∀ p q r : String × α, Text.notAfter p.1 q.1 = true →
      Text.notAfter q.1 r.1 = true → Text.notAfter p.1 r.1 = true := fun p q r hpq hqr =>
    decide_eq_true (String.le_trans (of_decide_eq_true hpq) (of_decide_eq_true hqr))
  have htotal : ∀ p q : String × α, (Text.notAfter p.1 q.1 || Text.notAfter q.1 p.1) = true := by
    intro p q
    rw [Bool.or_eq_true, Text.notAfter, Text.notAfter, decide_eq_true_eq, decide_eq_true_eq]
    exact String.le_total p.1 q.1
  exact (List.pairwise_mergeSort htrans htotal pairs).imp of_decide_eq_true

theorem Text.sortedByKey_perm (pairs : List (String × α)) : (Text.sortedByKey pairs).Perm pairs :=
  List.mergeSort_perm pairs fun p q => Text.notAfter p.1 q.1

/-- Pairs with different keys are put into one order, however they are
    listed. -/
theorem Text.sortedByKey_eq_of_perm {pairs other : List (String × α)} (h : pairs.Perm other)
    (hkeys : (pairs.map Prod.fst).Nodup) : Text.sortedByKey pairs = Text.sortedByKey other := by
  refine List.Perm.eq_of_pairwise (fun p q hp hq hpq hqp => ?_)
    (Text.pairwise_sortedByKey pairs) (Text.pairwise_sortedByKey other)
    ((Text.sortedByKey_perm pairs).trans (h.trans (Text.sortedByKey_perm other).symm))
  -- Pairs of one key are one pair.
  have hp : p ∈ pairs := (Text.sortedByKey_perm pairs).mem_iff.mp hp
  have hq : q ∈ pairs := h.mem_iff.mpr ((Text.sortedByKey_perm other).mem_iff.mp hq)
  exact List.inj_on_of_nodup_map hkeys hp hq (String.le_antisymm hpq hqp)

end SortedByKey

namespace Session

/-! ### What is accepted -/

/-- Different tenants of a list use different cookies. -/
def Isolated (default : String) (handlers : List (String × Option String)) : Prop :=
  ∀ p ∈ handlers, ∀ q ∈ handlers, p.1 ≠ q.1 →
    effectiveCookie default p.2 ≠ effectiveCookie default q.2

variable {default : String}

theorem Isolated.of_subset {l l' : List (String × Option String)} (h : Isolated default l')
    (hsub : l ⊆ l') : Isolated default l :=
  fun p hp q hq => h p (hsub hp) q (hsub hq)

/-- One more tenant keeps apart from the others when everybody with its cookie
    is the same tenant. -/
theorem isolated_cons_iff (p : String × Option String) (rest : List (String × Option String)) :
    Isolated default (p :: rest) ↔ Isolated default rest ∧
      ∀ q ∈ rest, effectiveCookie default q.2 = effectiveCookie default p.2 → q.1 = p.1 := by
  constructor
  · intro h
    refine ⟨h.of_subset (List.subset_cons_self p rest), fun q hq hcookie => ?_⟩
    exact Decidable.byContradiction fun hne =>
      h q (List.mem_cons_of_mem p hq) p List.mem_cons_self hne hcookie
  · rintro ⟨hrest, hfirst⟩ q hq r hr hne hcookie
    -- Two tenants of the list are the new one twice, the new one with an old one, or two old ones.
    rcases List.mem_cons.mp hq with rfl | hqrest <;> rcases List.mem_cons.mp hr with rfl | hrrest
    · exact hne rfl
    · exact hne (hfirst r hrrest hcookie.symm).symm
    · exact hne (hfirst q hqrest hcookie)
    · exact hrest q hqrest r hrrest hne hcookie

/-- A list is accepted when its tenants keep apart from one another, and each
    from the known owner of its cookie. -/
theorem scan_eq_ok_iff (owners : Assoc String String) (handlers : List (String × Option String)) :
    scan default owners handlers = .ok () ↔ Isolated default handlers ∧
      ∀ p ∈ handlers, ∀ first,
        owners.get? (effectiveCookie default p.2) = some first → first = p.1 := by
  induction handlers generalizing owners with
  | nil =>
      exact iff_of_true rfl ⟨fun p hp => absurd hp List.not_mem_nil,
        fun p hp => absurd hp List.not_mem_nil⟩
  | cons p rest ih =>
      rcases p with ⟨id, configured⟩
      rw [scan, isolated_cons_iff, List.forall_mem_cons]
      simp only
      cases howner : owners.get? (effectiveCookie default configured) with
      | some first =>
          simp only [Option.some.injEq, forall_eq']
          by_cases hid : first = id
          · -- The tenant itself is the owner, so the others are told apart from it already.
            rw [hid] at howner ⊢
            rw [if_pos (beq_self_eq_true id), ih]
            constructor
            · rintro ⟨hrest, hknown⟩
              refine ⟨⟨hrest, fun q hq hcookie => ?_⟩, rfl, hknown⟩
              exact (hknown q hq id (hcookie ▸ howner)).symm
            · rintro ⟨⟨hrest, _⟩, _, hknown⟩
              exact ⟨hrest, hknown⟩
          · have hdiffer : (first == id) = false := beq_eq_false_iff_ne.mpr hid
            simp only [hdiffer, Bool.false_eq_true, if_false]
            exact iff_of_false (by simp only [reduceCtorEq, not_false_eq_true])
              fun h => hid h.2.1
      | none =>
          -- From here on the tenant is the owner of its cookie.
          simp only [ih, Assoc.get?_insert, reduceCtorEq, false_implies, forall_const, true_and]
          constructor
          · rintro ⟨hrest, hknown⟩
            refine ⟨⟨hrest, fun q hq hcookie => ?_⟩, fun q hq first hfirst => ?_⟩
            · refine (hknown q hq id ?_).symm
              rw [if_pos (beq_iff_eq.mpr hcookie.symm)]
            · refine hknown q hq first ?_
              rw [if_neg, hfirst]
              intro hcookie
              rw [← eq_of_beq hcookie, howner] at hfirst
              exact absurd hfirst (Option.some_ne_none first).symm
          · rintro ⟨⟨hrest, hfirst⟩, hknown⟩
            refine ⟨hrest, fun q hq first howns => ?_⟩
            by_cases hcookie :
                (effectiveCookie default configured == effectiveCookie default q.2) = true
            · rw [if_pos hcookie, Option.some.injEq] at howns
              rw [← howns]
              exact (hfirst q hq (eq_of_beq hcookie).symm).symm
            · rw [if_neg hcookie] at howns
              exact hknown q hq first howns

/-- A list is accepted exactly when its tenants keep apart. -/
theorem check_eq_ok_iff (handlers : List (String × Option String)) :
    check default handlers = .ok () ↔ Isolated default handlers := by
  -- Nobody owns a cookie at first, and sorting keeps the members.
  have hmem : ∀ p, p ∈ Text.sortedByKey handlers ↔ p ∈ handlers :=
    fun _ => (Text.sortedByKey_perm handlers).mem_iff
  rw [check, scan_eq_ok_iff]
  constructor
  · rintro ⟨h, _⟩
    exact h.of_subset fun p => (hmem p).mpr
  · intro h
    refine ⟨h.of_subset fun p => (hmem p).mp, fun p _ first hfirst => ?_⟩
    exact absurd hfirst (Option.some_ne_none first).symm

/-! ### What a refusal names -/

/-- A tenant of a list uses a cookie. -/
def Uses (default : String) (handlers : List (String × Option String)) (id cookie : String) :
    Prop :=
  ∃ p ∈ handlers, p.1 = id ∧ effectiveCookie default p.2 = cookie

theorem Uses.of_subset {l l' : List (String × Option String)} {id cookie : String}
    (h : Uses default l id cookie) (hsub : l ⊆ l') : Uses default l' id cookie := by
  rcases h with ⟨p, hp, hid, hcookie⟩
  exact ⟨p, hsub hp, hid, hcookie⟩

/-- When a list is refused, the owner of a cookie and a tenant with a larger id
    both use the cookie that is named. `seen` is what was gone through before,
    and the owners are from there. -/
theorem scan_eq_error {owners : Assoc String String} {seen rest : List (String × Option String)}
    {fault : Fault} (hsorted : (seen ++ rest).Pairwise fun p q => p.1 ≤ q.1)
    (howners : ∀ cookie first, owners.get? cookie = some first → Uses default seen first cookie)
    (h : scan default owners rest = .error fault) :
    ∃ first second cookie, fault = .sharedCookie first second cookie ∧ first < second ∧
      Uses default (seen ++ rest) first cookie ∧ Uses default (seen ++ rest) second cookie := by
  induction rest generalizing owners seen with
  | nil => exact absurd h (by simp only [scan, reduceCtorEq, not_false_eq_true])
  | cons p rest ih =>
      rcases p with ⟨id, configured⟩
      -- The tenant itself is among those gone through from here on.
      have happ : seen ++ (id, configured) :: rest = seen ++ [(id, configured)] ++ rest :=
        List.append_cons seen (id, configured) rest
      have hkept : ∀ cookie first, owners.get? cookie = some first →
          Uses default (seen ++ [(id, configured)]) first cookie :=
        fun cookie first hfirst =>
          (howners cookie first hfirst).of_subset (List.subset_append_left seen _)
      rw [scan] at h
      cases howner : owners.get? (effectiveCookie default configured) with
      | some first =>
          rw [howner] at h
          simp only at h
          by_cases hid : first = id
          · rw [if_pos (beq_iff_eq.mpr hid)] at h
            rw [happ] at hsorted ⊢
            exact ih hsorted hkept h
          · rw [if_neg (by simpa only [beq_iff_eq] using hid)] at h
            have huses := howners _ first howner
            rcases huses with ⟨q, hq, rfl, _⟩
            have hle : q.1 ≤ id :=
              (List.pairwise_append.mp hsorted).2.2 q hq (id, configured) List.mem_cons_self
            refine ⟨q.1, id, effectiveCookie default configured, (Except.error.inj h).symm,
              lt_of_le_of_ne hle hid, ?_, ?_⟩
            · exact (howners _ q.1 howner).of_subset (List.subset_append_left seen _)
            · exact ⟨(id, configured), List.mem_append_right seen List.mem_cons_self, rfl, rfl⟩
      | none =>
          rw [howner] at h
          simp only at h
          rw [happ] at hsorted ⊢
          refine ih hsorted (fun cookie first hfirst => ?_) h
          rw [Assoc.get?_insert] at hfirst
          by_cases hcookie : (effectiveCookie default configured == cookie) = true
          · rw [if_pos hcookie, Option.some.injEq] at hfirst
            rw [← hfirst, ← eq_of_beq hcookie]
            exact ⟨(id, configured), List.mem_append_right seen List.mem_cons_self, rfl, rfl⟩
          · rw [if_neg hcookie] at hfirst
            exact hkept cookie first hfirst

/-- The check accepts handlers exactly when different tenants use different
    cookies. A refusal names two tenants, the smaller id first, that both use
    the cookie it names; and if every tenant is listed once, then the answer
    does not depend on the order of the list. -/
theorem check_decides (default : String) (handlers : List (String × Option String)) :
    (check default handlers = .ok () ↔ Isolated default handlers) ∧
    (∀ fault, check default handlers = .error fault →
      ∃ first second cookie, fault = .sharedCookie first second cookie ∧ first < second ∧
        Uses default handlers first cookie ∧ Uses default handlers second cookie) ∧
    ((handlers.map Prod.fst).Nodup → ∀ other, handlers.Perm other →
      check default other = check default handlers) := by
  refine ⟨check_eq_ok_iff handlers, fun fault hfault => ?_, fun hkeys other hperm => ?_⟩
  · have hsub : Text.sortedByKey handlers ⊆ handlers := (Text.sortedByKey_perm handlers).subset
    have hsorted : List.Pairwise (fun p q : String × Option String => p.1 ≤ q.1)
        ([] ++ Text.sortedByKey handlers) := Text.pairwise_sortedByKey handlers
    -- Nobody owns a cookie at first.
    have howners : ∀ cookie first, Assoc.get? ([] : Assoc String String) cookie = some first →
        Uses default [] first cookie :=
      fun _ first hfirst => absurd hfirst (Option.some_ne_none first).symm
    rcases scan_eq_error hsorted howners hfault with
      ⟨first, second, cookie, hnames, hlt, hfirst, hsecond⟩
    exact ⟨first, second, cookie, hnames, hlt, hfirst.of_subset hsub, hsecond.of_subset hsub⟩
  · rw [check, check, Text.sortedByKey_eq_of_perm hperm hkeys]

/-- Two tenants with one cookie, which only one of them names itself. -/
def twoTenants : List (String × Option String) :=
  [("globex", some " sid "), ("acme", none)]

/-- They are refused, and in the other order with the same fault. -/
theorem check_decides_padded :
    check "sid" twoTenants = .error (.sharedCookie "acme" "globex" "sid") ∧
      check "sid" twoTenants.reverse = .error (.sharedCookie "acme" "globex" "sid") := by
  rcases check_decides "sid" twoTenants with ⟨hok, hnamed, hperm⟩
  have hrefused : check "sid" twoTenants ≠ .ok () := fun h =>
    hok.mp h ("globex", some " sid ") (by decide) ("acme", none) (by decide) (by decide)
      (by decide +kernel)
  have hverdict : check "sid" twoTenants = .error (.sharedCookie "acme" "globex" "sid") := by
    cases hcheck : check "sid" twoTenants with
    | ok accepted => exact absurd hcheck hrefused
    | error fault =>
        rcases hnamed fault hcheck with
          ⟨_, _, _, rfl, hlt, ⟨p, hp, rfl, rfl⟩, ⟨q, hq, rfl, _⟩⟩
        -- Of the two ids only one is smaller than the other.
        rw [twoTenants, List.mem_pair] at hp hq
        rcases hp with rfl | rfl <;> rcases hq with rfl | rfl
        · exact absurd hlt (lt_irrefl _)
        · exact absurd hlt (by decide)
        · rfl
        · exact absurd hlt (lt_irrefl _)
  refine ⟨hverdict, ?_⟩
  rw [hperm (by decide) _ (List.reverse_perm twoTenants).symm, hverdict]

end Session

end Multitenancy
