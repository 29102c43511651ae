import Multitenancy.Proofs.Text.Folding
import Multitenancy.Resolution.Locator
/-!
# The Shape of a Slug

What a slug looks like, what it keeps of a name, and where its dashes stand.

A slug is written from the left, and no dash is written before a letter or a
digit has been found to follow it. So a dash never stands at an end or next to
another dash, and nothing has to be taken back. The flags of the loop say
whether a dash is owed. `slugFrom_induction` goes through a name for all flags at
once, and what a slug has and keeps is read off it.

Only the shape decides whether a text is left alone. A second pass over a slug
meets a letter or digit after every dash, and pays each dash where it stood.

The shape and what is kept do not yet say which dashes are written. That takes
two more laws: a name of letters and digits alone is lowered, and any other
character between two names puts one dash between their slugs.

## Main definitions

* `isSlugLetter`: A small letter or a digit.
* `IsSlug`: Small letters and digits, with single dashes between them.
* `bridged`: Two slugs with a dash between them.

## Theorems

* `isSlugLetter_iff`, `isSlugLetter_toLower`: What lowering makes of a letter
  or digit.
* `slugFrom_induction`: What is true of all that is written.
* `isSlug_slug`: Every slug has the shape.
* `slug_eq_self_iff`: The texts that are left alone are those of the shape.
* `filter_slugFrom`: What a slug keeps.
* `slug_append_cons`: Where a dash is put.
* `slug_shape`: The slug of any name.
-/

namespace Multitenancy

/-! ### Letters and digits -/

/-- A small letter or a digit. -/
def isSlugLetter (c : Char) : Bool :=
  c.isLower || c.isDigit

theorem isLower_iff (c : Char) : c.isLower = true ↔ 97 ≤ c.toNat ∧ c.toNat ≤ 122 := by
  unfold Char.isLower
  rw [Bool.and_eq_true, decide_eq_true_eq, decide_eq_true_eq]
  exact and_congr UInt32.le_iff_toNat_le UInt32.le_iff_toNat_le

/-- A letter or digit is a capital letter, or what a slug may have. -/
theorem isAlphanum_iff (c : Char) : c.isAlphanum = true ↔
    (65 ≤ c.toNat ∧ c.toNat ≤ 90) ∨ isSlugLetter c = true := by
  unfold Char.isAlphanum Char.isAlpha Char.isUpper isSlugLetter
  rw [Bool.or_eq_true, Bool.or_eq_true, Bool.or_eq_true, or_assoc, decide_eq_true_eq]
  exact or_congr (and_congr UInt32.le_iff_toNat_le UInt32.le_iff_toNat_le) Iff.rfl

theorem isSlugLetter_iff_toNat (c : Char) : isSlugLetter c = true ↔
    (97 ≤ c.toNat ∧ c.toNat ≤ 122) ∨ (48 ≤ c.toNat ∧ c.toNat ≤ 57) := by
  rw [isSlugLetter, Bool.or_eq_true, isLower_iff, Text.isDigit_iff]

/-- What a slug may have is a letter or digit that lowering leaves alone. -/
theorem isSlugLetter_iff (c : Char) :
    isSlugLetter c = true ↔ c.isAlphanum = true ∧ c.toLower = c := by
  rw [isAlphanum_iff, isSlugLetter_iff_toNat, ← Char.toNat_inj, Text.toNat_toLower]
  split <;> omega

theorem isSlugLetter_toLower {c : Char} (h : c.isAlphanum = true) :
    isSlugLetter c.toLower = true := by
  rw [isAlphanum_iff, isSlugLetter_iff_toNat] at h
  rw [isSlugLetter_iff_toNat, Text.toNat_toLower]
  split <;> omega

theorem toLower_ne_dash {c : Char} (h : c.isAlphanum = true) : c.toLower ≠ '-' := by
  intro hdash
  have hletter := isSlugLetter_toLower h
  rw [hdash] at hletter
  exact absurd hletter (by decide)

/-! ### What a slug is made of -/

/-- A letter or digit is written, and from then on a dash may be owed. -/
theorem slugFrom_letter {c : Char} (h : c.isAlphanum = true) (started : Bool) (cs : List Char) :
    slugFrom started false (c :: cs) = c.toLower :: slugFrom true false cs := by
  rw [slugFrom, if_pos h]
  rfl

/-- A dash that is owed is paid before the next letter or digit. -/
theorem slugFrom_owed {c : Char} (h : c.isAlphanum = true) (started : Bool) (cs : List Char) :
    slugFrom started true (c :: cs) = '-' :: slugFrom started false (c :: cs) := by
  rw [slugFrom_letter h, slugFrom, if_pos h]
  rfl

/-- Any other character owes a dash if something was written. -/
theorem slugFrom_other {c : Char} (h : ¬c.isAlphanum = true) (started gap : Bool)
    (cs : List Char) : slugFrom started gap (c :: cs) = slugFrom started started cs := by
  rw [slugFrom, if_neg h]

/-- What is true of a name and what is written for it, whatever the flags: a
    dash is written only in front of a letter or digit. -/
theorem slugFrom_induction {motive : List Char → List Char → Prop} (nil : motive [] [])
    (letter : ∀ {c cs out}, c.isAlphanum = true → motive cs out →
      motive (c :: cs) (c.toLower :: out))
    (owed : ∀ {c cs out}, c.isAlphanum = true → motive (c :: cs) (c.toLower :: out) →
      motive (c :: cs) ('-' :: c.toLower :: out))
    (other : ∀ {c cs out}, ¬c.isAlphanum = true → motive cs out → motive (c :: cs) out)
    (started gap : Bool) (name : List Char) : motive name (slugFrom started gap name) := by
  induction name generalizing started gap with
  | nil => exact nil
  | cons c cs ih =>
      -- The flags matter at a letter only: a dash that is owed is written before it.
      by_cases hc : c.isAlphanum = true
      · cases gap with
        | false =>
            rw [slugFrom_letter hc]
            exact letter hc (ih true false)
        | true =>
            rw [slugFrom_owed hc, slugFrom_letter hc]
            exact owed hc (letter hc (ih true false))
      · rw [slugFrom_other hc]
        exact other hc (ih started started)

/-! ### The shape -/

/-- Small letters and digits, with single dashes between them. -/
structure IsSlug (cs : List Char) : Prop where
  letters : ∀ c ∈ cs, isSlugLetter c = true ∨ c = '-'
  first : cs.head? ≠ some '-'
  last : cs.getLast? ≠ some '-'
  single : ¬['-', '-'] <:+: cs

theorem letters_slugFrom (started gap : Bool) (name : List Char) :
    ∀ c ∈ slugFrom started gap name, isSlugLetter c = true ∨ c = '-' := by
  refine slugFrom_induction (motive := fun _ out => ∀ c ∈ out, isSlugLetter c = true ∨ c = '-')
    ?nil ?letter ?owed ?other started gap name
  case nil => exact fun c hc => absurd hc List.not_mem_nil
  case letter =>
    intro d cs out hd hout
    exact List.forall_mem_cons.mpr ⟨Or.inl (isSlugLetter_toLower hd), hout⟩
  case owed =>
    intro d cs out _ hout
    exact List.forall_mem_cons.mpr ⟨Or.inr rfl, hout⟩
  case other => exact fun _ hout => hout

/-- No dash is owed before something was written. -/
theorem head?_slug_ne (name : List Char) : (slug name).head? ≠ some '-' := by
  rw [slug]
  induction name with
  | nil => exact (Option.some_ne_none _).symm
  | cons c cs ih =>
      -- While nothing is written no dash is owed, so what comes first is a letter.
      by_cases hc : c.isAlphanum = true
      · rw [slugFrom_letter hc]
        exact fun hdash => toLower_ne_dash hc (Option.some.inj hdash)
      · rw [slugFrom_other hc]
        exact ih

/-- A dash is only written together with what follows it. -/
theorem getLast?_slugFrom_ne (started gap : Bool) (name : List Char) :
    (slugFrom started gap name).getLast? ≠ some '-' := by
  refine slugFrom_induction (motive := fun _ out => out.getLast? ≠ some '-')
    ?nil ?letter ?owed ?other started gap name
  case nil => exact (Option.some_ne_none _).symm
  case letter =>
    intro c cs out hc hout
    rw [List.getLast?_cons]
    -- The last character is the letter itself or the last of what was written after it.
    cases hlast : out.getLast? with
    | none => exact fun hdash => toLower_ne_dash hc (Option.some.inj hdash)
    | some last => rwa [hlast] at hout
  case owed =>
    intro c cs out _ hout
    rwa [List.getLast?_cons_cons]
  case other => exact fun _ hout => hout

/-- What is written after a dash is a letter or digit. -/
theorem single_slugFrom (started gap : Bool) (name : List Char) :
    ¬['-', '-'] <:+: slugFrom started gap name := by
  refine slugFrom_induction (motive := fun _ out => ¬['-', '-'] <:+: out)
    ?nil ?letter ?owed ?other started gap name
  case nil => exact fun h => absurd (List.infix_nil.mp h) (List.cons_ne_nil _ _)
  case letter =>
    intro c cs out hc hout
    rw [List.infix_cons_iff, not_or]
    exact ⟨fun h => toLower_ne_dash hc (List.cons_prefix_cons.mp h).1.symm, hout⟩
  case owed =>
    intro c cs out hc hout
    rw [List.infix_cons_iff, not_or]
    refine ⟨fun h => ?_, hout⟩
    -- A dash is followed by the letter that it was owed to, which is none.
    have hsecond := (List.cons_prefix_cons.mp h).2
    exact toLower_ne_dash hc (List.cons_prefix_cons.mp hsecond).1.symm
  case other => exact fun _ hout => hout

theorem isSlug_slug (name : List Char) : IsSlug (slug name) where
  letters := letters_slugFrom false false name
  first := head?_slug_ne name
  last := getLast?_slugFrom_ne false false name
  single := single_slugFrom false false name

/-! ### What is left alone -/

/-- What follows the first letter of a slug is written as it is read. -/
theorem slugFrom_eq_self {cs : List Char} (hletters : ∀ c ∈ cs, isSlugLetter c = true ∨ c = '-')
    (hlast : cs.getLast? ≠ some '-') (hsingle : ¬['-', '-'] <:+: cs) :
    slugFrom true false cs = cs := by
  induction cs with
  | nil => rfl
  | cons c cs ih =>
      rw [List.infix_cons_iff, not_or] at hsingle
      have hrest : slugFrom true false cs = cs := by
        refine ih (fun d hd => hletters d (List.mem_cons_of_mem c hd)) (fun hdash => hlast ?_)
          hsingle.2
        rw [List.getLast?_cons, hdash, Option.getD_some]
      rcases hletters c List.mem_cons_self with hletter | rfl
      · rw [isSlugLetter_iff] at hletter
        rw [slugFrom_letter hletter.1, hletter.2, hrest]
      · rw [slugFrom_other (by decide)]
        cases cs with
        | nil => exact absurd rfl hlast
        | cons d ds =>
            -- What follows a dash is no dash, so it is a letter or digit.
            have hd : d.isAlphanum = true := by
              rcases hletters d (List.mem_cons_of_mem _ List.mem_cons_self) with hletter | rfl
              · exact ((isSlugLetter_iff d).mp hletter).1
              · exact absurd ⟨ds, rfl⟩ hsingle.1
            rw [slugFrom_owed hd, hrest]

/-- The texts that are left alone are those of the shape of a slug. -/
theorem slug_eq_self_iff (cs : List Char) : slug cs = cs ↔ IsSlug cs := by
  constructor
  · intro h
    rw [← h]
    exact isSlug_slug cs
  · rintro ⟨hletters, hfirst, hlast, hsingle⟩
    cases cs with
    | nil => rfl
    | cons c cs =>
        have hc : c.isAlphanum = true := by
          rcases hletters c List.mem_cons_self with hletter | rfl
          · exact ((isSlugLetter_iff c).mp hletter).1
          · exact absurd rfl hfirst
        -- The first letter is written with no dash, whether or not something was before.
        have hstart : slug (c :: cs) = slugFrom true false (c :: cs) := by
          rw [slug, slugFrom_letter hc, slugFrom_letter hc]
        rw [hstart, slugFrom_eq_self hletters hlast hsingle]

/-! ### What is kept, and where the dashes stand -/

/-- The letters and digits of a slug are those of the name, lowered. -/
theorem filter_slugFrom (started gap : Bool) (name : List Char) :
    (slugFrom started gap name).filter Char.isAlphanum =
      Text.lower (name.filter Char.isAlphanum) := by
  refine slugFrom_induction (motive := fun name out =>
    out.filter Char.isAlphanum = Text.lower (name.filter Char.isAlphanum))
    ?nil ?letter ?owed ?other started gap name
  case nil => rfl
  case letter =>
    intro c cs out hc hout
    -- A lowered letter is still a letter, so the filter keeps it.
    have hkept : c.toLower.isAlphanum = true :=
      ((isSlugLetter_iff c.toLower).mp (isSlugLetter_toLower hc)).1
    rw [List.filter_cons_of_pos hkept, List.filter_cons_of_pos hc, hout]
    rfl
  case owed =>
    intro c cs out _ hout
    rwa [List.filter_cons_of_neg (by decide)]
  case other =>
    intro c cs out hc hout
    rwa [List.filter_cons_of_neg hc]

/-- Two slugs with a dash between them, unless one of them is empty. -/
def bridged (front back : List Char) : List Char :=
  if front = [] then back
  else if back = [] then front
  else front ++ '-' :: back

/-- A dash that is owed at the end of a name is not paid. -/
theorem slugFrom_true_true (name : List Char) :
    slugFrom true true name = if slug name = [] then [] else '-' :: slug name := by
  rw [slug]
  induction name with
  | nil => rfl
  | cons c cs ih =>
      -- At the first letter the dash is paid; before it nothing is written.
      by_cases hc : c.isAlphanum = true
      · rw [slugFrom_owed hc, slugFrom_letter hc, slugFrom_letter hc,
          if_neg (List.cons_ne_nil _ _)]
      · rw [slugFrom_other hc, slugFrom_other hc]
        exact ih

/-- After another character, the rest of a name is written as if it were the
    whole when nothing was written before, and with a dash owed otherwise. -/
theorem slugFrom_append_cons {c : Char} (hc : ¬c.isAlphanum = true) (started gap : Bool)
    (front back : List Char) : slugFrom started gap (front ++ c :: back) =
      if slugFrom started gap front = [] then slugFrom started started back
      else slugFrom started gap front ++ slugFrom true true back := by
  induction front generalizing started gap with
  | nil => exact slugFrom_other hc started gap back
  -- The induction is on the front, whose first letter decides whether anything is written.
  | cons d ds ih =>
      rw [List.cons_append]
      by_cases hd : d.isAlphanum = true
      · have hletter : slugFrom started false (d :: (ds ++ c :: back)) =
            slugFrom started false (d :: ds) ++ slugFrom true true back := by
          rw [slugFrom_letter hd, slugFrom_letter hd, ih, List.cons_append]
          by_cases hnil : slugFrom true false ds = []
          · rw [if_pos hnil, hnil, List.nil_append]
          · rw [if_neg hnil]
        cases gap with
        | false =>
            have hne : slugFrom started false (d :: ds) ≠ [] := by
              rw [slugFrom_letter hd]
              exact List.cons_ne_nil _ _
            rw [hletter, if_neg hne]
        | true =>
            rw [slugFrom_owed hd, slugFrom_owed hd, hletter, if_neg (List.cons_ne_nil _ _),
              List.cons_append]
      · rw [slugFrom_other hd, slugFrom_other hd, ih]

/-- A character that is no letter or digit puts one dash between the slugs of
    what stands on its two sides. -/
theorem slug_append_cons {c : Char} (hc : ¬c.isAlphanum = true) (front back : List Char) :
    slug (front ++ c :: back) = bridged (slug front) (slug back) := by
  rw [slug, slugFrom_append_cons hc, slugFrom_true_true, bridged]
  -- With both sides written down, what is left is whether one of them has no slug.
  change (if slug front = [] then slug back else _) = _
  by_cases hfront : slug front = []
  · rw [if_pos hfront, if_pos hfront]
  · rw [if_neg hfront, if_neg hfront]
    by_cases hback : slug back = []
    · rw [if_pos hback, if_pos hback, List.append_nil]
      rfl
    · rw [if_neg hback, if_neg hback]
      rfl

/-- A name of letters and digits alone is lowered. -/
theorem slug_of_alphanum {name : List Char} (h : ∀ c ∈ name, c.isAlphanum = true) :
    slug name = Text.lower name := by
  -- Without other characters no dash is ever owed, whether something was written or not.
  have hall : ∀ (started : Bool) (name : List Char), (∀ c ∈ name, c.isAlphanum = true) →
      slugFrom started false name = Text.lower name := by
    intro started name hname
    induction name generalizing started with
    | nil => rfl
    | cons c cs ih =>
        rw [List.forall_mem_cons] at hname
        rw [slugFrom_letter hname.1, ih true hname.2]
        rfl
  exact hall false name h

/-- The slug of any name has only small letters, digits and dashes, no dash at
    its ends and no two in a row. It keeps the letters and digits of the name,
    lowered and in their order, and a second pass leaves it alone. Its dashes
    are where the name has other characters between letters and digits: a name
    without such characters is lowered, and one between two names puts one dash
    between their slugs. -/
theorem slug_shape (name : List Char) :
    IsSlug (slug name) ∧
    (slug name).filter Char.isAlphanum = Text.lower (name.filter Char.isAlphanum) ∧
    slug (slug name) = slug name ∧
    ((∀ c ∈ name, c.isAlphanum = true) → slug name = Text.lower name) ∧
    (∀ front c back, name = front ++ c :: back → ¬c.isAlphanum = true →
      slug name = bridged (slug front) (slug back)) := by
  refine ⟨isSlug_slug name, filter_slugFrom false false name,
    (slug_eq_self_iff _).mpr (isSlug_slug name), slug_of_alphanum, ?_⟩
  rintro front c back rfl hc
  exact slug_append_cons hc front back

/-- A name with nothing but letters and digits, and one in which a blank is
    followed by dashes and ends in another character. -/
theorem slug_shape_acme :
    slug "ACME42".toList = "acme42".toList ∧
      slug "Acme -- Corp!".toList = bridged "acme".toList "corp".toList := by
  have hletters : ∀ c ∈ "ACME42".toList, c.isAlphanum = true :=
    List.all_eq_true.mp (by decide)
  have hname : "Acme -- Corp!".toList = "Acme".toList ++ ' ' :: "-- Corp!".toList := by decide
  refine ⟨?_, ?_⟩
  · rw [(slug_shape "ACME42".toList).2.2.2.1 hletters]
    decide
  · rw [(slug_shape "Acme -- Corp!".toList).2.2.2.2 _ _ _ hname (by decide)]
    decide

end Multitenancy
