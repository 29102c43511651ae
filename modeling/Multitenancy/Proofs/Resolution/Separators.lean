import Multitenancy.Proofs.Resolution.Locators
import Multitenancy.Proofs.Resolution.Slugs
/-!
# The Separators of a Locator

No tenant can change what the parts of its locator mean.

A locator is read by its separators: slashes between directories, a question
mark or a number sign after the path, percent signs before escapes. All of them
come from the template, in the order in which they stand there. Neither slot has
one, an id with one is refused, and a slug has only letters, digits and dashes.
So both passes put in what has no separators for what has none, and it does not
matter where the second pass finds its slot.

## Main definitions

* `Template.separators`: The separators of a text, in their order.

## Theorems

* `not_forbidden_of_mem_slug`: A slug has no separators.
* `Template.separators_filled`: An id that passes the check brings none in.
* `Template.separators_locator`: A locator has those of its template.
-/

namespace Multitenancy

/-! ### A slug has no separators -/

theorem not_forbidden_of_mem_slug {name : List Char} {c : Char} (h : c ∈ slug name) :
    c ∉ Tenant.forbidden := by
  intro hbad
  -- The forbidden characters are few, and none of them is a letter of a slug or a dash.
  have hall : Tenant.forbidden.all (fun d => !isSlugLetter d && d != '-') = true := by decide
  have hother := List.all_eq_true.mp hall c hbad
  rw [Bool.and_eq_true, Bool.not_eq_true', bne_iff_ne] at hother
  rcases (isSlug_slug name).letters c h with hletter | hdash
  · rw [hletter] at hother
    exact Bool.noConfusion hother.1
  · exact hother.2 hdash

namespace Template

/-- The separators of a text, in the order in which they stand there. -/
def separators (text : List Char) : List Char :=
  text.filter fun c => Tenant.forbidden.contains c

theorem separators_eq_nil {text : List Char} (h : ∀ c ∈ text, c ∉ Tenant.forbidden) :
    separators text = [] := by
  rw [separators, List.filter_eq_nil_iff]
  intro c hc
  rw [List.contains_iff_mem]
  exact h c hc

/-- Where no separators are put in for none, the text keeps its own. -/
theorem separators_replaceAll {piece new : List Char} (hpiece : piece ≠ [])
    (hold : separators piece = []) (hnew : separators new = []) (text : List Char) :
    separators (Text.replaceAll piece new text) = separators text :=
  Text.filter_replaceAll hpiece (hnew.trans hold.symm) text

/-- The first pass leaves the separators of the template. -/
theorem separators_filled (template : Template) {t : Tenant} (h : t.check = .ok ()) :
    separators (template.filled t.id) = separators template.text.toList := by
  have hclean := ((t.check_eq_ok_iff).mp h).2.2.1
  exact separators_replaceAll idSlot_ne_nil (by decide) (separators_eq_nil hclean) _

/-- The separators of a locator are those of the template, in the same order,
    whatever the id and the name of the tenant are. -/
theorem separators_locator (template : Template) {t : Tenant} (h : t.check = .ok ()) :
    separators (template.locator t).toList = separators template.text.toList := by
  rw [locator_eq, String.toList_ofList, ← template.separators_filled h]
  exact separators_replaceAll nameSlot_ne_nil (by decide)
    (separators_eq_nil fun _ hc => not_forbidden_of_mem_slug hc) _

/-- A template with separators before and after its slot. -/
def guarded : Template where
  text := "sqlite://data/\x7bid\x7d.db?mode=rwc"
  hasId := by decide

/-- A tenant whose id brings in the slot of the name, and whose name is nothing
    but separators around some letters. -/
def steering : Tenant :=
  Tenant.new "\x7bname\x7d" "../ACME%2F Corp#?" ⟨0, 0⟩

/-- The letters of the name are put in, and its separators are not. -/
theorem separators_locator_steering :
    steering.check = .ok () ∧
      guarded.locator steering = "sqlite://data/acme-2f-corp.db?mode=rwc" ∧
      separators (guarded.locator steering).toList = ['/', '/', '/', '?'] := by
  have hcheck : steering.check = .ok () := by decide +kernel
  refine ⟨hcheck, by decide +kernel, ?_⟩
  rw [guarded.separators_locator hcheck]
  decide +kernel

end Template

end Multitenancy
