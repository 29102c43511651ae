import Multitenancy.Proofs.Tenant.Check
import Multitenancy.Proofs.Text.Replacing
import Multitenancy.Resolution.Locator
/-!
# Which Locators Keep Tenants Apart

A template must have a slot for the id, so that no two tenants share a store.
The slot alone does not achieve that.

A locator is made in two passes. After the first, the ids are in place, and
they can still be told from the text. The second pass replaces the slot of the
name, also where an id has brought it in. What it puts in there is made from
the name, so an id can be hidden by a name: under the template that is nothing
but the slot of the id, the tenant with the slot of the name for its id and
`acme` for its name gets the locator of the tenant `acme`.

So locators keep those tenants apart whose ids leave the second pass nothing to
do. For each of them there is another tenant, with an id that passes every
check, that gets the same locator; and under no template without a slot for
the name are all tenants kept apart.

## Main definitions

* `Template.filled`: A template with an id put in.
* `Template.plain`: The second pass has nothing to do.
* `Tenant.shadow`: A tenant that gets the locator of another.
* `Template.bare`, `Template.hidden`, `Template.exposed`: The smallest case.

## Theorems

* `filled_injective`: The first pass keeps ids apart.
* `locator_of_plain`, `locator_shadow`: What the second pass does.
* `locators_apart`: Which tenants are kept apart, and that no template keeps
  all of them apart.
-/

namespace Multitenancy

/-- The first character of the slot does not come again in it. -/
theorem nameSlot_eq : nameSlot = '\x7b' :: "name\x7d".toList := by decide

theorem not_mem_nameSlot_tail : '\x7b' ∉ "name\x7d".toList := by decide

theorem not_forbidden_of_mem_nameSlot {c : Char} (h : c ∈ nameSlot) : c ∉ Tenant.forbidden := by
  have hall : nameSlot.all (fun d => !Tenant.forbidden.contains d) = true := by decide
  have hc := List.all_eq_true.mp hall c h
  rw [Bool.not_eq_true', ← Bool.not_eq_true, List.contains_iff_mem] at hc
  exact hc

theorem idSlot_ne_nil : idSlot ≠ [] := by decide

theorem nameSlot_ne_nil : nameSlot ≠ [] := by decide

namespace Template

/-- The template with an id put in: what the first pass makes of it. -/
def filled (template : Template) (id : String) : List Char :=
  Text.replaceAll idSlot id.toList template.text.toList

/-- Whether the second pass has nothing to do for an id. -/
def plain (template : Template) (id : String) : Bool :=
  !Text.occursIn nameSlot (template.filled id)

theorem plain_iff (template : Template) (id : String) :
    template.plain id = true ↔ ¬nameSlot <:+: template.filled id := by
  rw [plain, Bool.not_eq_true', ← Bool.not_eq_true, Text.occursIn_iff]

theorem locator_eq (template : Template) (t : Tenant) :
    template.locator t =
      String.ofList (Text.replaceAll nameSlot (slug t.name.toList) (template.filled t.id)) := rfl

/-- The first pass keeps ids apart: a template has the slot, so the id can be
    told from the text. -/
theorem filled_injective (template : Template) {a b : String}
    (h : template.filled a = template.filled b) : a = b := by
  have hslot : idSlot <:+: template.text.toList := (Text.occursIn_iff _ _).mp template.hasId
  exact String.toList_inj.mp (Text.replaceAll_injective idSlot_ne_nil hslot h)

/-- A plain id is left as the first pass has put it in. -/
theorem locator_of_plain {template : Template} {t : Tenant} (h : template.plain t.id = true) :
    template.locator t = String.ofList (template.filled t.id) := by
  rw [locator_eq, Text.replaceAll_eq_self ((template.plain_iff t.id).mp h)]

end Template

namespace Tenant

/-- A tenant whose id brings in the slot of the name, before the id of another,
    and whose name leaves nothing there. -/
def shadow (t : Tenant) : Tenant :=
  { t with id := String.ofList nameSlot ++ t.id, name := "" }

theorem toList_shadow_id (t : Tenant) : t.shadow.id.toList = nameSlot ++ t.id.toList := by
  rw [shadow, String.toList_append, String.toList_ofList]

theorem shadow_id_ne (t : Tenant) : t.shadow.id ≠ t.id := by
  intro h
  have hlen := congrArg (fun s : String => s.toList.length) h
  simp only [toList_shadow_id, List.length_append] at hlen
  have hpos := List.length_pos_iff.mpr nameSlot_ne_nil
  omega

/-- The check lets a shadow in wherever it lets the tenant in: a brace is no
    forbidden character. -/
theorem check_shadow {t : Tenant} (h : t.check = .ok ()) : t.shadow.check = .ok () := by
  rcases (t.check_eq_ok_iff).mp h with ⟨hne, htrim, hclean, _, _⟩
  have hid := t.toList_shadow_id
  -- With the slot in it the id is too long for the names that directories use.
  have hlong : 6 ≤ t.shadow.id.toList.length := by
    rw [hid, List.length_append, show nameSlot.length = 6 from by decide]
    omega
  refine (t.shadow.check_eq_ok_iff).mpr ⟨?_, ?_, ?_, ?_, ?_⟩
  · intro he
    rw [he] at hlong
    exact absurd hlong (by decide)
  · have hnil : t.id.toList ≠ [] := by
      intro hnil
      exact hne (String.toList_inj.mp (by rw [hnil, String.toList_empty]))
    rw [hid, nameSlot_eq]
    exact Text.trim_append_eq_self (by decide) htrim hnil
  · intro c hc
    rw [hid, List.mem_append] at hc
    rcases hc with hslot | hc
    · exact not_forbidden_of_mem_nameSlot hslot
    · exact hclean c hc
  · intro he
    rw [he] at hlong
    exact absurd hlong (by decide)
  · intro he
    rw [he] at hlong
    exact absurd hlong (by decide)

end Tenant

namespace Template

/-- The second pass takes from the text of a shadow what the shadow's id has
    brought in. `cs` is what is left of the template, and `front` what stands
    before it in the text of the tenant. -/
theorem replaceAll_shadow (id : List Char) (cs front : List Char)
    (h : ¬nameSlot <:+: front ++ Text.replaceAll idSlot id cs) :
    Text.replaceAll nameSlot [] (front ++ Text.replaceAll idSlot (nameSlot ++ id) cs) =
      front ++ Text.replaceAll idSlot id cs := by
  induction hn : cs.length using Nat.strongRecOn generalizing cs front with
  | _ n ih =>
      by_cases hocc : idSlot <:+: cs
      · rcases Text.exists_first idSlot_ne_nil hocc with ⟨before, rest, hcs, hfirst⟩
        have hshort : rest.length < n := by
          have hpos := List.length_pos_iff.mpr idSlot_ne_nil
          rw [← hn, hcs, List.length_append, List.length_append]
          omega
        rw [hfirst] at h
        have hfront : ¬nameSlot <:+: front ++ before := by
          intro hin
          rw [← List.append_assoc] at h
          exact h (hin.trans (List.prefix_append _ _).isInfix)
        have hrest : ¬nameSlot <:+: id ++ Text.replaceAll idSlot id rest := by
          intro hin
          rw [← List.append_assoc] at h
          exact h (hin.trans (List.suffix_append _ _).isInfix)
        -- The slot in the shadow's id is found, and the rest is as in the
        -- tenant's text.
        rw [hfirst, hfirst, ← List.append_assoc, ← List.append_assoc front,
          List.append_assoc nameSlot]
        rw [nameSlot_eq] at hfront ⊢
        rw [Text.replaceAll_append_piece not_mem_nameSlot_tail hfront, List.nil_append,
          ← nameSlot_eq, ih rest.length hshort rest id hrest rfl]
      · rw [Text.replaceAll_eq_self hocc, Text.replaceAll_eq_self hocc]
        rw [Text.replaceAll_eq_self hocc] at h
        exact Text.replaceAll_eq_self h []

/-- A shadow gets the locator of the tenant it stands before. -/
theorem locator_shadow {template : Template} {t : Tenant} (h : template.plain t.id = true) :
    template.locator t.shadow = template.locator t := by
  have hplain : ¬nameSlot <:+: [] ++ Text.replaceAll idSlot t.id.toList template.text.toList :=
    (template.plain_iff t.id).mp h
  have htext := replaceAll_shadow t.id.toList template.text.toList [] hplain
  rw [locator_of_plain h, locator_eq]
  refine congrArg String.ofList ?_
  rw [filled, filled, t.toList_shadow_id, show slug t.shadow.name.toList = [] from rfl]
  exact htext

/-- An id of one character that the slot does not have is plain under every
    template without a slot for the name. -/
theorem plain_zero {template : Template}
    (h : Text.occursIn nameSlot template.text.toList = false) : template.plain "0" = true := by
  rw [plain_iff]
  have htext : ¬nameSlot <:+: template.text.toList := by
    rw [← Text.occursIn_iff, h]
    exact Bool.false_ne_true
  exact Text.not_infix_replaceAll idSlot_ne_nil nameSlot_ne_nil (by decide) htext

/-- Under every template, tenants with different plain ids get different
    locators; but each tenant with a plain id that passes the check shares its
    locator with another that does, and under a template without a slot for
    the name there always are two such tenants. -/
theorem locators_apart (template : Template) :
    (∀ t u : Tenant, t.id ≠ u.id → template.plain t.id = true → template.plain u.id = true →
      template.locator t ≠ template.locator u) ∧
    (∀ u : Tenant, u.check = .ok () → template.plain u.id = true →
      ∃ t : Tenant, t.check = .ok () ∧ t.id ≠ u.id ∧ template.locator t = template.locator u) ∧
    (Text.occursIn nameSlot template.text.toList = false →
      ∃ t u : Tenant, t.check = .ok () ∧ u.check = .ok () ∧ t.id ≠ u.id ∧
        template.locator t = template.locator u) := by
  -- The shadow of a tenant spells out its locator in its own id.
  have hshadow : ∀ u : Tenant, u.check = .ok () → template.plain u.id = true →
      ∃ t : Tenant, t.check = .ok () ∧ t.id ≠ u.id ∧ template.locator t = template.locator u :=
    fun u hcheck hplain =>
      ⟨u.shadow, Tenant.check_shadow hcheck, u.shadow_id_ne, locator_shadow hplain⟩
  refine ⟨fun t u hne ht hu heq => hne ?_, hshadow, fun hslot => ?_⟩
  · -- With plain ids the locator is the template filled with the id, from which the id can be read
    -- back.
    rw [locator_of_plain ht, locator_of_plain hu, String.ofList_inj] at heq
    exact template.filled_injective heq
  · -- Without a slot for names any tenant with a plain id has such a shadow.
    have hcheck : (Tenant.new "0" "" ⟨0, 0⟩).check = .ok () := by decide
    rcases hshadow (Tenant.new "0" "" ⟨0, 0⟩) hcheck (plain_zero hslot) with ⟨t, ht, hne, heq⟩
    exact ⟨t, Tenant.new "0" "" ⟨0, 0⟩, ht, hcheck, hne, heq⟩

/-- The template that is nothing but the slot of the id. -/
def bare : Template where
  text := "\x7bid\x7d"
  hasId := by decide

/-- A tenant that hides behind its name. -/
def hidden : Tenant :=
  Tenant.new "\x7bname\x7d" "acme" ⟨0, 0⟩

/-- The tenant whose locator it gets. -/
def exposed : Tenant :=
  Tenant.new "acme" "" ⟨0, 0⟩

theorem locator_hidden :
    Text.occursIn nameSlot bare.text.toList = false ∧ hidden.check = .ok () ∧
      exposed.check = .ok () ∧ hidden.id ≠ exposed.id ∧
      bare.locator hidden = bare.locator exposed := by
  decide +kernel

end Template

end Multitenancy
