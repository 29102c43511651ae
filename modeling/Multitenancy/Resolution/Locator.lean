import Multitenancy.Tenant.Basic
import Multitenancy.Text.Split
/-!
# Where a New Tenant's Store Lives

A record that names no store gets a locator from a template: the slot
`\x7bid\x7d` is replaced by the tenant's id, and then `\x7bname\x7d` by a slug
of its name. A template without the first slot would give every tenant the
same store and is refused.

## Main definitions

* `slug`: A name as lower-case letters, digits and single dashes.
* `Template`: A template with a slot for the id.
* `Template.locator`: The locator of a tenant.
-/

namespace Multitenancy

/-- The slot that the id replaces. -/
def idSlot : List Char := "\x7bid\x7d".toList

/-- The slot that the slug of the name replaces. -/
def nameSlot : List Char := "\x7bname\x7d".toList

/-- The letters and digits of a name lowered, each run of other characters
    between them as one dash. `started` says whether something was written,
    `gap` whether a dash is owed before the next letter. -/
def slugFrom (started gap : Bool) : List Char → List Char
  | [] => []
  | c :: cs =>
    if c.isAlphanum then
      (if gap then ['-', c.toLower] else [c.toLower]) ++ slugFrom true false cs
    else slugFrom started started cs

/-- A name as lower-case letters, digits and single dashes, with no dash at
    its ends. -/
def slug (name : List Char) : List Char :=
  slugFrom false false name

/-- A template of locators. -/
structure Template where
  text : String
  hasId : Text.occursIn idSlot text.toList = true

namespace Template

/-- Whether a text has the slot for the id. -/
def accepts (text : String) : Bool :=
  Text.occursIn idSlot text.toList

/-- A template, if the text has the slot for the id. -/
def ofText (text : String) : Except Fault Template :=
  if h : Text.occursIn idSlot text.toList = true then .ok { text, hasId := h }
  else .error (.templateWithoutId text)

/-- The locator of a tenant: first the id is put in, then the slug of the
    name, also where the id brought in its slot. -/
def locator (template : Template) (t : Tenant) : String :=
  let named := Text.replaceAll idSlot t.id.toList template.text.toList
  String.ofList (Text.replaceAll nameSlot (slug t.name.toList) named)

end Template

end Multitenancy
