import Multitenancy.Tenant.Basic
/-!
# Partial Updates

What an administrator may change about a tenant: its name, its two optional
routing keys and its metadata. The id, the store locator and the status are
not among the fields, so an update cannot move a tenant to another store or
bring it back.

Metadata entries are merged into those that are there.

## Main definitions

* `Patch`: The fields to change.
* `Patch.apply`: A tenant after the change.
* `Patch.isEmpty`: Whether nothing but the time of change would differ.
-/

namespace Multitenancy

/-- The fields to change; `none` keeps a field. -/
structure Patch where
  name : Option String := none
  domain : Option String := none
  subdomain : Option String := none
  metadata : Option (Assoc String String) := none
  deriving DecidableEq, Repr

namespace Patch

/-- Whether no field changes. Merging no metadata changes nothing. -/
def isEmpty (p : Patch) : Bool :=
  p.name.isNone && p.domain.isNone && p.subdomain.isNone &&
    match p.metadata with
    | some entries => entries.isEmpty
    | none => true

/-- The tenant after the change, which happens at `now`. An empty domain or
    subdomain clears the key. -/
def apply (p : Patch) (t : Tenant) (now : Timestamp) : Tenant :=
  { t with
    name := p.name.getD t.name
    domain := (p.domain.map foldKey).getD t.domain
    subdomain := (p.subdomain.map foldKey).getD t.subdomain
    metadata := t.metadata.extend (p.metadata.getD [])
    updatedAt := now }

end Patch

end Multitenancy
