import Multitenancy.Tenant.Fault
import Multitenancy.Text.Assoc
import Multitenancy.Text.Blank
import Multitenancy.Text.Order
/-!
# Session Cookies

Tenants served from one domain share a cookie jar. If two of them used one
session cookie, each would read the other's sessions, so a set of handlers is
accepted only if every two tenants use different cookies.

A handler without a cookie of its own uses the default, and so does one whose
cookie is blank. Names are compared trimmed.

## Main definitions

* `Session.effectiveCookie`: The cookie a handler ends up using.
* `Session.check`: Whether the tenants of a list keep apart.
-/

namespace Multitenancy

namespace Session

/-- The cookie a handler ends up using: its own one trimmed, or the trimmed
    default when it has none or a blank one. -/
def effectiveCookie (default : String) (configured : Option String) : String :=
  match configured with
  | some name =>
    let own := Text.trimText name
    if own.isEmpty then Text.trimText default else own
  | none => Text.trimText default

/-- Go through handlers in order, remembering who uses which cookie. A tenant
    may be listed more than once. -/
def scan (default : String) : Assoc String String → List (String × Option String) →
    Except Fault Unit
  | _, [] => .ok ()
  | owners, (id, configured) :: rest =>
    let cookie := effectiveCookie default configured
    match owners.get? cookie with
    | some first =>
      if first == id then scan default owners rest
      else .error (.sharedCookie first id cookie)
    | none => scan default (owners.insert cookie id) rest

/-- Whether no two tenants share a cookie. Tenants are gone through in the
    order of their ids, so the same tenants give the same fault. -/
def check (default : String) (handlers : List (String × Option String)) : Except Fault Unit :=
  scan default [] (Text.sortedByKey handlers)

/-- The default of a router that is not told otherwise. -/
def defaultCookie : String := "session_id"

end Session

end Multitenancy
