import Multitenancy.Http.FormEncoding
import Multitenancy.Http.Extensions
import Multitenancy.Text.Assoc
import Multitenancy.Text.Ascii
import Multitenancy.Text.Blank
/-!
# Requests

A request with its headers, query and cookies.

Header names are stored lower-cased and looked up without regard to case.
Query names are compared exactly. Cookies live in the `cookie` header, as
pairs between semicolons with blanks around them ignored; of two cookies with
one name the first counts.

A request also carries request-scoped state of the kinds `κ`.

## Main definitions

* `Request`: A request.
* `Request.new`: A request for a path, whose query is split off and read.
* `Request.header?`, `Request.query?`, `Request.cookie?`: The three places
  where a client may name a tenant.
* `Request.withCookie`: Append a cookie to the `cookie` header.
-/

namespace Multitenancy

namespace Http

/-- A request carrying state of the kinds `κ`. -/
structure Request {κ : Type} (β : κ → Type) where
  method : String
  path : String
  headers : Assoc String String := []
  query : Assoc String String := []
  body : List UInt8 := []
  extensions : Extensions β := {}

namespace Request

variable {κ : Type} {β : κ → Type}

/-- A request for a path. What follows the first question mark is its query,
    in which the last of two values for one name counts. -/
def new (method path : String) : Request β :=
  match Text.splitFirst '?' path.toList with
  | some (before, query) =>
    { method, path := String.ofList before, query := Assoc.ofPairs (parsePairs query) }
  | none => { method, path }

/-- A request that reads. -/
def get (path : String) : Request β :=
  new "GET" path

/-- Write a header. -/
def withHeader (r : Request β) (name value : String) : Request β :=
  { r with headers := r.headers.insert (Text.lowerText name) value }

/-- Write the `host` header. -/
def withHost (r : Request β) (host : String) : Request β :=
  r.withHeader "host" host

/-- Write a query parameter. -/
def withQuery (r : Request β) (name value : String) : Request β :=
  { r with query := r.query.insert name value }

/-- Append a cookie to the `cookie` header. -/
def withCookie (r : Request β) (name value : String) : Request β :=
  let pair := name ++ "=" ++ value
  let line := match r.headers.get? "cookie" with
    | some existing => existing ++ "; " ++ pair
    | none => pair
  { r with headers := r.headers.insert "cookie" line }

/-- Replace the body. -/
def withBody (r : Request β) (body : List UInt8) : Request β :=
  { r with body }

/-- A header, whatever the case of its name. -/
def header? (r : Request β) (name : String) : Option String :=
  r.headers.get? (Text.lowerText name)

/-- The `host` header. -/
def host? (r : Request β) : Option String :=
  r.header? "host"

/-- A query parameter. -/
def query? (r : Request β) (name : String) : Option String :=
  r.query.get? name

/-- The value of one pair of the `cookie` header if the pair has the name. -/
def cookieIn (name : List Char) (pair : List Char) : Option (List Char) :=
  match Text.splitFirst '=' (Text.trim pair) with
  | some (key, value) => if Text.trim key == name then some (Text.trim value) else none
  | none => none

/-- The first cookie with a name. -/
def cookie? (r : Request β) (name : String) : Option String := do
  let line ← r.header? "cookie"
  let value ← (Text.splitAll ';' line.toList).findSome? (cookieIn name.toList)
  return String.ofList value

end Request

end Http

end Multitenancy
