import Multitenancy.Http.Error
import Multitenancy.Json.Printer
import Multitenancy.Text.Assoc
import Multitenancy.Text.Utf8
/-!
# Responses

A status, headers and a body of bytes. Header names keep their case: what a
handler writes is what the client receives.

## Main definitions

* `Response`: A response.
* `Response.text`: Plain text with status 200.
* `Response.ofError`: A failed request as the client sees it.
* `Response.withJson`: A structured body.
-/

namespace Multitenancy

namespace Http

/-- A response. -/
structure Response where
  status : Nat
  headers : Assoc String String := []
  body : List UInt8 := []
  deriving DecidableEq, Repr

namespace Response

/-- The media type of plain text. -/
def plainText : String := "text/plain; charset=utf-8"

/-- An empty response with status 200. -/
def ok : Response := { status := 200 }

/-- An empty response with status 400. -/
def badRequest : Response := { status := 400 }

/-- An empty response with status 404. -/
def notFound : Response := { status := 404 }

/-- An empty response with status 500. -/
def internalServerError : Response := { status := 500 }

/-- An empty response with status 503. -/
def serviceUnavailable : Response := { status := 503 }

/-- Write a header. -/
def withHeader (r : Response) (name value : String) : Response :=
  { r with headers := r.headers.insert name value }

/-- Replace the body. -/
def withBody (r : Response) (body : List UInt8) : Response :=
  { r with body }

/-- Replace the body by a structured value, its fields in ascending order. -/
def withJson (r : Response) (value : Json) : Response :=
  { r with body := Utf8.encode value.sortFields.render }.withHeader
    "Content-Type" "application/json"

/-- Plain text with status 200. -/
def text (body : String) : Response :=
  (ok.withHeader "Content-Type" plainText).withBody (Utf8.encode body)

/-- A failed request as the client sees it: the kind's status, and the
    displayed error as plain text. -/
def ofError (e : Error) : Response :=
  ({ status := e.status : Response }.withHeader "Content-Type" plainText).withBody
    (Utf8.encode e.display)

/-- The body as text, read leniently. -/
def bodyText (r : Response) : String :=
  Utf8.decodeLossy r.body

end Response

end Http

end Multitenancy
