/-!
# Request Errors

What a handler or a middleware answers when it cannot answer with a response.

The kind of an error fixes the status that the client sees; the text is for
people. Both are shown together by `Error.display`.

## Main definitions

* `ErrorKind`: Why a request failed.
* `Error`: A kind with a text.
* `Error.status`: The status for the client.
* `Error.display`: The kind's heading followed by the text.
-/

namespace Multitenancy

namespace Http

/-- Why a request failed. -/
inductive ErrorKind where
  | badRequest
  | unauthorized
  | forbidden
  | notFound
  | conflict
  | serialization
  | deserialization
  | internal
  | serviceUnavailable
  | io
  deriving DecidableEq, Repr

namespace ErrorKind

/-- The status shown to the client. -/
def status : ErrorKind → Nat
  | .badRequest | .deserialization => 400
  | .unauthorized => 401
  | .forbidden => 403
  | .notFound => 404
  | .conflict => 409
  | .serviceUnavailable => 503
  | .serialization | .internal | .io => 500

/-- The words before the text. -/
def heading : ErrorKind → String
  | .badRequest => "Bad Request: "
  | .unauthorized => "Unauthorized: "
  | .forbidden => "Forbidden: "
  | .notFound => "Not Found: "
  | .conflict => "Conflict: "
  | .serialization => "Serialization error: "
  | .deserialization => "Deserialization error: "
  | .internal => "Internal server error: "
  | .serviceUnavailable => "Service Unavailable: "
  | .io => "IO error: "

end ErrorKind

/-- A failed request. -/
structure Error where
  kind : ErrorKind
  text : String
  deriving DecidableEq, Repr

namespace Error

/-- The status shown to the client. -/
def status (e : Error) : Nat :=
  e.kind.status

/-- The kind's heading followed by the text. -/
def display (e : Error) : String :=
  e.kind.heading ++ e.text

/-- Whether the client is to blame: a status from 400 to 499. -/
def isClient (e : Error) : Bool :=
  400 ≤ e.status && e.status < 500

/-- Whether the server is to blame: a status from 500 on. -/
def isServer (e : Error) : Bool :=
  500 ≤ e.status

end Error

end Http

end Multitenancy
