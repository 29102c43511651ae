import Multitenancy.Text.Ascii
import Multitenancy.Text.Blank
import Multitenancy.Text.Split
/-!
# Hosts

Which routing key a host stands for.

Under a base domain `example.com` the host `acme.example.com` stands for the
key `acme`; the base domain itself stands for nothing; every other host
stands for itself, so that a tenant can have a domain of its own. Only a whole
label ends the key: `notexample.com` is a host of its own, although it ends in
the letters of the base domain.

Hosts are compared in lower case and without their port.

## Main definitions

* `Host.withoutPort`: A host without its port.
* `Host.normalBase`: The compared form of a base domain.
* `Host.key?`: The key a host stands for.
-/

namespace Multitenancy

namespace Host

/-- A host without its port. What stands in brackets is an address whose
    colons do not begin a port; otherwise digits after the last colon do. -/
def withoutPort (host : List Char) : List Char :=
  match host with
  | '[' :: rest => rest.takeWhile (· != ']')
  | _ =>
    match Text.splitLast ':' host with
    | some (name, port) => if port.all Char.isDigit then name else host
    | none => host

/-- The compared form of a host. -/
def normal (host : List Char) : List Char :=
  Text.lower (withoutPort (Text.trim host))

/-- The compared form of a base domain: trimmed, without dots at its ends, and
    lowered. -/
def normalBase (base : List Char) : List Char :=
  let inner := (Text.trim base).dropWhile (· == '.')
  Text.lower (inner.reverse.dropWhile (· == '.')).reverse

/-- A key without blanks at its ends, if anything is left of it. -/
def nonBlank? (key : List Char) : Option (List Char) :=
  let trimmed := Text.trim key
  if trimmed.isEmpty then none else some trimmed

/-- What precedes the base domain and the dot before it. -/
def label? (base host : List Char) : Option (List Char) :=
  Text.beforeEnd ('.' :: base) host

/-- The key a host stands for under a base domain in its compared form. -/
def key? (base host : List Char) : Option (List Char) :=
  let host := normal host
  if host.isEmpty then none
  else if base.isEmpty then some host
  else if host == base then none
  else match label? base host with
    | some label => nonBlank? label
    | none => some host

end Host

end Multitenancy
