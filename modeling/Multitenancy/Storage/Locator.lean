import Multitenancy.Http.FormEncoding
import Multitenancy.Text.Quoted
/-!
# Reading Store Locators

What a store locator such as `sqlite://data/acme.db?mode=rwc` says: which
file, and how to open it.

The scheme and the slashes in front say nothing. The path up to the question
mark is percent-decoded, and the parameters after it are a form. A parameter
that is not known, or that has a value that is not, makes the whole locator
unreadable; the fault is the text of the reason.

## Main definitions

* `StorePlan`: What a locator says.
* `StorePlan.parse`: The plan of a locator.
* `StorePlan.parent`: The directory a file is in.
* `StorePlan.file`: The file that is opened.
-/

namespace Multitenancy

/-- What a locator says. -/
structure StorePlan where
  /-- The path of the file; without one the store lives as long as it is
      open. -/
  path : String
  /-- Whether nothing is written to the file. -/
  inMemory : Bool := false
  readOnly : Bool := false
  /-- Whether the file is taken to never change. -/
  immutable : Bool := false
  /-- The file layer that was asked for. -/
  layer : Option String := none
  deriving DecidableEq, Repr

namespace StorePlan

/-- Drop a text from the front as often as it stands there. -/
def dropAll (start : List Char) (cs : List Char) : List Char :=
  go cs.length cs
where
  /-- At most `n` times. -/
  go : Nat → List Char → List Char
    | 0, cs => cs
    | n + 1, cs =>
      match Text.afterStart start cs with
      | some rest => go n rest
      | none => cs

/-- The fault of a value that a parameter does not have. -/
def unknownValue (name value : String) : String :=
  "error with configuration: unknown value " ++ Text.quoted value ++ " for \x60" ++ name ++ "\x60"

/-- Take over one parameter. -/
def withParameter (p : StorePlan) (name value : String) : Except String StorePlan :=
  match name with
  | "mode" =>
    match value with
    | "ro" => .ok { p with readOnly := true }
    | "rw" | "rwc" => .ok p
    | "memory" => .ok { p with inMemory := true }
    | _ => .error (unknownValue name value)
  | "cache" =>
    match value with
    | "private" | "shared" => .ok p
    | _ => .error (unknownValue name value)
  | "immutable" =>
    match value with
    | "true" | "1" => .ok { p with immutable := true }
    | "false" | "0" => .ok { p with immutable := false }
    | _ => .error (unknownValue name value)
  | "vfs" => .ok { p with layer := some value }
  | _ => .error ("error with configuration: unknown query parameter \x60" ++ name ++
      "\x60 while parsing connection URL")

/-- The plan of a path without parameters. -/
def ofPath (cs : List Char) : Except String StorePlan :=
  if cs == ":memory:".toList then .ok { path := "", inMemory := true }
  else
    let bytes := Http.percentDecode (Utf8.encodeChars cs)
    match Utf8.decode? bytes with
    | some path => .ok { path }
    | none => .error ("error with configuration: " ++ Utf8.faultText bytes)

/-- The plan of a locator, or why it has none. -/
def parse (locator : String) : Except String StorePlan := do
  let rest := dropAll "//".toList (dropAll "sqlite:".toList locator.toList)
  match Text.splitFirst '?' rest with
  | none => ofPath rest
  | some (path, form) =>
    (Http.parsePairs form).foldlM (fun p pair => p.withParameter pair.1 pair.2) (← ofPath path)

/-- Drop slashes and single dots at the end of a reversed path, except for a
    lone dot. -/
def dropTail : List Char → List Char
  | '/' :: rest => dropTail rest
  | '.' :: '/' :: rest => dropTail rest
  | cs => cs

/-- The directory a file is in, as it is written in the path; empty for a file
    in the working directory. -/
def parent (p : StorePlan) : String :=
  let before := (dropTail p.path.toList.reverse).dropWhile (· != '/')
  let trimmed := dropTail before
  if trimmed.isEmpty && !before.isEmpty then "/" else String.ofList trimmed.reverse

/-- The file that the address after `file:` leads to. An authority must be empty
    or this machine, and the fault is the authority; what follows a question
    mark or a number sign says nothing about the file. -/
def addressed (cs : List Char) : Except String String :=
  let path (cs : List Char) : String :=
    let kept := cs.takeWhile fun c => c != '?' && c != '#'
    Utf8.decodeLossy (Http.percentDecode (Utf8.encodeChars kept))
  match Text.afterStart "//".toList cs with
  | none => .ok (path cs)
  | some rest =>
    let authority := String.ofList (rest.takeWhile (· != '/'))
    if authority.isEmpty || authority == "localhost" then
      .ok (path (rest.dropWhile (· != '/')))
    else .error authority

/-- The file that is opened. A path that begins with `file:` is an address, unless
    parameters for the file layer go with it, which take the path as it is. -/
def file (p : StorePlan) : Except String String :=
  match Text.afterStart "file:".toList p.path.toList with
  | some rest => if p.immutable || p.layer.isSome then .ok p.path else addressed rest
  | none => .ok p.path

end StorePlan

end Multitenancy
