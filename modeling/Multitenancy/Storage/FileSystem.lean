import Multitenancy.Tenant.Basic
import Multitenancy.Text.Split
import Multitenancy.Text.Utf8
/-!
# Files and Directories

The part of a file system that stores, settings and logs live in.

Stores are files, and a store that cannot be opened is most often a file that
is missing, a directory in its place, or a directory that is missing. So the
model keeps which paths exist and what kind of thing is there; a path is
resolved name by name, as a system does it, with `..` going up.

A file holds either bytes or a database. Only what the library looks at is
kept of a database: its table of migrations and its table of tenants.

## Main definitions

* `Database`: The tables of a database file.
* `FileNode`: What is at a path.
* `FileSystem`: The paths below a working directory.
* `FileSystem.find`: What is at a path, or why nothing can be there.
* `FileSystem.createDirectories`: A directory with all above it.
* `FileSystem.writeFile`: Bytes at a path.
-/

namespace Multitenancy

/-- A column of a row: what the table wrote, or a text put there by others. -/
inductive Cell (α : Type) where
  | written (value : α)
  | foreign (text : String)
  deriving DecidableEq, Repr

/-- A row of the table of tenants. The columns that hold plain texts cannot
    hold anything else. -/
structure TenantRow where
  id : String
  name : String
  domain : String
  subdomain : String
  storeLocator : String
  status : String
  metadata : Cell (Assoc String String)
  createdAt : Cell Timestamp
  updatedAt : Cell Timestamp
  deriving DecidableEq, Repr

/-- The tables of a database, `none` for a table that has not been created. -/
structure Database where
  /-- The versions of the migrations that were applied. -/
  migrations : Option (List String) := none
  /-- The rows of the tenants, in order of their creation. -/
  tenants : Option (List TenantRow) := none
  deriving DecidableEq, Repr

/-- What a file holds. -/
inductive FileContent where
  | bytes (bs : List UInt8)
  | database (d : Database)
  deriving DecidableEq, Repr

/-- What is at a path. -/
inductive FileNode where
  | directory
  | file (content : FileContent)
  deriving DecidableEq, Repr

/-- The names on the way to a path from the working directory, the last one
    first. -/
abbrev Location := List String

/-- The paths that exist below the working directory. -/
structure FileSystem where
  nodes : Assoc Location FileNode := []
  deriving DecidableEq, Repr

namespace FileSystem

/-- What is at a location. The working directory exists. -/
def at? (fs : FileSystem) : Location → Option FileNode
  | [] => some .directory
  | location => fs.nodes.get? location

/-- The names of a path. Empty names and single dots say nothing; a path that
    ends in a slash must be a directory, which a dot at its end says. -/
def names (path : String) : List String :=
  ((Text.splitAll '/' path.toList).map String.ofList).filter fun n => !(n.isEmpty || n == ".")

/-- Whether a path can only be a directory by the way it ends. -/
def endsAsDirectory (path : String) : Bool :=
  match path.toList.reverse with
  | '/' :: _ => true
  | ['.'] => true
  | '.' :: '/' :: _ => true
  | _ => false

/-- The longest name a directory can hold, in bytes. -/
def maxName : Nat := 255

/-- Go from a location along names to where the last one stands, whether or not
    it exists. All names but the last must be directories. -/
def walk (fs : FileSystem) : Location → List String → Except PathFault Location
  | here, [] => .ok here
  | here, name :: rest =>
    match fs.at? here with
    | none => .error .missing
    | some (.file _) => .error .notDirectory
    | some .directory =>
      if name == ".." then walk fs here.tail rest
      else if maxName < (Utf8.encode name).length then .error .nameTooLong
      else walk fs (name :: here) rest

/-- The location of a path. -/
def locate (fs : FileSystem) (path : String) : Except PathFault Location :=
  if path.isEmpty then .error .missing else fs.walk [] (names path)

/-- What is at a path. -/
def find (fs : FileSystem) (path : String) : Except PathFault FileNode := do
  let location ← fs.locate path
  match fs.at? location with
  | none => .error .missing
  | some .directory => .ok .directory
  | some (.file content) =>
    if endsAsDirectory path then .error .notDirectory else .ok (.file content)

/-- Whether something is at a path. -/
def holds (fs : FileSystem) (path : String) : Bool :=
  match fs.find path with
  | .ok _ => true
  | .error _ => false

/-- Put something at a location. -/
def put (fs : FileSystem) (location : Location) (node : FileNode) : FileSystem :=
  { nodes := fs.nodes.insert location node }

/-- Make the directories on the way along names. `last` is why a file in the
    last place is refused. -/
def makeAll (fs : FileSystem) : Location → List String → Except PathFault FileSystem
  | here, [] =>
    match fs.at? here with
    | some (.file _) => .error .exists
    | _ => .ok fs
  | here, name :: rest =>
    match fs.at? here with
    | some (.file _) => .error .notDirectory
    | _ =>
      if name == ".." then makeAll fs here.tail rest
      else if maxName < (Utf8.encode name).length then .error .nameTooLong
      else
        match fs.at? (name :: here) with
        | none => makeAll (fs.put (name :: here) .directory) (name :: here) rest
        | some _ => makeAll fs (name :: here) rest

/-- Make a directory and all above it; nothing is made where the path is
    refused. -/
def createDirectories (fs : FileSystem) (path : String) : Except PathFault FileSystem :=
  fs.makeAll [] (names path)

/-- Put content into a file, which is made if it is missing. -/
def writeFile (fs : FileSystem) (path : String) (content : FileContent) :
    Except PathFault FileSystem := do
  let location ← fs.locate path
  match fs.at? location with
  | some .directory => .error .isDirectory
  | some (.file _) =>
    if endsAsDirectory path then .error .notDirectory else .ok (fs.put location (.file content))
  | none =>
    if endsAsDirectory path then .error .isDirectory
    else
      match fs.at? location.tail with
      | some .directory => .ok (fs.put location (.file content))
      | some (.file _) => .error .notDirectory
      | none => .error .missing

/-- The text of a file. -/
def readText (fs : FileSystem) (path : String) : Except PathFault String := do
  match ← fs.find path with
  | .directory => .error .isDirectory
  | .file (.database _) => .error .notText
  | .file (.bytes bs) =>
    match Utf8.decode? bs with
    | some s => .ok s
    | none => .error .notText

end FileSystem

end Multitenancy
