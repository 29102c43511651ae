import Multitenancy.Settings.Config
import Multitenancy.Storage.FileSystem
import Multitenancy.Storage.Locator
import Multitenancy.Text.Order
/-!
# Tenant Stores

Opening the databases that locators name, and the little that is asked of
them: whether they answer, and which migrations they have.

A handle is a number, so that two places that got the same store hold the same
handle, and closing it through one closes it for the other. A store without a
file belongs to its handle alone.

Opening may leave traces even if it fails: the directories of a store are made
before the store is opened.

## Main definitions

* `Handle`: An open store.
* `Stores`: Files and handles.
* `Stores.openStore`: Open a store.
* `Stores.ensureTable`, `Stores.recordMigration`, `Stores.migrations`: The
  table of migrations.
* `Stores.provision`: Open a store that may be new and prepare it.
-/

namespace Multitenancy

/-- Where an open store keeps its tables. -/
inductive Target where
  | file (location : Location)
  | apart (d : Database)
  deriving DecidableEq, Repr

/-- An open store. -/
structure Handle where
  locator : String
  target : Target
  readOnly : Bool
  closed : Bool := false
  deriving DecidableEq, Repr

/-- Files, and handles by their number. -/
structure Stores where
  files : FileSystem := {}
  handles : List Handle := []
  deriving DecidableEq, Repr

/-- The table of migrations. -/
def migrationTable : String := "_tenement_migrations"

/-- The version that is recorded when a store is prepared. -/
def bootstrapVersion : String := "0000_bootstrap"

namespace Stores

/-- The file layers there are. -/
def knownLayers : List String :=
  ["unix", "unix-none", "unix-dotfile", "unix-excl"]

/-- Make the directory of a store, unless it is in the working directory. -/
def ensureParent (fs : FileSystem) (plan : StorePlan) : Except Fault FileSystem :=
  let parent := plan.parent
  if parent.isEmpty then .ok fs
  else match fs.createDirectories parent with
    | .ok fs => .ok fs
    | .error reason => .error (.directoryRefused parent reason)

/-- Connect to a file. A missing file is made if it may be. -/
def connectFile (fs : FileSystem) (path : String) (create : Bool) :
    Except StoreFault (Target × FileSystem) :=
  match fs.find path with
  | .ok .directory => .error .cannotOpen
  | .ok (.file _) =>
    match fs.locate path with
    | .ok location => .ok (.file location, fs)
    | .error _ => .error .cannotOpen
  | .error .missing =>
    if create then
      match fs.writeFile path (.bytes []), fs.locate path with
      | .ok made, .ok location => .ok (.file location, made)
      | _, _ => .error .cannotOpen
    else .error .cannotOpen
  | .error _ => .error .cannotOpen

/-- Connect to the store of a plan. One without a file belongs to its handle. -/
def connect (fs : FileSystem) (plan : StorePlan) (create : Bool) :
    Except StoreFault (Target × FileSystem) :=
  match plan.layer.filter fun name => !knownLayers.contains name with
  | some name => .error (.unknownLayer name)
  | none =>
    match plan.file with
    | .error authority => .error (.otherMachine authority)
    | .ok path =>
      if plan.inMemory || path.isEmpty then .ok (.apart {}, fs)
      else connectFile fs path (create && !plan.readOnly)

/-- Open the file that a locator names: the pool settings are checked first,
    then the locator is read, then the directory is made if files may be. -/
def openFile (fs : FileSystem) (pool : PoolSettings) (locator : String) (create : Bool) :
    Except Fault (Target × Bool) × FileSystem :=
  match pool.check with
  | .error f => (.error f, fs)
  | .ok () =>
    match StorePlan.parse locator with
    | .error reason => (.error (.invalidLocator locator reason), fs)
    | .ok plan =>
      match if create then ensureParent fs plan else .ok fs with
      | .error f => (.error f, fs)
      | .ok fs =>
        match connect fs plan create with
        | .ok (target, fs) => (.ok (target, plan.readOnly || plan.immutable), fs)
        | .error f => (.error (.store f), fs)

/-- Open a store. The answer is the number of its handle. -/
def openStore (s : Stores) (pool : PoolSettings) (locator : String) (create : Bool) :
    Except Fault Nat × Stores :=
  match openFile s.files pool locator create with
  | (.ok (target, readOnly), files) =>
    (.ok s.handles.length,
      { files, handles := s.handles ++ [{ locator, target, readOnly }] })
  | (.error f, files) => (.error f, { s with files })

/-- The open store of a handle. -/
def live (s : Stores) (id : Nat) : Except StoreFault Handle :=
  match s.handles[id]? with
  | some h => if h.closed then .error .closed else .ok h
  | none => .error .closed

/-- The tables of a store. An empty file has none. -/
def tables (s : Stores) (h : Handle) : Except StoreFault Database :=
  match h.target with
  | .apart d => .ok d
  | .file location =>
    match s.files.at? location with
    | some (.file (.database d)) => .ok d
    | some (.file (.bytes [])) => .ok {}
    | some (.file (.bytes _)) => .error .notDatabase
    | some .directory | none => .error .cannotOpen

/-- Put changed tables into a store. -/
def writeTables (s : Stores) (id : Nat) (h : Handle) (d : Database) : Stores :=
  match h.target with
  | .apart _ => { s with handles := s.handles.set id { h with target := .apart d } }
  | .file location => { s with files := s.files.put location (.file (.database d)) }

/-- Why a store does not answer the simplest question, if it does not. -/
def health (s : Stores) (id : Nat) : Option StoreFault :=
  match s.live id with
  | .ok _ => none
  | .error f => some f

/-- Make the table of migrations if it is missing. -/
def ensureTable (s : Stores) (id : Nat) : Except StoreFault Stores := do
  let h ← s.live id
  let d ← s.tables h
  match d.migrations with
  | some _ => return s
  | none =>
    if h.readOnly then .error .readOnly
    return s.writeTables id h { d with migrations := some [] }

/-- Record a version, and say whether it was new. -/
def recordMigration (s : Stores) (id : Nat) (version : String) :
    Except StoreFault (Bool × Stores) := do
  let h ← s.live id
  let d ← s.tables h
  match d.migrations with
  | none => .error (.missingTable migrationTable)
  | some versions =>
    if h.readOnly then .error .readOnly
    if versions.contains version then return (false, s)
    return (true, s.writeTables id h { d with migrations := some (versions ++ [version]) })

/-- The versions that were recorded, in ascending order. -/
def migrations (s : Stores) (id : Nat) : Except StoreFault (List String) := do
  let h ← s.live id
  let d ← s.tables h
  match d.migrations with
  | none => .error (.missingTable migrationTable)
  | some versions => return Text.sorted versions

/-- Close a store. -/
def close (s : Stores) (id : Nat) : Stores :=
  match s.handles[id]? with
  | some h => { s with handles := s.handles.set id { h with closed := true } }
  | none => s

/-- A fault of preparing a store. One that is about preparing already is passed
    on as it is. -/
def refused (locator : String) (f : Fault) : Fault :=
  if f.kind == .provisioning then f else .storeRefused locator f

/-- Make the table of migrations and record the first version. -/
def prepare (s : Stores) (id : Nat) : Except StoreFault Stores := do
  let s ← s.ensureTable id
  let (_, s) ← s.recordMigration id bootstrapVersion
  return s

/-- Open a store that may be new, see that it answers, and prepare it. A store
    that cannot be prepared is closed again. -/
def provision (s : Stores) (pool : PoolSettings) (locator : String) :
    Except Fault Nat × Stores :=
  match s.openStore pool locator true with
  | (.error f, s) => (.error (refused locator f), s)
  | (.ok id, s) =>
    match s.health id with
    | some f => (.error (.unhealthyStore locator f.message), s.close id)
    | none =>
      match s.prepare id with
      | .ok s => (.ok id, s)
      | .error f => (.error (refused locator (.store f)), s.close id)

end Stores

end Multitenancy
