import Multitenancy.Storage.FileSystem
import Multitenancy.Tenant.Codec
/-!
# The Registry in a Database

The registry of tenants as a table with a row for each tenant, in the order of
their creation.

A row is decoded on every read. Rows that the table wrote decode to the record
that was written; a column that was changed from outside may not decode, and
then the read fails. All rows of a list have their times decoded before the
first has its metadata and status decoded, which decides whose fault is
reported.

A closed table answers nothing. A table that was opened for reading answers
reads and refuses each write at the point where it would change a row.

## Main definitions

* `Access`: What a connection to the table allows.
* `Table`: The rows.
* `Table.find`: The active tenant that answers to a key.
* `Table.create`, `Table.update`, `Table.softDelete`: The writes.
* `Table.overwrite`: A change from outside.
-/

namespace Multitenancy

/-- What a connection allows. -/
inductive Access where
  | full
  | readOnly
  | closed
  deriving DecidableEq, Repr

namespace TenantRow

/-- The row of a record, with its optional keys in their stored form. -/
def ofTenant (t : Tenant) : TenantRow :=
  { id := t.id
    name := t.name
    domain := foldKey t.domain
    subdomain := foldKey t.subdomain
    storeLocator := t.storeLocator
    status := t.status.name
    metadata := .written t.metadata
    createdAt := .written t.createdAt
    updatedAt := .written t.updatedAt }

/-- Whether the row is that of an active tenant. -/
def isActive (row : TenantRow) : Bool :=
  row.status == Status.active.name

/-- A point in time from its column. -/
def timeOf (column : String) : Cell Timestamp → Except Fault Timestamp
  | .written t => .ok t
  | .foreign text =>
    match Timestamp.column? text with
    | some t => .ok t
    | none => .error (.store (.invalidTime column text))

/-- Both points in time of a row. -/
def times (row : TenantRow) : Except Fault (Timestamp × Timestamp) := do
  let created ← timeOf "created_at" row.createdAt
  let updated ← timeOf "updated_at" row.updatedAt
  return (created, updated)

/-- The metadata of a row. -/
def metadataOf (row : TenantRow) : Except Fault (Assoc String String) :=
  match row.metadata with
  | .written m => .ok m
  | .foreign text =>
    match decodeMetadata? text with
    | some m => .ok m
    | none => .error .unreadableMetadata

/-- The record of a row whose times have been decoded. -/
def withTimes (row : TenantRow) (createdAt updatedAt : Timestamp) : Except Fault Tenant := do
  let metadata ← row.metadataOf
  let status ← Status.parse row.status
  return { id := row.id, name := row.name, domain := row.domain, subdomain := row.subdomain,
           storeLocator := row.storeLocator, status, metadata, createdAt, updatedAt }

/-- The record of a row. -/
def decode (row : TenantRow) : Except Fault Tenant := do
  let (created, updated) ← row.times
  row.withTimes created updated

/-- Replace a column by a text; `none` for a column that is not among those
    that can be replaced. -/
def overwrite (row : TenantRow) (column text : String) : Option TenantRow :=
  match column with
  | "name" => some { row with name := text }
  | "domain" => some { row with domain := text }
  | "subdomain" => some { row with subdomain := text }
  | "store_locator" => some { row with storeLocator := text }
  | "status" => some { row with status := text }
  | "metadata" => some { row with metadata := .foreign text }
  | "created_at" => some { row with createdAt := .foreign text }
  | "updated_at" => some { row with updatedAt := .foreign text }
  | _ => none

end TenantRow

/-- The registry as rows. -/
structure Table where
  rows : List TenantRow := []
  access : Access := .full
  deriving DecidableEq, Repr

namespace Table

/-- A table without rows. -/
def empty : Table := {}

/-- Whether the table answers at all. -/
def ensureOpen (r : Table) : Except Fault Unit :=
  if r.access == .closed then .error (.store .closed) else .ok ()

/-- Whether the table can be changed. -/
def ensureWritable (r : Table) : Except Fault Unit :=
  if r.access == .readOnly then .error (.store .readOnly) else .ok ()

/-- The first row that answers to a key, among those that pass a test: by id,
    then by domain, then by subdomain. -/
def answering? (r : Table) (allowed : TenantRow → Bool) (key lowered : String) :
    Option TenantRow :=
  let rows := r.rows.filter fun row => row.isActive && allowed row
  (rows.find? (·.id == key)).or
    ((rows.find? (·.domain == lowered)).or (rows.find? (·.subdomain == lowered)))

/-- The id of an active tenant other than `own` that answers to a key. -/
def claimant? (r : Table) (key own : String) : Option String :=
  (r.answering? (·.id != own) key (Text.lowerText key)).map TenantRow.id

/-- Whether every key of a record is free or its own. The id comes first. -/
def checkKeys (r : Table) (t : Tenant) : Except Fault Unit :=
  (t.id :: t.secondaryKeys).forM fun key =>
    match r.claimant? key t.id with
    | some owner => .error (.keyTaken key owner)
    | none => .ok ()

/-- The active tenant that answers to a key. A blank key is answered without
    looking at the table. -/
def find (r : Table) (key : String) : Except Fault Tenant :=
  if Text.blankText key then .error (.unknownTenant key)
  else do
    r.ensureOpen
    match r.answering? (fun _ => true) key (foldKey key) with
    | some row => row.decode
    | none => .error (.unknownTenant key)

/-- The row with an id. -/
def rowById? (r : Table) (id : String) : Option TenantRow :=
  r.rows.find? (·.id == id)

/-- The tenant with an id, deleted or not. -/
def findById (r : Table) (id : String) : Except Fault Tenant := do
  r.ensureOpen
  match r.rowById? id with
  | some row => row.decode
  | none => .error (.unknownTenant id)

/-- Decode rows: first the times of all of them, then the rest of each. -/
def decodeAll (rows : List TenantRow) : Except Fault (List Tenant) := do
  let timed ← rows.mapM fun row => do
    let (created, updated) ← row.times
    pure (row, created, updated)
  timed.mapM fun (row, created, updated) => row.withTimes created updated

/-- All tenants in the order of their creation. -/
def listAll (r : Table) : Except Fault (List Tenant) := do
  r.ensureOpen
  decodeAll r.rows

/-- The active tenants in the order of their creation. -/
def list (r : Table) : Except Fault (List Tenant) := do
  r.ensureOpen
  decodeAll (r.rows.filter TenantRow.isActive)

/-- Add a tenant. -/
def create (r : Table) (t : Tenant) : Except Fault Table := do
  t.check
  r.ensureOpen
  if (r.rowById? t.id).isSome then .error (.idTaken t.id)
  r.checkKeys t
  r.ensureWritable
  return { r with rows := r.rows ++ [TenantRow.ofTenant t] }

/-- Change the row with an id. -/
def changeRow (r : Table) (id : String) (change : TenantRow → TenantRow) : Table :=
  { r with rows := r.rows.map fun row => if row.id == id then change row else row }

/-- Replace an active tenant. Its status and the time of its creation stay. -/
def update (r : Table) (t : Tenant) : Except Fault Table := do
  r.ensureOpen
  match (r.rowById? t.id).filter TenantRow.isActive with
  | none => .error (.unknownTenant t.id)
  | some _ =>
    r.checkKeys t
    r.ensureWritable
    return r.changeRow t.id fun row =>
      { TenantRow.ofTenant t with status := row.status, createdAt := row.createdAt }

/-- Delete a tenant. Its row stays; deleting it again does nothing. -/
def softDelete (r : Table) (id : String) (now : Timestamp) : Except Fault Table := do
  r.ensureOpen
  r.ensureWritable
  match r.rowById? id with
  | none => .error (.unknownTenant id)
  | some row =>
    if row.isActive then
      return r.changeRow id fun row =>
        { row with status := Status.deleted.name, updatedAt := .written now }
    else return r

/-- Replace a column of a row from outside, and say how many rows there were;
    `none` for a column that is not among those that can be replaced. -/
def overwrite (r : Table) (id column text : String) : Except Fault (Option (Nat × Table)) := do
  match (TenantRow.ofTenant (Tenant.new "" "" ⟨0, 0⟩)).overwrite column text with
  | none => return none
  | some _ =>
    r.ensureOpen
    r.ensureWritable
    return some ((r.rows.filter (·.id == id)).length,
      r.changeRow id fun row => (row.overwrite column text).getD row)

end Table

end Multitenancy
