import Multitenancy.Http.Error
/-!
# Faults

Why an operation on tenants, their registry or their stores failed.

A fault is a cause, not a sentence: each constructor names what went wrong and
carries the values involved, and the wording stands in one place, `detail`.
The kind of a fault tells a caller what to do about it. Only `notFound` is
absorbed on the way, by the resolver; everything else reaches the caller.

## Main definitions

* `FaultKind`: What a caller may do about a fault.
* `StoreFault`: What a database answered.
* `Fault`: The causes.
* `Fault.message`: The kind's heading and the detail.
* `Fault.toRequestError`: A fault as a request sees it.
-/

namespace Multitenancy

/-- What a caller may do about a fault. -/
inductive FaultKind where
  | notFound
  | conflict
  | provisioning
  | configuration
  | serviceUnavailable
  | invalid
  | storage
  deriving DecidableEq, Repr

namespace FaultKind

/-- The words before the detail. -/
def heading : FaultKind → String
  | .notFound => "Tenant not found: "
  | .conflict => "Tenant conflict: "
  | .provisioning => "Tenant provisioning failed: "
  | .configuration => "Tenancy configuration error: "
  | .serviceUnavailable => "Service unavailable for tenant: "
  | .invalid => "Invalid tenant: "
  | .storage => "Storage error: "

end FaultKind

/-- Why a database refused. -/
inductive StoreFault where
  /-- The connection was closed before. -/
  | closed
  /-- There is no file, or it is a directory. -/
  | cannotOpen
  /-- The file is there but holds something else. -/
  | notDatabase
  /-- The store was opened for reading only. -/
  | readOnly
  /-- A table has not been created. -/
  | missingTable (table : String)
  /-- A file layer that does not exist was asked for. -/
  | unknownLayer (name : String)
  /-- The address of a file names another machine. -/
  | otherMachine (authority : String)
  /-- A column that should hold a point in time holds something else. -/
  | invalidTime (column value : String)
  deriving DecidableEq, Repr

namespace StoreFault

/-- An answer of the database itself, by its code. -/
def answered (code : Nat) (text : String) : String :=
  "error returned from database: (code: " ++ toString code ++ ") " ++ text

/-- The wording. -/
def message : StoreFault → String
  | .closed => "attempted to acquire a connection on a closed pool"
  | .cannotOpen => answered 14 "unable to open database file"
  | .notDatabase => answered 26 "file is not a database"
  | .readOnly => answered 8 "attempt to write a readonly database"
  | .missingTable table => answered 1 ("no such table: " ++ table)
  | .unknownLayer name => answered 1 ("no such vfs: " ++ name)
  | .otherMachine authority => answered 1 ("invalid uri authority: " ++ authority)
  | .invalidTime column value =>
    "error occurred while decoding column \"" ++ column ++ "\": invalid datetime: " ++ value

end StoreFault

/-- Why a file or directory could not be used. -/
inductive PathFault where
  | missing
  | exists
  | notDirectory
  | isDirectory
  | notText
  | nameTooLong
  deriving DecidableEq, Repr

namespace PathFault

/-- The wording. -/
def message : PathFault → String
  | .missing => "No such file or directory (os error 2)"
  | .exists => "File exists (os error 17)"
  | .notDirectory => "Not a directory (os error 20)"
  | .isDirectory => "Is a directory (os error 21)"
  | .notText => "stream did not contain valid UTF-8"
  | .nameTooLong => "File name too long (os error 36)"

end PathFault

/-- The causes of failure. -/
inductive Fault where
  /-- No tenant answers to the key or has the id. -/
  | unknownTenant (key : String)
  /-- A request that needs a tenant has none. -/
  | unresolved
  /-- The id belongs to a tenant already, perhaps a deleted one. -/
  | idTaken (id : String)
  /-- Another active tenant answers to a routing key. -/
  | keyTaken (key owner : String)
  /-- An id is blank. -/
  | emptyId
  /-- An id begins or ends with blanks. -/
  | paddedId (id : String)
  /-- An id holds a character with a meaning in locators. -/
  | forbiddenChar (id : String) (c : Char)
  /-- An id is a name that directories use. -/
  | reservedId (id : String)
  /-- A pool was asked for a tenant without a store. -/
  | noLocator (id : String)
  /-- Neither the record nor the generator names a store. -/
  | locatorNotDerived (id : String)
  /-- A new store could not be opened or prepared. -/
  | storeRefused (locator : String) (cause : Fault)
  /-- A new store does not answer. -/
  | unhealthyStore (locator : String) (reason : String)
  /-- The migration of a new store failed. -/
  | migrationFailed (id : String) (cause : Fault)
  /-- A variable's text is no number. -/
  | invalidVariable (name text : String)
  /-- A strategy has no such kind. -/
  | unknownStrategy (name : String)
  /-- A pool may open no connection. -/
  | emptyPool
  /-- A pool must keep more connections than it may open. -/
  | overfullPool (least most : Nat)
  /-- The cache of resolved tenants may hold nothing. -/
  | emptyTenantCache
  /-- The cache of handlers may hold nothing. -/
  | emptyHandlerCache
  /-- A template would give every tenant the same store. -/
  | templateWithoutId (template : String)
  /-- The default session cookie has no name. -/
  | blankSessionCookie
  /-- A settings document does not have the form of one. -/
  | unreadableDocument
  /-- A settings document could not be read. -/
  | unreadableFile (path : String) (reason : PathFault)
  /-- Two tenants would read each other's sessions. -/
  | sharedCookie (first second cookie : String)
  /-- A path pattern does not have the form of one. -/
  | invalidPattern
  /-- A path pattern has too few groups. -/
  | missingGroup (pattern : String) (group : Nat)
  /-- A locator does not have the form of one. -/
  | invalidLocator (locator reason : String)
  /-- A tenant has no handler and there is no factory. -/
  | noFactory (id : String)
  /-- The build of a handler ended without a result. -/
  | buildAborted
  /-- A row holds a status that does not exist. -/
  | unknownStatus (text : String)
  /-- A row's metadata is not an object of texts. -/
  | unreadableMetadata
  /-- The directory of a store could not be created. -/
  | directoryRefused (path : String) (reason : PathFault)
  /-- The database refused. -/
  | store (cause : StoreFault)
  /-- What a hook, a factory or a registry reported itself. -/
  | reported (kind : FaultKind) (text : String)
  deriving DecidableEq, Repr

namespace Fault

/-- What a caller may do about it. -/
def kind : Fault → FaultKind
  | .unknownTenant _ | .unresolved => .notFound
  | .idTaken _ | .keyTaken _ _ => .conflict
  | .emptyId | .paddedId _ | .forbiddenChar _ _ | .reservedId _ | .noLocator _ => .invalid
  | .locatorNotDerived _ | .storeRefused _ _ | .unhealthyStore _ _ | .migrationFailed _ _ =>
    .provisioning
  | .invalidVariable _ _ | .unknownStrategy _ | .emptyPool | .overfullPool _ _
  | .emptyTenantCache | .emptyHandlerCache | .templateWithoutId _ | .blankSessionCookie
  | .unreadableDocument | .unreadableFile _ _ | .sharedCookie _ _ _ | .invalidPattern
  | .missingGroup _ _ | .invalidLocator _ _ => .configuration
  | .noFactory _ | .buildAborted => .serviceUnavailable
  | .unknownStatus _ | .unreadableMetadata | .directoryRefused _ _ | .store _ => .storage
  | .reported kind _ => kind

/-- The wording after the heading. -/
def detail : Fault → String
  | .unknownTenant key => key
  | .unresolved => "no tenant resolved for this request"
  | .idTaken id => "tenant id '" ++ id ++ "' already exists"
  | .keyTaken key owner =>
    "routing key '" ++ key ++ "' is already used by tenant '" ++ owner ++ "'"
  | .emptyId => "tenant id must not be empty"
  | .paddedId id => "tenant id '" ++ id ++ "' has surrounding whitespace"
  | .forbiddenChar id c =>
    "tenant id '" ++ id ++ "' must not contain '" ++ c.toString ++ "'"
  | .reservedId id => "tenant id '" ++ id ++ "' is reserved"
  | .noLocator id => "tenant '" ++ id ++ "' has no store locator"
  | .locatorNotDerived id => "no store locator could be derived for tenant '" ++ id ++ "'"
  | .storeRefused locator cause =>
    "store '" ++ locator ++ "': " ++ cause.kind.heading ++ cause.detail
  | .unhealthyStore locator reason =>
    "store '" ++ locator ++ "' failed its health check: " ++ reason
  | .migrationFailed id cause =>
    "migration hook failed for tenant '" ++ id ++ "': " ++ cause.kind.heading ++ cause.detail
  | .invalidVariable name text => "Invalid " ++ name ++ ": '" ++ text ++ "'"
  | .unknownStrategy name => "unknown resolution strategy '" ++ name ++ "'"
  | .emptyPool => "pool max_connections must be positive"
  | .overfullPool least most =>
    "pool min_connections (" ++ toString least ++ ") exceeds max_connections (" ++
      toString most ++ ")"
  | .emptyTenantCache => "tenant cache capacity must be positive"
  | .emptyHandlerCache => "handler cache capacity must be positive"
  | .templateWithoutId template =>
    "locator template '" ++ template ++ "' has no \x7bid\x7d slot"
  | .blankSessionCookie => "default session cookie name must not be empty"
  | .unreadableDocument => "TOML parse error"
  | .unreadableFile path reason => "failed to read " ++ path ++ ": " ++ reason.message
  | .sharedCookie first second cookie =>
    "tenants '" ++ first ++ "' and '" ++ second ++ "' share session cookie '" ++ cookie ++ "'"
  | .invalidPattern => "invalid path pattern"
  | .missingGroup pattern group =>
    "path pattern '" ++ pattern ++ "' has no capture group " ++ toString group
  | .invalidLocator locator reason =>
    "invalid store locator '" ++ locator ++ "': " ++ reason
  | .noFactory id =>
    "tenant '" ++ id ++ "' has no registered handler and no factory is configured"
  | .buildAborted => "handler build aborted"
  | .unknownStatus text => "unknown tenant status '" ++ text ++ "'"
  | .unreadableMetadata => "metadata encoding"
  | .directoryRefused path reason => "cannot create " ++ path ++ ": " ++ reason.message
  | .store cause => cause.message
  | .reported _ text => text

/-- The heading of the kind and the detail. -/
def message (f : Fault) : String :=
  f.kind.heading ++ f.detail

/-- Whether the fault says that there is no such tenant. -/
def isNotFound (f : Fault) : Bool :=
  f.kind == .notFound

/-- A fault as a request sees it. Faults that are the service's own business
    keep their heading, since the request error's heading does not tell them
    apart. -/
def toRequestError (f : Fault) : Http.Error :=
  match f.kind with
  | .notFound => { kind := .notFound, text := f.detail }
  | .conflict => { kind := .conflict, text := f.detail }
  | .serviceUnavailable => { kind := .serviceUnavailable, text := f.detail }
  | .invalid => { kind := .badRequest, text := f.detail }
  | .provisioning | .configuration | .storage => { kind := .internal, text := f.message }

end Fault

end Multitenancy
