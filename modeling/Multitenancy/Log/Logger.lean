import Multitenancy.Log.Filter
import Multitenancy.Log.Line
import Multitenancy.Storage.FileSystem
/-!
# Installing a Logger

A process has one logger. Installing it resolves the filter, opens the file
that lines go to, and claims the process; a second installation fails, but
only after the same two steps have succeeded.

An explicit filter decides alone. Without one the filter that the environment
gives is used if it is well formed, and otherwise the level.

## Main definitions

* `Log.InstallFault`: Why an installation failed.
* `Log.Settings.resolveFilter`: The filter in force.
* `Log.Installation`: The logger of a process, and the files it can write to.
* `Log.Installation.install`: An installation.
* `Log.Installation.emit`, `Log.Installation.close`: What is written for an event and
  for the end of a span.
-/

namespace Multitenancy

namespace Log

/-- Why an installation failed. -/
inductive InstallFault where
  | file (path : String) (reason : PathFault)
  | filter
  | installed
  deriving DecidableEq, Repr

/-- The wording. -/
def InstallFault.message : InstallFault → String
  | .file path reason => "failed to open log file " ++ path ++ ": " ++ reason.message
  | .filter => "invalid log filter"
  | .installed =>
    "a global subscriber is already installed: " ++
      "a global default trace dispatcher has already been set"

/-- The filter in force, given the filter of the environment. -/
def Settings.resolveFilter (s : Settings) (environment : Option String) :
    Except InstallFault Filter :=
  match s.filter with
  | some text =>
    match Filter.parse? text with
    | some f => .ok f
    | none => .error .filter
  | none => .ok ((environment.bind Filter.parse?).getD (.ofLevel s.level))

/-- An installed logger. -/
structure Logger where
  settings : Settings
  filter : Filter

/-- A process with its logger and its files. -/
structure Installation where
  files : FileSystem := {}
  environment : Option String := none
  logger : Option Logger := none

namespace Installation

/-- Open the file that lines go to, making it if it is missing. -/
def openOutput (p : Installation) : Output → Except InstallFault FileSystem
  | .stdout | .stderr => .ok p.files
  | .file path =>
    match p.files.find path with
    | .ok .directory => .error (.file path .isDirectory)
    | .ok (.file _) => .ok p.files
    | .error .missing =>
      match p.files.writeFile path (.bytes []) with
      | .ok files => .ok files
      | .error reason => .error (.file path reason)
    | .error reason => .error (.file path reason)

/-- Install a logger. -/
def install (p : Installation) (s : Settings) : Except InstallFault Unit × Installation :=
  match s.resolveFilter p.environment with
  | .error f => (.error f, p)
  | .ok filter =>
    match p.openOutput s.output with
    | .error f => (.error f, p)
    | .ok files =>
      match p.logger with
      | some _ => (.error .installed, { p with files })
      | none => (.ok (), { p with files, logger := some { settings := s, filter } })

/-- The spans that are recorded. -/
def recorded (l : Logger) (inside : List Span) : List Span :=
  inside.filter l.filter.records

/-- What is written for an event inside spans. -/
def emit (p : Installation) (inside : List Span) (e : Event) : List String :=
  match p.logger with
  | none => []
  | some l =>
    let spans := recorded l inside
    if l.filter.passes spans e then [Line.render l.settings spans e] else []

/-- What is written when a span ends. -/
def close (p : Installation) (span : Span) : List String :=
  match p.logger with
  | none => []
  | some l =>
    if l.settings.spans && l.filter.records span then [Line.closing l.settings span] else []

end Installation

end Log

end Multitenancy
