import Multitenancy.Log.Event
import Multitenancy.Settings.Variables
/-!
# Log Settings

Which events are written, in which form and where to.

Unlike other settings, log settings never stop a service: a variable that is
not understood leaves its setting at the default.

## Main definitions

* `Log.Format`: The form of lines.
* `Log.Output`: Where lines go.
* `Log.Settings`: All log settings.
* `Log.Settings.ofVariables`: The settings under a look-up.
-/

namespace Multitenancy

namespace Log

/-- A word without regard to its case and to blanks around it. -/
def word (s : String) : String :=
  String.ofList (Text.lower (Text.trim s.toList))

/-- The level of a word. -/
def Level.parse? (s : String) : Option Level :=
  match word s with
  | "trace" => some .trace
  | "debug" => some .debug
  | "info" => some .info
  | "warn" | "warning" => some .warn
  | "error" => some .error
  | _ => none

/-- The form of lines. -/
inductive Format where
  /-- One object a line, for machines. -/
  | json
  /-- Level, spans, target, message and fields. -/
  | plain
  /-- Several lines an event, for reading along. -/
  | pretty
  /-- Like `plain`, with the fields of spans at the end. -/
  | compact
  deriving DecidableEq, Repr

/-- The form of a word. -/
def Format.parse? (s : String) : Option Format :=
  match word s with
  | "json" => some .json
  | "plain" => some .plain
  | "pretty" => some .pretty
  | "compact" => some .compact
  | _ => none

/-- Where lines go. -/
inductive Output where
  | stdout
  | stderr
  /-- To the end of a file. -/
  | file (path : String)
  deriving DecidableEq, Repr

/-- All log settings. -/
structure Settings where
  level : Level := .info
  format : Format := .json
  output : Output := .stdout
  threadIds : Bool := false
  targets : Bool := true
  spans : Bool := false
  colors : Bool := false
  /-- A filter in place of the level. -/
  filter : Option String := none
  deriving DecidableEq, Repr

/-- The settings under a look-up of variables. -/
def Settings.ofVariables (v : Variables) : Settings :=
  let default : Settings := {}
  { default with
    level := ((v "TENEMENT_LOG_LEVEL").bind Level.parse?).getD default.level
    format := ((v "TENEMENT_LOG_FORMAT").bind Format.parse?).getD default.format
    filter := (v "TENEMENT_LOG_FILTER").filter fun s => !Text.blankText s }

end Log

end Multitenancy
