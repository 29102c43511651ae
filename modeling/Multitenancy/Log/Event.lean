/-!
# Log Events

What the library reports about its work: an event with a level, a target,
a message and fields, inside spans that say in whose name the work is done.

Levels are ordered by how much they let through: a filter at `debug` passes
`info` events, one at `info` drops `debug` events.

## Main definitions

* `Log.Level`: How important an event is.
* `Log.Value`: The value of a field.
* `Log.Span`: Work with a name and fields of its own.
* `Log.Event`: An event.
-/

namespace Multitenancy

namespace Log

/-- How important an event is. -/
inductive Level where
  | trace
  | debug
  | info
  | warn
  | error
  deriving DecidableEq, Repr

namespace Level

/-- How much a filter at the level lets through. -/
def verbosity : Level → Nat
  | .error => 1
  | .warn => 2
  | .info => 3
  | .debug => 4
  | .trace => 5

/-- The written form in settings. -/
def name : Level → String
  | .trace => "trace"
  | .debug => "debug"
  | .info => "info"
  | .warn => "warn"
  | .error => "error"

/-- The written form in log lines. -/
def tag : Level → String
  | .trace => "TRACE"
  | .debug => "DEBUG"
  | .info => "INFO"
  | .warn => "WARN"
  | .error => "ERROR"

end Level

/-- The value of a field. A text is quoted in lines for people; a shown value
    is not. -/
inductive Value where
  | int (n : Int)
  | bool (b : Bool)
  | text (s : String)
  | shown (s : String)
  deriving DecidableEq, Repr

/-- Work that events are part of. -/
structure Span where
  name : String
  target : String
  level : Level
  fields : List (String × Value)
  deriving DecidableEq, Repr

/-- An event. -/
structure Event where
  level : Level
  target : String
  message : String
  fields : List (String × Value) := []
  deriving DecidableEq, Repr

end Log

end Multitenancy
