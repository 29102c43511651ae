import Multitenancy.Json.Printer
import Multitenancy.Log.Settings
import Multitenancy.Text.Quoted
/-!
# Log Lines

The written forms of an event, without the time at its front.

The forms for people can be coloured: levels have colours of their own, and
what is less important is dimmed. Colours are terminal codes around a piece of
text, so a piece without a style is written as it is.

## Main definitions

* `Log.Paint`: A style of a piece of text.
* `Log.Line.render`: An event in the form of the settings.
-/

namespace Multitenancy

namespace Log

/-- A style, by the numbers of its terminal codes. -/
abbrev Paint := List Nat

namespace Paint

/-- The code that begins a style. -/
def start (p : Paint) : String :=
  if p.isEmpty then ""
  else "\x1b[" ++ Text.joined ";" (p.map toString) ++ "m"

/-- The code that ends a style. -/
def stop (p : Paint) : String :=
  if p.isEmpty then "" else "\x1b[0m"

/-- A piece of text in a style. -/
def apply (p : Paint) (s : String) : String :=
  p.start ++ s ++ p.stop

/-- From a bold style back to the style without it. -/
def unbold (bold plain : Paint) : String :=
  bold.stop ++ plain.start

end Paint

namespace Level

/-- The colour of a level. -/
def color : Level → Nat
  | .trace => 35
  | .debug => 34
  | .info => 32
  | .warn => 33
  | .error => 31

/-- The level in five columns. -/
def column (l : Level) : String :=
  String.ofList (List.replicate (5 - l.tag.length) ' ') ++ l.tag

end Level

namespace Value

/-- A value in lines for people. -/
def render : Value → String
  | .int n => toString n
  | .bool b => toString b
  | .text s => Text.quoted s
  | .shown s => s

/-- A value in lines for machines. -/
def toJson : Value → Json
  | .int n => .int n
  | .bool b => .bool b
  | .text s | .shown s => .text s

end Value

namespace Line

/-- Styles that are in use only if colours are on. -/
def style (s : Settings) (p : Paint) : Paint :=
  if s.colors then p else []

/-- Bold, for names. -/
def bold (s : Settings) : Paint := style s [1]

/-- Dimmed, for targets and marks. -/
def dimmed (s : Settings) : Paint := style s [2]

/-- The level in its colour. -/
def level (s : Settings) (l : Level) : String :=
  (style s [l.color]).apply l.column

/-- One field in the forms of one line an event. -/
def field (s : Settings) (f : String × Value) : String :=
  (style s [3]).apply f.1 ++ (dimmed s).apply "=" ++ f.2.render

/-- Fields between spaces. -/
def fields (s : Settings) (fs : List (String × Value)) : String :=
  Text.joined " " (fs.map (field s))

/-- A message with its fields. -/
def body (s : Settings) (e : Event) : String :=
  Text.joined " " (e.message :: e.fields.map (field s))

/-- The number of the thread, which is always the first. -/
def thread (s : Settings) : String :=
  if s.threadIds then "ThreadId(01) " else ""

/-- A span with its fields in braces. -/
def plainSpan (s : Settings) (span : Span) : String :=
  (bold s).apply span.name ++
    (if span.fields.isEmpty then ""
      else (bold s).apply "\x7b" ++ fields s span.fields ++ (bold s).apply "\x7d") ++
    (dimmed s).apply ":"

/-- The plain form. -/
def plain (s : Settings) (inside : List Span) (e : Event) : String :=
  level s e.level ++ " " ++ thread s ++
    (if inside.isEmpty then "" else Text.joined "" (inside.map (plainSpan s)) ++ " ") ++
    (if s.targets then (dimmed s).apply e.target ++ (dimmed s).apply ":" ++ " " else "") ++
    body s e

/-- The compact form. -/
def compact (s : Settings) (inside : List Span) (e : Event) : String :=
  let names := inside.map fun span => (bold s).apply span.name ++ ":"
  let details := (inside.filter fun span => !span.fields.isEmpty).map fun span =>
    " " ++ (dimmed s).apply (fields s span.fields)
  level s e.level ++ " " ++ thread s ++
    (if names.isEmpty then "" else Text.joined "" names ++ " ") ++
    (if s.targets then (dimmed s).apply e.target ++ (dimmed s).apply ":" ++ " " else "") ++
    body s e ++ Text.joined "" details

/-- One field in the pretty form, after a comma, on a line in `base` style. -/
def prettyField (s : Settings) (base : Paint) (f : String × Value) : String :=
  let strong := style s (1 :: base)
  strong.start ++ f.1 ++ strong.unbold base ++ ": " ++ f.2.render

/-- The line of a span in the pretty form. -/
def prettySpan (s : Settings) (span : Span) : String :=
  let faint := style s [2, 3]
  "    " ++ faint.apply "in" ++ " " ++ (if s.targets then span.target ++ "::" else "") ++
    (bold s).apply span.name ++
    (if span.fields.isEmpty then ""
      else " " ++ faint.apply "with" ++ " " ++
        Text.joined ", " (span.fields.map (prettyField s [])))

/-- The line of the event itself in the pretty form. -/
def prettyHead (s : Settings) (e : Event) : String :=
  let base := style s [e.level.color]
  let strong := style s [1, e.level.color]
  "  " ++ level s e.level ++ " " ++
    (if s.targets then strong.start ++ e.target ++ strong.unbold base ++ ":" else "") ++ " " ++
    Text.joined ", " ((base.start ++ e.message) :: e.fields.map (prettyField s base)) ++
    base.stop

/-- The pretty form: the event, then the spans from the inside out. -/
def pretty (s : Settings) (inside : List Span) (e : Event) : String :=
  Text.joined "\n" (prettyHead s e :: inside.reverse.map (prettySpan s))

/-- A span in the form for machines. -/
def jsonSpan (span : Span) : Json :=
  .object (span.fields.map (fun f => (f.1, f.2.toJson)) ++ [("name", .text span.name)])

/-- The form for machines. `current` is the span of the event, `inside` the
    spans that are entered. -/
def json (s : Settings) (current : Option Span) (inside : List Span) (e : Event) : Json :=
  .object (
    [("level", .text e.level.tag),
      ("fields", .object (("message", .text e.message) ::
        e.fields.map fun f => (f.1, f.2.toJson)))] ++
    (if s.targets then [("target", .text e.target)] else []) ++
    (match current with
      | some span =>
        if s.spans then
          [("span", jsonSpan span), ("spans", .list (inside.map jsonSpan))]
        else []
      | none => []) ++
    (if s.threadIds then [("threadId", .text "ThreadId(1)")] else []))

/-- An event inside spans, the outermost first, in the form of the settings. -/
def render (s : Settings) (inside : List Span) (e : Event) : String :=
  match s.format with
  | .json => (json s inside.getLast? inside e).render
  | .plain => plain s inside e
  | .compact => compact s inside e
  | .pretty => pretty s inside e

/-- The code that the first timing of a closed span begins with, after which
    times differ from run to run. -/
def timingMark (s : Settings) (l : Level) : String :=
  match s.format with
  | .json => ""
  | .plain | .compact => (style s [3]).start
  | .pretty => (style s [1, l.color]).start

/-- The event of a closed span up to its timings. The fields of the span follow
    the timings in the compact form, so they are not part of it. -/
def closing (s : Settings) (span : Span) : String :=
  let e : Event := { level := span.level, target := span.target, message := "close" }
  match s.format with
  | .json => (json s (some span) [] e).render
  | .plain =>
    plain s [span] e ++ (if s.colors then " " ++ timingMark s span.level else "")
  | .compact =>
    compact s [{ span with fields := [] }] e ++
      (if s.colors then " " ++ timingMark s span.level else "")
  | .pretty =>
    let base := style s [span.level.color]
    let head := prettyHead s e
    let open_ := String.ofList (head.toList.take (head.length - base.stop.length))
    open_ ++ "," ++ (if s.colors then " " ++ timingMark s span.level else "") ++
      "\n" ++ prettySpan s span

end Line

end Log

end Multitenancy
