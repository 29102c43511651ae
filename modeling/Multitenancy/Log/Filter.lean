import Multitenancy.Log.Settings
import Multitenancy.Pattern.Matcher
import Multitenancy.Pattern.Parser
/-!
# Log Filters

Which events pass, by directives such as `billing=debug,web=warn`.

A directive without a span is static: it speaks of events whose target begins
with a text, and of several that do the one with the longest text counts. A
directive that names a span is dynamic: while work is inside such a span,
events pass up to the directive's level, whatever their target. A span that a
dynamic directive names is always recorded.

## Main definitions

* `Log.Directive`: One part of a filter.
* `Log.Filter`: Static directives in order of precedence, and dynamic ones.
* `Log.Filter.parse?`: The filter of a text.
* `Log.Filter.passes`: Whether an event passes inside spans.
* `Log.Filter.records`: Whether a span is recorded.
-/

namespace Multitenancy

namespace Log

/-- How much passes; zero is nothing. -/
abbrev Verbosity := Nat

/-- The verbosity of a word or digit. -/
def verbosity? (s : String) : Option Verbosity :=
  match unsigned? 64 s.toList with
  | some n => if n ≤ 5 then some n else none
  | none =>
    match Text.lowerText s with
    | "" | "error" => some 1
    | "warn" => some 2
    | "info" => some 3
    | "debug" => some 4
    | "trace" => some 5
    | "off" => some 0
    | _ => none

/-- What a field of a span must hold. -/
inductive FieldTest where
  | bool (b : Bool)
  | int (n : Int)
  /-- A number with a fraction, which no field has. -/
  | real
  | pattern (p : Pattern.Compiled)

/-- Whether a text is a number with a fraction or an exponent, or one of the
    values without digits. -/
def isReal (cs : List Char) : Bool :=
  let rest := match cs with
    | '-' :: rest | '+' :: rest => rest
    | _ => cs
  let word := Text.lower rest
  if word == "inf".toList || word == "infinity".toList || word == "nan".toList then true
  else
    let mantissa := word.takeWhile (· != 'e')
    let exponent := word.drop (mantissa.length + 1)
    let digits := exponent.drop (match exponent with
      | '-' :: _ | '+' :: _ => 1
      | _ => 0)
    let kept := mantissa.filter (· != '.')
    !kept.isEmpty && kept.all Char.isDigit && mantissa.length ≤ kept.length + 1 &&
      (mantissa.length == word.length || (!digits.isEmpty && digits.all Char.isDigit))

/-- The value a field test was written as. -/
def FieldTest.parse? (s : String) : Option FieldTest :=
  if s == "true" then some (.bool true)
  else if s == "false" then some (.bool false)
  else
    let cs := s.toList
    let number : Option Int := match cs with
      | '-' :: ds => (unsigned? 63 ds).map fun n => -(n : Int)
      | _ => (unsigned? 64 cs).map fun (n : Nat) => (n : Int)
    match number with
    | some n => some (.int n)
    | none =>
      if isReal cs then some .real
      else match Pattern.Expr.parse? s with
      | none => none
      | some e =>
        let whole : Pattern.Expr := .seq (.place .textStart) (.seq e (.place .textEnd))
        some (.pattern whole.compile)

/-- Whether a value passes the test. -/
def FieldTest.accepts : FieldTest → Value → Bool
  | .bool a, .bool b => a == b
  | .int a, .int b => a == b
  | .pattern p, .text s | .pattern p, .shown s => (p.search s.toList).isSome
  | _, _ => false

/-- One part of a filter. -/
structure Directive where
  level : Verbosity := 5
  target : Option String := none
  span : Option String := none
  fields : List (String × Option FieldTest) := []

namespace Directive

/-- A field with its test, from what stands between braces. -/
def field? (cs : List Char) : Option (String × Option FieldTest) :=
  if cs.isEmpty then none
  else match Text.splitAll '=' cs with
    | name :: value :: _ =>
      (FieldTest.parse? (String.ofList value)).map fun t => (String.ofList name, some t)
    | [name] => some (String.ofList name, none)
    | [] => none

/-- A level given after an equals sign; nothing means everything passes. -/
def levelOf? (cs : List Char) : Option Verbosity :=
  if cs.isEmpty then some 5 else verbosity? (String.ofList cs)

/-- A part that is a level or, failing that, a target for which everything
    passes. -/
def levelOrTarget (cs : List Char) : Directive :=
  if cs.isEmpty then {}
  else match verbosity? (String.ofList cs) with
    | some level => { level }
    | none => { target := some (String.ofList cs) }

/-- A directive being read. Where its parts begin and end is decided on the
    trimmed text, but the parts are cut out of the whole text at those places,
    so that blanks in front shift them. -/
structure Cutter where
  whole : List Char

/-- The part of the whole text from one place to another. -/
def Cutter.part (c : Cutter) (first last : Nat) : List Char :=
  (c.whole.drop first).take (last - first)

/-- What may follow a span: nothing, or an equals sign and a level. `place` is
    where the rest begins. -/
def afterSpan (c : Cutter) (d : Directive) (place : Nat) : List Char → Option Directive
  | [] => some d
  | '=' :: _ => (levelOf? (c.whole.drop (place + 1))).map fun level => { d with level }
  | _ => none

/-- The fields between braces and what follows them. -/
def spanFields (c : Cutter) (d : Directive) (place : Nat) (cs : List Char) : Option Directive :=
  let inner := cs.takeWhile (· != '\x7d')
  let stop := place + inner.length
  match cs.drop inner.length with
  | '\x7d' :: ']' :: rest => do
    let fields ← (Text.splitAll ',' (c.part place stop)).mapM field?
    afterSpan c { d with fields } (stop + 2) rest
  | _ => none

/-- A span after its opening bracket. -/
def spanPart (c : Cutter) (d : Directive) (place : Nat) (cs : List Char) : Option Directive :=
  let name := cs.takeWhile fun c => c != ']' && c != '\x7b'
  let stop := place + name.length
  let cut := String.ofList (c.part place stop)
  match cs.drop name.length with
  | ']' :: rest => afterSpan c { d with span := some cut } (stop + 1) rest
  | '\x7b' :: rest =>
    spanFields c { d with span := if cut.isEmpty then none else some cut } (stop + 1) rest
  | _ => none

/-- Whether a character may begin a directive other than by a bracket. -/
def mayBegin (c : Char) : Bool :=
  c == '-' || c == ':' || c == '_' || c.isAlphanum ||
    (0x7F < c.toNat && Pattern.CharSet.mem Pattern.CharSet.word c)

/-- One directive. -/
def parse? (text : List Char) : Option Directive :=
  let trimmed := Text.trim text
  let c : Cutter := { whole := text }
  match trimmed with
  | [] => none
  | '[' :: rest => spanPart c {} 1 rest
  | first :: _ =>
    if !mayBegin first then none
    else
      let head := trimmed.takeWhile fun c => c != '=' && c != '['
      let target := String.ofList (c.part 0 head.length)
      match trimmed.drop head.length with
      | [] => some (levelOrTarget text)
      | '=' :: _ => (levelOf? (text.drop (head.length + 1))).map fun level =>
          { level, target := some target }
      | _ :: rest => spanPart c { target := some target } (head.length + 1) rest

/-- Whether the directive needs a span to apply. -/
def isDynamic (d : Directive) : Bool :=
  d.span.isSome || !d.fields.isEmpty

/-- Whether the directive can be decided without the values of a span. -/
def isStatic (d : Directive) : Bool :=
  d.span.isNone && d.fields.all fun f => f.2.isNone

/-- Whether a target begins as the directive wants. -/
def matchesTarget (d : Directive) (target : String) : Bool :=
  match d.target with
  | none => true
  | some start => (Text.afterStart start.toList target.toList).isSome

/-- Whether a static directive speaks of an event. -/
def covers (d : Directive) (e : Event) : Bool :=
  d.matchesTarget e.target &&
    d.fields.all fun f => f.1 == "message" || e.fields.any fun g => g.1 == f.1

/-- Whether a static directive speaks of a span, for which fields do not
    count. -/
def coversSpan (d : Directive) (s : Span) : Bool :=
  d.matchesTarget s.target

/-- Whether a dynamic directive speaks of a span. -/
def selects (d : Directive) (s : Span) : Bool :=
  d.matchesTarget s.target && (d.span.isNone || d.span == some s.name) &&
    d.fields.all fun f => s.fields.any fun g => g.1 == f.1

/-- Whether the fields of a span have the wanted values. -/
def fieldsMatch (d : Directive) (s : Span) : Bool :=
  d.fields.all fun f => match f.2 with
    | none => true
    | some test => s.fields.any fun g => g.1 == f.1 && test.accepts g.2

/-- How specific a static directive is: the length of its target in bytes,
    where having none counts least, and the number of its fields. -/
def weight (d : Directive) : Nat × Nat :=
  (match d.target with
    | some t => t.utf8ByteSize + 1
    | none => 0, d.fields.length)

/-- Whether two static directives speak of the same events. -/
def sameScope (a b : Directive) : Bool :=
  a.target == b.target && a.fields.map Prod.fst == b.fields.map Prod.fst

end Directive

/-- Static directives with the most specific first, and dynamic ones. -/
structure Filter where
  static : List Directive := []
  dynamic : List Directive := []

namespace Filter

/-- Add a static directive, in the place of one of the same scope or before
    those that are less specific. -/
def addStatic (d : Directive) : List Directive → List Directive
  | [] => [d]
  | e :: rest =>
    if e.sameScope d then d :: rest
    else
      let (a, b) := d.weight
      let (x, y) := e.weight
      if x < a || (x == a && y < b) then d :: e :: rest else e :: addStatic d rest

/-- The filter of directives. -/
def ofDirectives (ds : List Directive) : Filter :=
  { static := (ds.filter Directive.isStatic).foldl (fun acc d => addStatic d acc) []
    dynamic := ds.filter Directive.isDynamic }

/-- The filter of a text: directives between commas. No text at all lets
    nothing pass. -/
def parse? (s : String) : Option Filter :=
  if s.isEmpty then some {}
  else ((Text.splitAll ',' s.toList).mapM Directive.parse?).map ofDirectives

/-- The filter that lets events pass from a level on. -/
def ofLevel (l : Level) : Filter :=
  { static := [{ level := l.verbosity }] }

/-- Whether the first static directive that speaks of something lets a level
    pass. -/
def staticPasses (f : Filter) (covers : Directive → Bool) (level : Level) : Bool :=
  match f.static.find? covers with
  | some d => level.verbosity ≤ d.level
  | none => false

/-- Whether a span is recorded. -/
def records (f : Filter) (s : Span) : Bool :=
  f.dynamic.any (·.selects s) || f.staticPasses (·.coversSpan s) s.level

/-- Whether dynamic directives let a level pass inside a span. -/
def opens (f : Filter) (level : Level) (s : Span) : Bool :=
  f.dynamic.any fun d => d.selects s && d.fieldsMatch s && level.verbosity ≤ d.level

/-- Whether an event passes inside spans. -/
def passes (f : Filter) (inside : List Span) (e : Event) : Bool :=
  inside.any (f.opens e.level) || f.staticPasses (·.covers e) e.level

end Filter

end Log

end Multitenancy
