import Multitenancy.Pattern.Expr
import Multitenancy.Text.Assoc
/-!
# Matching Path Patterns

Searching a text for the first place where a pattern matches, with the text
that its groups captured.

A pattern is compiled to a program whose instructions either use a character
or lead on to others. All ways of running the program advance together, one
character at a time, in order of preference, and no instruction is listed
twice at one place. So the work is bounded by the length of the text times
the size of the program, whatever the pattern, and the first way in the list
that finishes is the preferred one.

## Main definitions

* `Instr`: An instruction.
* `Expr.compile`: The program of a pattern.
* `Expr.search`: The captures of the first match.
* `Compiled`: A pattern with its program.
-/

namespace Multitenancy

namespace Pattern

/-- An instruction. Numbers are positions in the program, except that `save`
    names the slot to be written. -/
inductive Instr where
  | finish
  | useChar (set : CharSet) (next : Nat)
  | require (p : Place) (next : Nat)
  | save (slot next : Nat)
  | fork (first second : Nat)

/-- A program under construction. -/
structure Build where
  code : Array Instr := #[]

namespace Build

/-- Add an instruction and say where it stands. -/
def add (b : Build) (i : Instr) : Nat × Build :=
  (b.code.size, { b with code := b.code.push i })

/-- Put another instruction in the place of one. -/
def patch (b : Build) (at_ : Nat) (i : Instr) : Build :=
  { b with code := b.code.setIfInBounds at_ i }

end Build

/-- A fork that prefers the body when greedy and the way on when not. -/
def forkTo (greedy : Bool) (body next : Nat) : Instr :=
  if greedy then .fork body next else .fork next body

/-- Add code for a repetition of a compiled body that must run at least once:
    the body, then a fork back to it. -/
def onceOrMore (greedy : Bool) (body : Nat → Build → Nat × Build) (next : Nat) (b : Build) :
    Nat × Build :=
  let (loop, b) := b.add .finish
  let (entry, b) := body loop b
  (entry, b.patch loop (forkTo greedy entry next))

/-- Add code for any number of repetitions. A body that may be empty runs at
    most once without using a character. -/
def anyNumber (greedy mayBeEmpty : Bool) (body : Nat → Build → Nat × Build) (next : Nat)
    (b : Build) : Nat × Build :=
  if mayBeEmpty then
    let (entry, b) := onceOrMore greedy body next b
    b.add (forkTo greedy entry next)
  else
    let (loop, b) := b.add .finish
    let (entry, b) := body loop b
    (loop, b.patch loop (forkTo greedy entry next))

/-- Add code for up to `n` repetitions in front of `entry`, each of which may
    be left out with all after it. -/
def upTo (greedy : Bool) (body : Nat → Build → Nat × Build) (final : Nat) :
    (n entry : Nat) → Build → Nat × Build
  | 0, entry, b => (entry, b)
  | n + 1, entry, b =>
    let (once, b) := body entry b
    let (entry, b) := b.add (forkTo greedy once final)
    upTo greedy body final n entry b

/-- Add code for exactly `n` repetitions in front of `entry`. -/
def times (body : Nat → Build → Nat × Build) : (n entry : Nat) → Build → Nat × Build
  | 0, entry, b => (entry, b)
  | n + 1, entry, b =>
    let (entry, b) := body entry b
    times body n entry b

/-- Add the code of a pattern that goes on at `next`; `number` is the number of
    its first group. -/
def Expr.emit : Expr → (number next : Nat) → Build → Nat × Build
  | .empty, _, next, b => (next, b)
  | .chars set, _, next, b => b.add (.useChar set next)
  | .place p, _, next, b => b.add (.require p next)
  | .group _ body, number, next, b =>
    let (close, b) := b.add (.save (2 * number + 1) next)
    let (entry, b) := body.emit (number + 1) close b
    b.add (.save (2 * number) entry)
  | .seq first second, number, next, b =>
    let (middle, b) := second.emit (number + first.groups.length) next b
    first.emit number middle b
  | .choice left right, number, next, b =>
    let (l, b) := left.emit number next b
    let (r, b) := right.emit (number + left.groups.length) next b
    b.add (.fork l r)
  | .repeated least most greedy body, number, next, b =>
    let one := body.emit number
    match most with
    | some m =>
      let (tail, b) := upTo greedy one next (m - least) next b
      times one least tail b
    | none =>
      match least with
      | 0 => anyNumber greedy body.canBeEmpty one next b
      | n + 1 =>
        let (tail, b) := onceOrMore greedy one next b
        times one n tail b

/-- A pattern with its program. -/
structure Compiled where
  expr : Expr
  code : Array Instr
  start : Nat

/-- Compile a pattern; group 0 is the whole match. -/
def Expr.compile (e : Expr) : Compiled :=
  let (close, b) := ({} : Build).add .finish
  let (close, b) := b.add (.save 1 close)
  let (entry, b) := e.emit 1 close b
  let (start, b) := b.add (.save 0 entry)
  { expr := e, code := b.code, start }

/-- The places where groups begin (even slots) and end (odd slots). -/
abbrev Captures := Assoc Nat Nat

/-- A way of running the program: where it is, and its captures so far. -/
structure Thread where
  pc : Nat
  captures : Captures

/-- Follow instructions that use no character, preferred ones first. `seen`
    holds the positions listed already, `found` the ways that wait for a
    character or have finished, last first. -/
def follow (code : Array Instr) (before after : Option Char) (here : Nat) :
    Nat → List Thread → List Nat → List Thread → List Nat × List Thread
  | 0, _, seen, found => (seen, found)
  | _, [], seen, found => (seen, found)
  | fuel + 1, t :: todo, seen, found =>
    if seen.contains t.pc then follow code before after here fuel todo seen found
    else
      let seen := t.pc :: seen
      match code[t.pc]? with
      | some (.require p next) =>
        if p.holds before after then
          follow code before after here fuel ({ t with pc := next } :: todo) seen found
        else follow code before after here fuel todo seen found
      | some (.save slot next) =>
        follow code before after here fuel
          ({ pc := next, captures := t.captures.insert slot here } :: todo) seen found
      | some (.fork first second) =>
        follow code before after here fuel
          ({ t with pc := first } :: { t with pc := second } :: todo) seen found
      | some _ => follow code before after here fuel todo seen (t :: found)
      | none => follow code before after here fuel todo seen found

/-- The ways that go on after a character, in order, up to the first that has
    finished, whose captures are the second component. -/
def step (code : Array Instr) (c : Option Char) :
    List Thread → List Thread × Option Captures
  | [] => ([], none)
  | t :: rest =>
    match code[t.pc]? with
    | some .finish => ([], some t.captures)
    | some (.useChar set next) =>
      let (more, done) := step code c rest
      match c with
      | some c => if set.mem c then ({ t with pc := next } :: more, done) else (more, done)
      | none => (more, done)
    | _ => step code c rest

/-- Run along a text. While nothing has finished, a new way begins at every
    place. -/
def run (p : Compiled) (before : Option Char) (here : Nat) (waiting : List Thread)
    (best : Option Captures) : List Char → Option Captures
  | [] =>
    let entering := if best.isNone then waiting ++ [{ pc := p.start, captures := [] }] else waiting
    let fuel := 2 * p.code.size + entering.length + 2
    let (_, found) := follow p.code before none here fuel entering [] []
    let (_, done) := step p.code none found.reverse
    done.or best
  | c :: cs =>
    let entering := if best.isNone then waiting ++ [{ pc := p.start, captures := [] }] else waiting
    let fuel := 2 * p.code.size + entering.length + 2
    let (_, found) := follow p.code before (some c) here fuel entering [] []
    let (next, done) := step p.code (some c) found.reverse
    run p (some c) (here + 1) next (done.or best) cs

namespace Compiled

/-- The number of groups up to the last that can take part in a match, the
    whole match included. -/
def groupCount (p : Compiled) : Nat :=
  (p.expr.live.reverse.dropWhile (!·)).length + 1

/-- The captures of the first match in a text. -/
def search (p : Compiled) (cs : List Char) : Option Captures :=
  run p none 0 [] none cs

/-- The text that a group captured in the first match. -/
def capture? (p : Compiled) (group : Nat) (cs : List Char) : Option (List Char) := do
  let captures ← p.search cs
  let first ← captures.get? (2 * group)
  let last ← captures.get? (2 * group + 1)
  return (cs.drop first).take (last - first)

end Compiled

end Pattern

end Multitenancy
