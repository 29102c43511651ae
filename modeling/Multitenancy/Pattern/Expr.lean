import Multitenancy.Pattern.CharSet
/-!
# Path Patterns

The structure of a pattern against which a request path is matched.

Sequence and choice are binary. In a choice the left side is preferred, in a
greedy repetition one more turn, in a lazy one the end; these preferences
decide which of several matches from one place counts.

## Main definitions

* `Place`: A condition on the place between two characters.
* `Expr`: A pattern.
* `Expr.groups`: The names of the groups, in order of their opening.
* `Expr.live`: Which of the groups can take part in a match.
* `Expr.canBeEmpty`: Whether a pattern may match nothing.
* `Expr.weight`: About how much space a pattern takes once it is compiled.
-/

namespace Multitenancy

namespace Pattern

/-- A condition on a place in the text. -/
inductive Place where
  | textStart
  | textEnd
  | lineStart (crlf : Bool)
  | lineEnd (crlf : Bool)
  | wordEdge (wide : Bool)
  | notWordEdge (wide : Bool)
  | wordStart (wide : Bool)
  | wordEnd (wide : Bool)
  | beforeWord (wide : Bool)
  | afterWord (wide : Bool)
  deriving DecidableEq, Repr

namespace Place

/-- Whether a neighbour is part of a word; `wide` words are those of every
    script. -/
def inWord (wide : Bool) : Option Char → Bool
  | none => false
  | some c => (if wide then CharSet.word else CharSet.asciiWord).mem c

/-- Whether the condition holds between two neighbours. -/
def holds (before after : Option Char) : Place → Bool
  | .textStart => before.isNone
  | .textEnd => after.isNone
  | .lineStart crlf =>
    before.isNone || before == some '\n' ||
      (crlf && before == some '\r' && after != some '\n')
  | .lineEnd crlf =>
    after.isNone || (after == some '\n' && !(crlf && before == some '\r')) ||
      (crlf && after == some '\r')
  | .wordEdge wide => inWord wide before != inWord wide after
  | .notWordEdge wide => inWord wide before == inWord wide after
  | .wordStart wide => !inWord wide before && inWord wide after
  | .wordEnd wide => inWord wide before && !inWord wide after
  | .beforeWord wide => !inWord wide before
  | .afterWord wide => !inWord wide after

end Place

/-- A pattern. -/
inductive Expr where
  | empty
  | chars (set : CharSet)
  | place (p : Place)
  | group (name : Option String) (body : Expr)
  | seq (first second : Expr)
  | choice (left right : Expr)
  | repeated (least : Nat) (most : Option Nat) (greedy : Bool) (body : Expr)
  deriving Repr

namespace Expr

/-- The names of the groups that capture, in order of their opening. -/
def groups : Expr → List (Option String)
  | .empty | .chars _ | .place _ => []
  | .group name body => name :: groups body
  | .seq a b | .choice a b => groups a ++ groups b
  | .repeated _ _ _ body => groups body

/-- For each group whether it can take part in a match, which a group that is
    repeated no times cannot. -/
def live : Expr → List Bool
  | .empty | .chars _ | .place _ => []
  | .group _ body => true :: live body
  | .seq a b | .choice a b => live a ++ live b
  | .repeated _ (some 0) _ body => (groups body).map fun _ => false
  | .repeated _ _ _ body => live body

/-- Whether a pattern may match without using a character. -/
def canBeEmpty : Expr → Bool
  | .empty | .place _ => true
  | .chars _ => false
  | .group _ body => canBeEmpty body
  | .seq a b => canBeEmpty a && canBeEmpty b
  | .choice a b => canBeEmpty a || canBeEmpty b
  | .repeated least _ _ body => least == 0 || canBeEmpty body

/-- About how many bytes a set takes once it is compiled. A set within ASCII is
    one table; any other is spread over the bytes of its characters. -/
def setWeight (s : CharSet) : Nat :=
  let ranges := CharSet.normal s
  if List.all ranges fun r => r.2 < 0x80 then 32 + 8 * (ranges.length - 1) else 64 * ranges.length

/-- About how many bytes a pattern takes once it is compiled, where a counted
    repetition is written out. -/
def weight : Expr → Nat
  | .empty | .place _ => 32
  | .chars set => setWeight set
  | .group _ body => 64 + weight body
  | .seq a b => weight a + weight b
  | .choice a b => 40 + weight a + weight b
  | .repeated least most _ body =>
    match most with
    | some m => least * weight body + (m - least) * (40 + weight body)
    | none => 40 + max 1 least * weight body

/-- The most that a pattern may weigh. -/
def maxWeight : Nat := 10 * Nat.pow 2 20

end Expr

end Pattern

end Multitenancy
