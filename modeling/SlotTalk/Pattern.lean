import SlotTalk.Pattern.Footprint
import SlotTalk.Pattern.Grammar
import SlotTalk.Pattern.Meaning

namespace SlotTalk

/-!
# Patterns

A pattern is a regular expression: literals, groups, alternatives, repetitions, escapes and classes
between brackets.

* `Pattern.expression` — what a pattern means, or its first fault.  Faults of the grammar go before
  those of depth, and these before those of meaning and size, wherever they are.
* `Pattern.check` — the fault alone.
-/

namespace Pattern

/-- An automaton has to fit into the space there is. -/
def demandSize (direction : Direction) (expr : Expr) : Except Fault Unit :=
  if sizeLimit < expr.automatonSize direction then .error { cause := .tooLarge, spans := [] }
  else .ok ()

/-- Words of a text of characters cannot be told, without tables. -/
def demandNoWords (expr : Expr) : Except Fault Unit :=
  if expr.asksForWords then .error { cause := .boundaryUnavailable, spans := [] } else .ok ()

/-- What a pattern means, if there can be automata for it. -/
def expression (pattern : String) : Except Fault Expr := do
  let tree ← Tree.read pattern
  if let some span := tree.overflow? nestingLimit then
    throw { cause := .tooDeep, spans := [span] }
  let expr ← tree.meaning.run' {}
  demandSize .forward expr
  demandNoWords expr
  demandSize .backward expr
  return expr

/-- The first fault of a pattern. -/
def check (pattern : String) : Option Fault :=
  match expression pattern with
  | .error fault => some fault
  | .ok _ => none

end Pattern

end SlotTalk
