import SlotTalk.Pattern.ByteRanges
import SlotTalk.Pattern.Expr
import SlotTalk.Pattern.LiteralTrie

namespace SlotTalk

/-!
# The size of automata

A pattern is matched by two automata over bytes, one for each direction.  What they need is found
without building them: the size of an expression depends on the sizes of its parts alone.

* `Expr.footprint` — the states of an expression.
* `Expr.automatonSize` — the size of the whole automaton in bytes.
-/

namespace Pattern

/-- The direction in which an automaton reads. -/
inductive Direction where
  | forward | backward
  deriving DecidableEq, Repr

/-- The states of an expression. -/
structure Footprint where
  /-- Their size in bytes. -/
  bytes : Nat
  /-- The last state is a fork, where each way on takes space. -/
  forked : Bool := false
  deriving DecidableEq, Repr

namespace Footprint

/-- Every state takes this many bytes. -/
def stateBytes : Nat := 32

/-- Each way on from a fork takes this many bytes. -/
def wayBytes : Nat := 4

/-- Each range of a state that tells bytes apart takes this many bytes. -/
def rangeBytes : Nat := 8

/-- As many states that take no more space. -/
def states (count : Nat) : Footprint := { bytes := count * stateBytes }

/-- The space of a way on from the last state. -/
def exit (footprint : Footprint) : Nat := if footprint.forked then wayBytes else 0

/-- The states of one footprint before those of another. -/
def append (footprint next : Footprint) : Footprint :=
  { bytes := footprint.bytes + footprint.exit + next.bytes, forked := next.forked }

/-- The states of several footprints, one after the other. -/
def chain : List Footprint → Footprint
  | [] => states 1
  | [footprint] => footprint
  | footprint :: rest => footprint.append (chain rest)

/-- The states of a footprint as many times in a row. -/
def times (count : Nat) (footprint : Footprint) : Footprint :=
  if count = 0 then states 1
  else
    { bytes := count * footprint.bytes + (count - 1) * footprint.exit
      forked := footprint.forked }

/-- A state that leads to each of several ranges of bytes, and the state after it. -/
def ofByteSet (rangeCount : Nat) : Footprint :=
  { bytes := 2 * stateBytes + rangeCount * rangeBytes }

/-- The states of a set of characters with several bytes.  Forward, nodes with the same branches are
    shared; backward, each branch has a state, and a fork leads to the end of each sequence. -/
def ofTrie (direction : Direction) (trie : RangeTrie) : Footprint :=
  match direction with
  | .forward =>
    let nodes := (trie :: trie.nodesBelow).eraseDups
    { bytes := stateBytes + total (nodes.map fun node => stateBytes + node.width * rangeBytes) }
  | .backward =>
    { bytes := (trie.branchCount + 2) * stateBytes + trie.sequenceCount * wayBytes }

/-- The states of a set of characters. -/
def ofSet (direction : Direction) (set : CharSet) : Footprint :=
  if set.isAscii then ofByteSet set.ranges.length
  else ofTrie direction (.ofRanges set.ranges)

/-- The state that tells the branches of a group apart; one branch needs no telling. -/
def ofGroup (size : Nat) : Nat :=
  if size = 1 then stateBytes else stateBytes + size * rangeBytes

/-- The bytes of a node of a trie of literals: its groups, and a fork that leads to them and to the
    ends of literals.  The end of all branches needs no state of its own. -/
def ofNode (node : LiteralTrie) : Nat :=
  let sizes := node.groupSizes
  let groups := sizes.filter (0 < ·)
  if groups.isEmpty then 0
  else total (groups.map ofGroup) + stateBytes + (groups.length + (sizes.length - 1)) * wayBytes

/-- The states of literals to choose from. -/
def ofLiterals (literals : List (List Nat)) : Footprint :=
  let trie := LiteralTrie.ofLiterals literals
  { bytes := stateBytes + total ((trie :: trie.nodesBelow).map ofNode) }

/-- The states of branches: a fork, and a state in which they meet. -/
def ofBranches (branches : List Footprint) : Footprint :=
  { bytes := 2 * stateBytes +
      total (branches.map fun branch => branch.bytes + wayBytes + branch.exit) }

/-- The states of something that may be left out. -/
def optional (body : Footprint) : Footprint :=
  { bytes := 2 * stateBytes + 2 * wayBytes + body.bytes + body.exit }

/-- The states of something that is repeated without an end. -/
def repeatedFrom (least : Nat) (consumes : Bool) (body : Footprint) : Footprint :=
  if least = 0 then
    if consumes then
      -- the fork at the start is the last state as well
      { bytes := stateBytes + wayBytes + body.bytes + body.exit, forked := true }
    else
      -- one fork goes back, another leaves it out, and they meet after it
      { bytes := 3 * stateBytes + 4 * wayBytes + body.bytes + body.exit }
  else
    let body := body.times least
    { bytes := body.bytes + body.exit + stateBytes + wayBytes, forked := true }

/-- The states of something that is repeated up to a number of times: each time beyond the least
    begins at a fork. -/
def repeatedBetween (least most : Nat) (body : Footprint) : Footprint :=
  let base := body.times least
  { bytes := base.bytes + base.exit + stateBytes +
      (most - least) * (stateBytes + 2 * wayBytes + body.bytes + body.exit) }

/-- The states of a repetition. -/
def repeated (least : Nat) (most : Option Nat) (consumes : Bool) (body : Footprint) : Footprint :=
  match most with
  | none => repeatedFrom least consumes body
  | some most =>
    if least = 0 ∧ most = 1 then optional body
    else if least = most then body.times least
    else repeatedBetween least most body

end Footprint

namespace Expr

/-- The bytes of a text, in the order in which they are read. -/
def literalBytes (direction : Direction) (text : List Char) : List Nat :=
  let bytes := text.flatMap fun c => encode c.toNat
  match direction with
  | .forward => bytes
  | .backward => bytes.reverse

/-- The text of a literal. -/
def literalText? : Expr → Option (List Char)
  | .literal text => some text
  | _ => none

/-- The states of an expression. -/
def footprint (direction : Direction) : Expr → Footprint
  | .empty | .look _ => .states 1
  | .literal text => .states (literalBytes direction text).length
  | .set ranges => .ofSet direction { ranges }
  | .repetition least most _ body =>
    let consumes := (body.minLength?.map fun length => decide (0 < length)).getD false
    .repeated least most consumes (body.footprint direction)
  | .capture _ body =>
    let inner := body.footprint direction
    match direction with
    | .forward => { bytes := 2 * Footprint.stateBytes + inner.bytes + inner.exit }
    | .backward => inner
  | .sequence parts =>
    let each := parts.map (footprint direction)
    match direction with
    | .forward => .chain each
    | .backward => .chain each.reverse
  | .alternation branches =>
    match branches.mapM literalText? with
    | some texts => .ofLiterals (texts.map (literalBytes direction))
    | none => .ofBranches (branches.map (footprint direction))

/-- Every match is at the end of the text at which the automaton begins to read. -/
def anchored (direction : Direction) : Expr → Bool
  | .look .textStart => direction = .forward
  | .look .textStop => direction = .backward
  | .repetition least _ _ body => 0 < least && body.anchored direction
  | .capture _ body => body.anchored direction
  | .sequence parts =>
    let each := parts.map fun part => (part.isBlank, part.anchored direction)
    let ordered := if direction = .forward then each else each.reverse
    let blank := ordered.takeWhile Prod.fst
    (blank ++ (ordered.drop blank.length).take 1).any Prod.snd
  | .alternation branches => (branches.map (anchored direction)).all id
  | _ => false

/-- The size of the automaton of an expression in bytes.  Unless every match is at an end of the
    text, it first passes over any bytes; it ends in a state for the match. -/
def automatonSize (direction : Direction) (expr : Expr) : Nat :=
  let before : Footprint :=
    if expr.anchored direction then .states 1 else .repeatedFrom 0 true (.ofByteSet 1)
  let whole : Expr := .capture 0 expr
  ((before.append (whole.footprint direction)).append (.states 1)).bytes

/-- The expression asks where words are, in a text of characters. -/
def asksForWords : Expr → Bool
  | .look (.edge _ unicode) => unicode
  | .repetition _ _ _ body | .capture _ body => body.asksForWords
  | .sequence exprs | .alternation exprs => (exprs.map asksForWords).any id
  | _ => false

end Expr

end Pattern

end SlotTalk
