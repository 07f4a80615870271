import SlotTalk.Pattern.Bracket
import SlotTalk.Pattern.Group
import SlotTalk.Pattern.Repetition

namespace SlotTalk

/-!
# The grammar of patterns

* `Pattern.Tree.read` — the tree of a pattern, or the first fault of its grammar.
-/

namespace Pattern

/-- What has been read of a group, or of the whole pattern. -/
structure Level where
  /-- Where the present branch begins. -/
  start : Place := {}
  /-- The parts of the present branch, last first. -/
  parts : List Tree := []
  /-- The branches before it, last first, and where the first one begins. -/
  before : Option (Place × List Tree) := none

namespace Level

/-- The level with one more part. -/
def push (level : Level) (part : Tree) : Level :=
  { level with parts := part :: level.parts }

/-- The present branch; a part alone stands for itself. -/
def branch (level : Level) (stop : Place) : Tree :=
  match level.parts with
  | [] => .empty ⟨level.start, stop⟩
  | [part] => part
  | parts => .sequence ⟨level.start, stop⟩ parts.reverse

/-- The level with its present branch ended by a bar. -/
def divide (level : Level) (stop next : Place) : Level :=
  let (first, branches) := level.before.getD (level.start, [])
  { start := next, before := some (first, level.branch stop :: branches) }

/-- All that the level says. -/
def tree (level : Level) (stop : Place) : Tree :=
  match level.before with
  | none => level.branch stop
  | some (first, branches) =>
    .alternation ⟨first, stop⟩ (level.branch stop :: branches).reverse

end Level

/-- A group that is still open, with the level around it. -/
structure OpenGroup where
  opening : Span
  form : GroupForm
  /-- Whether the pattern was spaced before the group. -/
  spaced : Bool
  outside : Level

/-- Whether the pattern is spaced from here on. -/
def setSpaced (spaced : Bool) : Reader Unit :=
  modify fun progress => { progress with spaced }

/-- Read the end of the innermost group, and answer the level around it. -/
def closeGroup (level : Level) (group : OpenGroup) : Reader Level := do
  let body := level.tree (← here)
  setSpaced group.spaced
  advance
  return group.outside.push (.group (← since group.opening.start) group.form body)

/-- Read a part that begins with the given character, is no group and repeats nothing. -/
def part (c : Char) : Reader Tree := do
  let single (tree : Span → Tree) : Reader Tree := do
    let span ← nextSpan
    advance
    return tree span
  match c with
  | '[' => bracketed
  | '.' => single .dot
  | '^' => single (.assertion · .lineStart)
  | '$' => single (.assertion · .lineStop)
  | c => return (← placed c).tree

/-- Read parts up to the end, in the present level and the open groups, innermost first.  Each step
    reads at least a character. -/
def levels : Nat → Level → List OpenGroup → Reader Tree
  | 0, level, _ => return level.tree (← here)
  | steps + 1, level, groups => do
    skipBlanks
    match ← peek with
    | none =>
      match groups with
      | group :: _ => refuse .groupUnclosed group.opening
      | [] => return level.tree (← here)
    | some '(' =>
      match ← openGroup with
      | .flags span changes =>
        setSpaced (changes.apply .spaced (← get).spaced)
        levels steps (level.push (.flags span changes)) groups
      | .group opening form =>
        let spaced := (← get).spaced
        let group : OpenGroup := { opening, form, spaced, outside := level }
        if let .plain changes := form then setSpaced (changes.apply .spaced spaced)
        levels steps { start := ← here } (group :: groups)
    | some ')' =>
      match groups with
      | [] => refuse .groupUnopened (← nextSpan)
      | group :: outer => levels steps (← closeGroup level group) outer
    | some '|' =>
      let stop ← here
      advance
      levels steps (level.divide stop (← here)) groups
    | some c =>
      if beginsRepetition c then
        let next ← repeated level.parts.head?
        levels steps { level with parts := next :: level.parts.tail } groups
      else levels steps (level.push (← part c)) groups

/-- The tree of a pattern, or the first fault of its grammar. -/
def Tree.read (pattern : String) : Except Fault Tree :=
  let text := pattern.toList
  (levels (text.length + 1) {} []).run' { rest := text }

end Pattern

end SlotTalk
