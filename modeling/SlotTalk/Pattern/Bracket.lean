import SlotTalk.Pattern.Escape

namespace SlotTalk

/-!
# Classes between brackets

A class holds characters, ranges, escapes, named classes and further classes between brackets, and
double signs (`&&`, `--`, `~~`) combine what stands on either side.

* `Pattern.bracketed` — read a whole class.
-/

namespace Pattern

/-- A class that is still open. -/
structure OpenClass where
  /-- From the bracket up to the first item that does not stand for itself on account of its
      place. -/
  opening : Span
  negated : Bool
  /-- What stands before the last double sign, with the sign. -/
  pending : Option (SetOperator × ClassTree) := none
  /-- Where the items after that begin. -/
  start : Place
  /-- These items, last first. -/
  items : List ClassTree := []

namespace OpenClass

/-- The class with one more item. -/
def push (inner : OpenClass) (item : ClassTree) : OpenClass :=
  { inner with items := item :: inner.items }

/-- The items after the last double sign. -/
def union (inner : OpenClass) : ClassTree :=
  match inner.items, inner.items.getLast? with
  | [item], _ => item
  | last :: _, some first => .union ⟨first.span.start, last.span.stop⟩ inner.items.reverse
  | _, _ => .empty (.point inner.start)

/-- All that has been read of the class; double signs take what stands before them together. -/
def tree (inner : OpenClass) : ClassTree :=
  let right := inner.union
  match inner.pending with
  | none => right
  | some (operator, left) => .operation ⟨left.span.start, right.span.stop⟩ operator left right

end OpenClass

/-- Read a named class if one comes next. -/
def namedClass? : Reader (Option ClassTree) := do
  match ← rest with
  | '[' :: ':' :: after =>
    let negation := if after.head? = some '^' then 1 else 0
    let name := (after.drop negation).takeWhile (· ≠ ':')
    let closing := (after.drop (negation + name.length)).take 2
    match ClassName.ofName? (String.ofList name) with
    | some className =>
      if closing = [':', ']'] then
        let start ← here
        advanceBy (2 + negation + name.length + 2)
        return some (.named (← since start) (negation = 1) className)
      else return none
    | none => return none
  | _ => return none

/-- Read the hyphens at the start of a class, which stand for themselves. -/
def leadingHyphens (start : Place) : Nat → Reader (List ClassTree)
  | 0 => return []
  | steps + 1 => do
    if (← peek) = some '-' then
      let hyphen := ClassTree.literal (← nextSpan) { char := '-' }
      advanceSpaced
      if ← atEnd then refuse .classUnclosed (.point start)
      return hyphen :: (← leadingHyphens start steps)
    else return []

/-- Read the start of a class: the bracket, a negation, hyphens that stand for themselves, and a
    closing bracket that stands for itself as it comes first. -/
def openClass : Reader OpenClass := do
  let start ← here
  let demandMore : Reader Unit := do
    if ← atEnd then refuse .classUnclosed (← since start)
  advanceSpaced
  demandMore
  let negated := (← peek) = some '^'
  if negated then
    advanceSpaced
    demandMore
  let itemsStart ← here
  let mut items := (← leadingHyphens start (← rest).length).reverse
  if items.isEmpty && (← peek) = some ']' then
    items := [.literal (← nextSpan) { char := ']' }]
    advanceSpaced
    demandMore
  return { opening := ← since start, negated, start := itemsStart, items }

/-- The innermost open class is never closed. -/
def refuseUnclosed {α : Type} (inner : OpenClass) : Reader α :=
  refuse .classUnclosed inner.opening

/-- Read a character or an escape inside a class. -/
def classPiece (inner : OpenClass) : Reader Placed := do
  match ← peek with
  | some c => placed c
  | none => refuseUnclosed inner

/-- A piece as an item of a class; a place cannot be one. -/
def classItem (found : Placed) : Reader ClassTree :=
  match found.piece with
  | .literal literal => return .literal found.span literal
  | .kind negated kind => return .kind found.span negated kind
  | .property name => return .property found.span name
  | .assertion _ => refuse .classEscape found.span

/-- The literal at an end of a range. -/
def boundOf (found : Placed) : Reader Literal :=
  match found.piece with
  | .literal literal => return literal
  | _ => refuse .classBoundary found.span

/-- Read a range, or a single item, inside a class.  A hyphen before the closing bracket or before
    another hyphen makes no range. -/
def classRange (inner : OpenClass) : Reader ClassTree := do
  let first ← classPiece inner
  skipBlanks
  if ← atEnd then refuseUnclosed inner
  let next ← peek
  let second ← peekSecond
  if next ≠ some '-' || second = some ']' || second = some '-' then classItem first
  else
    advanceSpaced
    let last ← classPiece inner
    let span : Span := ⟨first.span.start, last.span.stop⟩
    -- the low end is looked at before the high end, and their order last
    let low ← boundOf first
    let high ← boundOf last
    if high.char < low.char then refuse .classDescending span
    return .range span first.span low last.span high

/-- The double sign that comes next. -/
def operator? : List Char → Option SetOperator
  | '&' :: '&' :: _ => some .intersection
  | '-' :: '-' :: _ => some .difference
  | '~' :: '~' :: _ => some .symmetricDifference
  | _ => none

/-- Read the items of the open classes, innermost first, up to the end of the outermost.  Each step
    reads at least a character. -/
def classItems : Nat → OpenClass → List OpenClass → Reader Tree
  | 0, inner, _ => refuseUnclosed inner
  | steps + 1, inner, outer => do
    skipBlanks
    match ← rest with
    | [] => refuseUnclosed inner
    | '[' :: _ =>
      match ← namedClass? with
      | some item => classItems steps (inner.push item) outer
      | none => classItems steps (← openClass) (inner :: outer)
    | ']' :: _ =>
      advance
      let span ← since inner.opening.start
      match outer with
      | [] => return .bracketed span inner.negated inner.tree
      | next :: outermost =>
        classItems steps (next.push (.bracketed span inner.negated inner.tree)) outermost
    | text =>
      match operator? text with
      | some operator =>
        let left := inner.tree
        advanceBy 2
        let start ← here
        classItems steps { inner with pending := some (operator, left), start, items := [] } outer
      | none =>
        let item ← classRange inner
        classItems steps (inner.push item) outer

/-- Read a whole class. -/
def bracketed : Reader Tree := do
  let steps := (← rest).length + 1
  classItems steps (← openClass) []

end Pattern

end SlotTalk
