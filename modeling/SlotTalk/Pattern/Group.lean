import SlotTalk.Pattern.Reader
import SlotTalk.Pattern.Tree
import SlotTalk.Text.Letter

namespace SlotTalk

/-!
# The start of a group

A group may have a name or flags of its own; flags without a colon hold for the rest of the group
they stand in.

* `Pattern.openGroup` — read the start of a group.
-/

namespace Pattern

/-- A character that may stand in the name of a group. -/
def isNameCharacter (first : Bool) (c : Char) : Bool :=
  c = '_' || Text.isAlphabetic c ||
    (!first && (Text.isNumeric c || c = '.' || c = '[' || c = ']'))

/-- Read the characters of a name up to an angle bracket, which is left, or to the end. -/
def nameCharacters (first : Bool) : Nat → Reader (List Char)
  | 0 => return []
  | steps + 1 => do
    match ← peek with
    | none | some '>' => return []
    | some c =>
      if !isNameCharacter first c then refuse .nameInvalid (← nextSpan)
      advance
      return c :: (← nameCharacters false steps)

/-- Read the name of a group and the angle bracket after it.  No name is given twice. -/
def groupName : Reader Unit := do
  let start ← here
  let characters ← nameCharacters true (← rest).length
  let span ← since start
  if ← atEnd then refuse .nameUnclosed (← nextSpan)
  advance
  if characters.isEmpty then refuse .nameEmpty (.point start)
  let name := String.ofList characters
  match (← get).names.lookup name with
  | some earlier => refuseRepeated .nameRepeated span earlier
  | none => modify fun progress => { progress with names := (name, span) :: progress.names }

/-- A hyphen that negates the flags after it, or a flag. -/
inductive FlagItem where
  | negation
  | flag (flag : Flag)
  deriving DecidableEq, Repr

/-- The item that a character writes. -/
def FlagItem.ofChar? (c : Char) : Option FlagItem :=
  if c = '-' then some .negation else (Flag.ofLetter? c).map .flag

/-- Read flags up to the colon or parenthesis after them, and answer them in order; a hyphen negates
    those after it, and none comes twice. -/
def flagItems : Nat → List (FlagItem × Span) → Reader (List FlagItem)
  | 0, items => return (items.map Prod.fst).reverse
  | steps + 1, items => do
    match ← peek with
    | none => refuse .flagsUnclosed (← nextSpan)
    | some ':' | some ')' =>
      match items with
      | (.negation, span) :: _ => refuse .negationDangling span
      | _ => return (items.map Prod.fst).reverse
    | some c =>
      let span ← nextSpan
      match FlagItem.ofChar? c with
      | none => refuse .flagUnknown span
      | some item =>
        match items.lookup item with
        | some earlier =>
          refuseRepeated (if item = .negation then .negationRepeated else .flagRepeated) span
            earlier
        | none =>
          advance
          flagItems steps ((item, span) :: items)

/-- What flags say: those before the hyphen are set, those after it are cleared. -/
def FlagChanges.ofItems (items : List FlagItem) : FlagChanges :=
  let flagOf : FlagItem → Option Flag := fun
    | .flag flag => some flag
    | .negation => none
  { set := (items.takeWhile (· ≠ .negation)).filterMap flagOf
    cleared := (items.dropWhile (· ≠ .negation)).filterMap flagOf }

/-- What stands at an opening parenthesis. -/
inductive Opening where
  /-- Flags for the rest of the present group. -/
  | flags (span : Span) (changes : FlagChanges)
  /-- The start of a group. -/
  | group (span : Span) (form : GroupForm)

/-- How a group begins that looks at its surroundings. -/
def lookArounds : List String := ["?=", "?!", "?<=", "?<!"]

/-- The number of the next group that is remembered. -/
def nextCapture : Reader GroupForm := do
  let number := (← get).captures + 1
  modify fun progress => { progress with captures := number }
  return .capture number

/-- Read the start of a group. -/
def openGroup : Reader Opening := do
  let span ← nextSpan
  advanceSpaced
  let after ← rest
  if let some mark := lookArounds.find? (·.toList.isPrefixOf after) then
    advanceBy mark.length
    refuse .lookAround (← since span.start)
  let inner ← here
  let named ← if ← skip "?P<" then pure true else skip "?<"
  if named then
    let form ← nextCapture
    groupName
    return .group span form
  else if ← skip "?" then
    if ← atEnd then refuse .groupUnclosed span
    let items ← flagItems ((← rest).length + 1) []
    let changes := FlagChanges.ofItems items
    if ← skip ":" then return .group span (.plain changes)
    advance
    if items.isEmpty then refuse .nothingToRepeat (.point inner)
    return .flags (← since span.start) changes
  else return .group span (← nextCapture)

end Pattern

end SlotTalk
