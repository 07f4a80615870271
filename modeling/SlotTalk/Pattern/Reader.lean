import SlotTalk.Pattern.Fault
import SlotTalk.Text.Blank

namespace SlotTalk

/-!
# Reading a pattern

A pattern is read from left to right.  Where it is spaced, blanks and comments may stand between its
parts; a comment goes from a number sign to the end of the line.

* `Pattern.Progress` — how far a pattern has been read.
* `Pattern.Reader` — a step of the reading, which stops at the first fault.
* `Pattern.afterBlanks` — what is left after blanks and comments.
-/

namespace Pattern

/-- How far a pattern has been read. -/
structure Progress where
  rest : List Char
  place : Place := {}
  spaced : Bool := false
  /-- The groups that are remembered, with those that have a name. -/
  captures : Nat := 0
  names : List (String × Span) := []

/-- A step of the reading.  It stops at the first fault. -/
abbrev Reader := StateT Progress (Except Fault)

/-- Stop at a fault. -/
def refuse {α : Type} (cause : Cause) (span : Span) : Reader α :=
  throw { cause, spans := [span] }

/-- Stop at a fault that repeats something. -/
def refuseRepeated {α : Type} (cause : Cause) (span earlier : Span) : Reader α :=
  throw { cause, spans := [span, earlier] }

/-- The characters that are left. -/
def rest : Reader (List Char) := return (← get).rest

/-- The next character. -/
def peek : Reader (Option Char) := return (← get).rest.head?

/-- Nothing is left. -/
def atEnd : Reader Bool := return (← get).rest.isEmpty

/-- The present place. -/
def here : Reader Place := return (← get).place

/-- The characters from a place up to the present one. -/
def since (start : Place) : Reader Span := return ⟨start, ← here⟩

/-- The next character alone, or the end. -/
def nextSpan : Reader Span := do
  let place ← here
  return ⟨place, ((← peek).map place.after).getD place⟩

/-- Read a character if there is one. -/
def advance : Reader Unit :=
  modify fun progress =>
    match progress.rest with
    | [] => progress
    | c :: rest => { progress with rest, place := progress.place.after c }

/-- Read as many characters. -/
def advanceBy : Nat → Reader Unit
  | 0 => return ()
  | count + 1 => do
    advance
    advanceBy count

/-- Read a text if it comes next, and say whether it did. -/
def skip (text : String) : Reader Bool := do
  if text.toList.isPrefixOf (← rest) then
    advanceBy text.length
    return true
  else
    return false

/-- How blanks and comments are passed over: the characters that are left, and the place.  The
    comment that is open at the start is passed over first. -/
def afterBlanks (comment : Bool) (place : Place) : List Char → List Char × Place
  | [] => ([], place)
  | c :: rest =>
    if comment then afterBlanks (c ≠ '\n') (place.after c) rest
    else if Text.isBlank c then afterBlanks false (place.after c) rest
    else if c = '#' then afterBlanks true (place.after c) rest
    else (c :: rest, place)

/-- Pass over blanks and comments, if the pattern is spaced. -/
def skipBlanks : Reader Unit :=
  modify fun progress =>
    if progress.spaced then
      let (rest, place) := afterBlanks false progress.place progress.rest
      { progress with rest, place }
    else progress

/-- Read a character, and pass over what says nothing after it. -/
def advanceSpaced : Reader Unit := do
  advance
  skipBlanks

/-- The first character that says something in a text that begins outside comments: of a comment
    only the sign that begins it is passed over. -/
def firstTelling? (text : List Char) : Option Char :=
  match text.dropWhile Text.isBlank with
  | '#' :: rest => (rest.dropWhile Text.isBlank).head?
  | rest => rest.head?

/-- The character that comes after the next one. -/
def peekSecond : Reader (Option Char) := do
  let second := (← rest).drop 1
  return if (← get).spaced then firstTelling? second else second.head?

end Pattern

end SlotTalk
