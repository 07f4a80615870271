namespace SlotTalk

/-!
# Places in a pattern

* `Pattern.Place` — a line and a column, both counted from one.
* `Pattern.Span` — the characters from one place up to another.
-/

namespace Pattern

/-- A place between two characters: the line, and the column of the character after it. -/
structure Place where
  line : Nat := 1
  column : Nat := 1
  deriving DecidableEq, Repr, Inhabited

namespace Place

/-- The place after a character; a newline begins the next line. -/
def after (place : Place) (c : Char) : Place :=
  if c = '\n' then { line := place.line + 1, column := 1 }
  else { place with column := place.column + 1 }

/-- Whether one place comes no later than another. -/
def notAfter (place other : Place) : Bool :=
  place.line < other.line || (place.line = other.line && place.column ≤ other.column)

end Place

/-- The characters from one place up to another; there may be none. -/
structure Span where
  start : Place
  stop : Place
  deriving DecidableEq, Repr, Inhabited

namespace Span

/-- The span without characters at a place. -/
def point (place : Place) : Span := ⟨place, place⟩

/-- Both ends are on the same line. -/
def onOneLine (span : Span) : Bool := span.start.line = span.stop.line

/-- The spans in the order of where they begin. -/
def sorted (spans : List Span) : List Span :=
  spans.mergeSort fun span other => span.start.notAfter other.start

end Span

end Pattern

end SlotTalk
