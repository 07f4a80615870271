import SlotTalk.Pattern.Place

namespace SlotTalk

/-!
# Patterns as trees

What a pattern says, before it has a meaning: each node knows the characters that wrote it.

* `Pattern.Tree` — a pattern, and `Pattern.ClassTree` — what stands between brackets.
* `Tree.overflow?` — the first node that stands too deep in others.
-/

namespace Pattern

/-- A switch of what a pattern means, or of how it is written. -/
inductive Flag where
  | anyCase | multiLine | dotAll | lazy | unicode | carriageReturns
  /-- Blanks and comments between the parts of a pattern say nothing. -/
  | spaced
  deriving DecidableEq, Repr

/-- The letter of a flag. -/
def Flag.ofLetter? : Char → Option Flag
  | 'i' => some .anyCase
  | 'm' => some .multiLine
  | 's' => some .dotAll
  | 'U' => some .lazy
  | 'u' => some .unicode
  | 'R' => some .carriageReturns
  | 'x' => some .spaced
  | _ => none

/-- The flags that are set, and those that are cleared. -/
structure FlagChanges where
  set : List Flag := []
  cleared : List Flag := []
  deriving DecidableEq, Repr

/-- A flag after the changes. -/
def FlagChanges.apply (changes : FlagChanges) (flag : Flag) (before : Bool) : Bool :=
  changes.set.contains flag || (before && !changes.cleared.contains flag)

/-- A character that stands for itself. -/
structure Literal where
  char : Char
  /-- It is written as two digits of base sixteen, and so can mean a byte. -/
  byteForm : Bool := false
  deriving DecidableEq, Repr

/-- A kind of characters that a letter names. -/
inductive Kind where
  | digit | blank | word
  deriving DecidableEq, Repr

/-- How a place stands to the words around it. -/
inductive WordEdge where
  /-- At one of the ends of a word. -/
  | either
  /-- At none of them. -/
  | neither
  | start | stop
  /-- No word goes on before it. -/
  | startHalf
  /-- No word goes on after it. -/
  | stopHalf
  deriving DecidableEq, Repr

/-- What a pattern asks of a place. -/
inductive Assertion where
  | textStart | textStop | lineStart | lineStop
  | edge (edge : WordEdge)
  deriving DecidableEq, Repr

/-- A class of ASCII characters with a name. -/
inductive ClassName where
  | alnum | alpha | ascii | blank | cntrl | digit | graph | lower | print | punct | space | upper
  | word | xdigit
  deriving DecidableEq, Repr

/-- The class with a name. -/
def ClassName.ofName? : String → Option ClassName
  | "alnum" => some .alnum
  | "alpha" => some .alpha
  | "ascii" => some .ascii
  | "blank" => some .blank
  | "cntrl" => some .cntrl
  | "digit" => some .digit
  | "graph" => some .graph
  | "lower" => some .lower
  | "print" => some .print
  | "punct" => some .punct
  | "space" => some .space
  | "upper" => some .upper
  | "word" => some .word
  | "xdigit" => some .xdigit
  | _ => none

/-- A sign between two parts of a class. -/
inductive SetOperator where
  | intersection | difference | symmetricDifference
  deriving DecidableEq, Repr

/-- What stands between brackets. -/
inductive ClassTree where
  | empty (span : Span)
  | literal (span : Span) (literal : Literal)
  | range (span : Span) (lowSpan : Span) (low : Literal) (highSpan : Span) (high : Literal)
  | named (span : Span) (negated : Bool) (name : ClassName)
  | kind (span : Span) (negated : Bool) (kind : Kind)
  | property (span : Span) (name : List Char)
  | bracketed (span : Span) (negated : Bool) (items : ClassTree)
  | union (span : Span) (items : List ClassTree)
  | operation (span : Span) (operator : SetOperator) (left right : ClassTree)

/-- The characters that wrote a part of a class. -/
def ClassTree.span : ClassTree → Span
  | .empty span | .literal span _ | .range span .. | .named span .. | .kind span .. => span
  | .property span _ | .bracketed span .. | .union span _ | .operation span .. => span

/-- What a group is for. -/
inductive GroupForm where
  /-- It is remembered under its number. -/
  | capture (number : Nat)
  /-- It has flags of its own. -/
  | plain (changes : FlagChanges)
  deriving DecidableEq, Repr

/-- A pattern. -/
inductive Tree where
  | empty (span : Span)
  | flags (span : Span) (changes : FlagChanges)
  | literal (span : Span) (literal : Literal)
  | dot (span : Span)
  | assertion (span : Span) (assertion : Assertion)
  | kind (span : Span) (negated : Bool) (kind : Kind)
  | property (span : Span) (name : List Char)
  | bracketed (span : Span) (negated : Bool) (items : ClassTree)
  | repetition (span : Span) (least : Nat) (most : Option Nat) (greedy : Bool) (body : Tree)
  | group (span : Span) (form : GroupForm) (body : Tree)
  | sequence (span : Span) (parts : List Tree)
  | alternation (span : Span) (branches : List Tree)

/-- The characters that wrote a pattern. -/
def Tree.span : Tree → Span
  | .empty span | .flags span _ | .literal span _ | .dot span | .assertion span _ => span
  | .kind span .. | .property span _ | .bracketed span .. | .repetition span .. => span
  | .group span .. | .sequence span _ | .alternation span _ => span

/-! ### Depth -/

/-- Go into a node if there is room for it. -/
def enter (room : Nat) (span : Span) (inside : Nat → Option Span) : Option Span :=
  match room with
  | 0 => some span
  | room + 1 => inside room

mutual

/-- The first part of a class that stands too deep in others. -/
def ClassTree.overflow? : ClassTree → Nat → Option Span
  | .bracketed span _ items, room => enter room span items.overflow?
  | .union span items, room => enter room span (ClassTree.firstOverflow? items)
  | .operation span _ left right, room =>
    enter room span fun room => left.overflow? room <|> right.overflow? room
  | _, _ => none

/-- The first of several parts that stands too deep. -/
def ClassTree.firstOverflow? : List ClassTree → Nat → Option Span
  | [], _ => none
  | item :: items, room => item.overflow? room <|> ClassTree.firstOverflow? items room

end

mutual

/-- The first part of a pattern that stands too deep in others. -/
def Tree.overflow? : Tree → Nat → Option Span
  | .bracketed span _ items, room => enter room span items.overflow?
  | .repetition span _ _ _ body, room => enter room span body.overflow?
  | .group span _ body, room => enter room span body.overflow?
  | .sequence span parts, room => enter room span (Tree.firstOverflow? parts)
  | .alternation span branches, room => enter room span (Tree.firstOverflow? branches)
  | _, _ => none

/-- The first of several parts that stands too deep. -/
def Tree.firstOverflow? : List Tree → Nat → Option Span
  | [], _ => none
  | part :: parts, room => part.overflow? room <|> Tree.firstOverflow? parts room

end

end Pattern

end SlotTalk
