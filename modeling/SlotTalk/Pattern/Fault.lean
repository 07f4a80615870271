import SlotTalk.Pattern.Place

namespace SlotTalk

/-!
# Faults of patterns

* `Pattern.Cause` — why a pattern is refused, with `Cause.text` for the wording.
* `Pattern.Fault.text` — how a fault is told: the pattern, marks under the places, and the cause.
-/

namespace Pattern

/-- Groups, repetitions, classes and lists of parts may stand in each other this deep. -/
def nestingLimit : Nat := 250

/-- The automaton of a pattern may take this many bytes. -/
def sizeLimit : Nat := 10 * 1024 * 1024

/-- Why a pattern is refused. -/
inductive Cause where
  | groupUnclosed | groupUnopened | lookAround
  | nameUnclosed | nameEmpty | nameInvalid | nameRepeated
  | flagUnknown | flagRepeated | negationRepeated | negationDangling | flagsUnclosed
  | nothingToRepeat | countMissing | countTooLarge | countUnclosed | countDescending
  | escapeUnfinished | escapeUnknown | backreference
  | edgeOrCountUnclosed | edgeUnclosed | edgeUnknown
  | hexDigitInvalid | hexEmpty | hexNoCharacter | propertyInvalid
  | classUnclosed | classDescending | classBoundary | classEscape
  | tooDeep
  | propertyUnknown | propertyValueUnknown | kindUnavailable | caseUnavailable
  | beyondBytes | brokenText
  | boundaryUnavailable | tooLarge
  deriving DecidableEq, Repr

/-- The wording of a cause. -/
def Cause.text : Cause → String
  | .groupUnclosed => "unclosed group"
  | .groupUnopened => "unopened group"
  | .lookAround => "look-around, including look-ahead and look-behind, is not supported"
  | .nameUnclosed => "unclosed capture group name"
  | .nameEmpty => "empty capture group name"
  | .nameInvalid => "invalid capture group character"
  | .nameRepeated => "duplicate capture group name"
  | .flagUnknown => "unrecognized flag"
  | .flagRepeated => "duplicate flag"
  | .negationRepeated => "flag negation operator repeated"
  | .negationDangling => "dangling flag negation operator"
  | .flagsUnclosed => "expected flag but got end of regex"
  | .nothingToRepeat => "repetition operator missing expression"
  | .countMissing => "repetition quantifier expects a valid decimal"
  | .countTooLarge => "decimal literal invalid"
  | .countUnclosed => "unclosed counted repetition"
  | .countDescending => "invalid repetition count range, the start must be <= the end"
  | .escapeUnfinished => "incomplete escape sequence, reached end of pattern prematurely"
  | .escapeUnknown => "unrecognized escape sequence"
  | .backreference => "backreferences are not supported"
  | .edgeOrCountUnclosed =>
    "found either the beginning of a special word boundary or a bounded repetition " ++
      "on a \\b with an opening brace, but no closing brace"
  | .edgeUnclosed =>
    "special word boundary assertion is either unclosed or contains an invalid character"
  | .edgeUnknown =>
    "unrecognized special word boundary assertion, " ++
      "valid choices are: start, end, start-half or end-half"
  | .hexDigitInvalid => "invalid hexadecimal digit"
  | .hexEmpty => "hexadecimal literal empty"
  | .hexNoCharacter => "hexadecimal literal is not a Unicode scalar value"
  | .propertyInvalid => "invalid Unicode character class"
  | .classUnclosed => "unclosed character class"
  | .classDescending => "invalid character class range, the start must be <= the end"
  | .classBoundary => "invalid range boundary, must be a literal"
  | .classEscape => "invalid escape sequence found in character class"
  | .tooDeep => s!"exceed the maximum number of nested parentheses/brackets ({nestingLimit})"
  | .propertyUnknown => "Unicode property not found"
  | .propertyValueUnknown => "Unicode property value not found"
  | .kindUnavailable =>
    "Unicode-aware Perl class not found (make sure the unicode-perl feature is enabled)"
  | .caseUnavailable =>
    "Unicode-aware case insensitivity matching is not available " ++
      "(make sure the unicode-case feature is enabled)"
  | .beyondBytes => "Unicode not allowed here"
  | .brokenText => "pattern can match invalid UTF-8"
  | .boundaryUnavailable => "error building NFA"
  | .tooLarge => s!"Compiled regex exceeds size limit of {sizeLimit} bytes."

/-- A cause with the places to mark. -/
structure Fault where
  cause : Cause
  spans : List Span
  deriving DecidableEq, Repr

/-- The lines of a text.  A newline ends a line, and so does a carriage return before it; nothing
    comes after the last ending. -/
def linesOf : List Char → List (List Char)
  | [] => []
  | '\n' :: rest => [] :: linesOf rest
  | '\r' :: '\n' :: rest => [] :: linesOf rest
  | c :: rest =>
    match linesOf rest with
    | [] => [[c]]
    | line :: more => (c :: line) :: more

namespace Fault

/-- A mark under each character of the spans, behind a margin; a span without characters has one as
    well. -/
def marks (margin : Nat) (spans : List Span) : String :=
  (Span.sorted spans).foldl
    (fun line span =>
      (line.pushn ' ' (margin + span.start.column - 1 - line.length)).pushn '^'
        (max 1 (span.stop.column - span.start.column)))
    ("".pushn ' ' margin)

/-- A line with what is written before it, and the marks of the spans that begin in it. -/
def markedLine (spans : List Span) (number : Nat) (label : String) (line : List Char) : String :=
  let own := spans.filter (·.start.line = number)
  label ++ String.ofList line ++ "\n" ++
    if own.isEmpty then "" else marks label.length own ++ "\n"

/-- The number of a line before the line, filled up on the left. -/
def label (width number : Nat) : String :=
  let digits := toString number
  "".pushn ' ' (width - digits.length) ++ digits ++ ": "

/-- The lines of a pattern with their numbers, between two rules; what spans more than a line is
    told after them. -/
def numbered (pattern : List Char) (spans : List Span) : String :=
  let lines := linesOf pattern
  let count := lines.length + if pattern.getLast? = some '\n' then 1 else 0
  let width := (toString count).length
  let marked := lines.mapIdx fun index line =>
    markedLine (spans.filter (·.onOneLine)) (index + 1) (label width (index + 1)) line
  let notes := (Span.sorted (spans.filter (!·.onOneLine))).map fun span =>
    s!"on line {span.start.line} (column {span.start.column}) " ++
      s!"through line {span.stop.line} (column {span.stop.column - 1})\n"
  let rule := "".pushn '~' 79 ++ "\n"
  rule ++ String.join marked ++ rule ++ String.join notes

/-- How a fault of the pattern is told; one without a place is told by its cause alone. -/
def text (pattern : String) (fault : Fault) : String :=
  if fault.spans.isEmpty then fault.cause.text
  else
    let characters := pattern.toList
    let shown :=
      if characters.contains '\n' then numbered characters fault.spans
      else markedLine fault.spans 1 "    " characters
    "regex parse error:\n" ++ shown ++ "error: " ++ fault.cause.text

end Fault

end Pattern

end SlotTalk
