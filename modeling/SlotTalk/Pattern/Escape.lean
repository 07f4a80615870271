import SlotTalk.Pattern.Reader
import SlotTalk.Pattern.Tree

namespace SlotTalk

/-!
# Characters and escapes

* `Pattern.placed` — read a character that stands for itself, or an escape.
-/

namespace Pattern

/-- What a single character or an escape stands for. -/
inductive Piece where
  | literal (literal : Literal)
  | kind (negated : Bool) (kind : Kind)
  | property (name : List Char)
  | assertion (assertion : Assertion)
  deriving DecidableEq, Repr

/-- A piece and the characters that wrote it. -/
structure Placed where
  piece : Piece
  span : Span

/-- A piece as a pattern. -/
def Placed.tree (found : Placed) : Tree :=
  match found.piece with
  | .literal literal => .literal found.span literal
  | .kind negated kind => .kind found.span negated kind
  | .property name => .property found.span name
  | .assertion assertion => .assertion found.span assertion

/-! ### Codes -/

/-- The digit that a character is in base sixteen. -/
def hexDigit? (c : Char) : Option Nat :=
  if c.isDigit then some (c.toNat - '0'.toNat)
  else if 'a' ≤ c ∧ c ≤ 'f' then some (c.toNat - 'a'.toNat + 10)
  else if 'A' ≤ c ∧ c ≤ 'F' then some (c.toNat - 'A'.toNat + 10)
  else none

/-- The number that digits of base sixteen write. -/
def hexNumber (digits : List Char) : Nat :=
  digits.foldl (fun n c => n * 16 + (hexDigit? c).getD 0) 0

/-- The next character has to be a digit of base sixteen. -/
def demandHexDigit (c : Char) : Reader Unit := do
  if (hexDigit? c).isNone then refuse .hexDigitInvalid (← nextSpan)

/-- Read as many digits of base sixteen. -/
def hexDigits : Nat → Reader (List Char)
  | 0 => return []
  | count + 1 => do
    match ← peek with
    | none => refuse .escapeUnfinished (← nextSpan)
    | some c =>
      demandHexDigit c
      advanceSpaced
      return c :: (← hexDigits count)

/-- The character with the given code, which the span wrote. -/
def scalar (code : Nat) (span : Span) : Reader Char :=
  if code.isValidChar then return Char.ofNat code else refuse .hexNoCharacter span

/-- Read the characters after an opening brace up to the closing one, which is left, or to the end;
    each of them has to be allowed. -/
def upToBrace (allow : Char → Reader Unit) : Nat → Reader (List Char)
  | 0 => return []
  | steps + 1 => do
    advanceSpaced
    match ← peek with
    | none | some '}' => return []
    | some c =>
      allow c
      return c :: (← upToBrace allow steps)

/-- Read a code between braces. -/
def hexBraced : Reader Char := do
  let brace ← here
  let start := (← nextSpan).stop
  let digits ← upToBrace demandHexDigit (← rest).length
  let stop ← here
  if ← atEnd then refuse .escapeUnfinished ⟨brace, stop⟩
  advanceSpaced
  if digits.isEmpty then refuse .hexEmpty (← since brace)
  scalar (hexNumber digits) ⟨start, stop⟩

/-- Read a code, of as many digits if it has no braces. -/
def hex (count : Nat) : Reader Piece := do
  advanceSpaced
  match ← peek with
  | none => refuse .escapeUnfinished (← nextSpan)
  | some '{' => return .literal { char := ← hexBraced }
  | some _ =>
    let start ← here
    let digits ← hexDigits count
    let char ← scalar (hexNumber digits) (← since start)
    return .literal { char, byteForm := count = 2 }

/-! ### Other escapes -/

/-- Read the name of a property: one character, or more between braces. -/
def property : Reader Piece := do
  advanceSpaced
  match ← peek with
  | none => refuse .escapeUnfinished (← nextSpan)
  | some '{' =>
    let name ← upToBrace (fun _ => return ()) (← rest).length
    if ← atEnd then refuse .escapeUnfinished (← nextSpan)
    advance
    return .property name
  | some '\\' => refuse .propertyInvalid (← nextSpan)
  | some c =>
    advanceSpaced
    return .property [c]

/-- The characters of the names of edges. -/
def isEdgeLetter (c : Char) : Bool := c.isAlpha || c = '-'

/-- The edge with a name. -/
def WordEdge.ofName? : String → Option WordEdge
  | "start" => some .start
  | "end" => some .stop
  | "start-half" => some .startHalf
  | "end-half" => some .stopHalf
  | _ => none

/-- Read the letters of the name of an edge. -/
def edgeLetters : Nat → Reader (List Char)
  | 0 => return []
  | steps + 1 => do
    match ← peek with
    | none => return []
    | some c =>
      if isEdgeLetter c then
        advanceSpaced
        return c :: (← edgeLetters steps)
      else return []

/-- Read the name of an edge between braces.  Braces that do not begin like a name are left: they
    hold a count. -/
def namedEdge (start : Place) : Reader WordEdge := do
  let before ← get
  advanceSpaced
  match ← peek with
  | none => refuse .edgeOrCountUnclosed (← since start)
  | some c =>
    if !isEdgeLetter c then
      -- go back to the brace
      set before
      return .either
    else
      let nameStart ← here
      let name ← edgeLetters (← rest).length
      let nameSpan ← since nameStart
      if (← peek) ≠ some '}' then refuse .edgeUnclosed (← since before.place)
      advance
      match WordEdge.ofName? (String.ofList name) with
      | some edge => return edge
      | none => refuse .edgeUnknown nameSpan

/-- The ASCII characters that an escape only quotes. -/
def isQuotable (c : Char) : Bool := c.toNat < 128 && !c.isAlphanum && c ≠ '<' && c ≠ '>'

/-- What a letter, or an angle bracket, means after a backslash. -/
def letterPiece? : Char → Option Piece
  | 'd' => some (.kind false .digit)
  | 'D' => some (.kind true .digit)
  | 's' => some (.kind false .blank)
  | 'S' => some (.kind true .blank)
  | 'w' => some (.kind false .word)
  | 'W' => some (.kind true .word)
  | 'a' => some (.literal { char := Char.ofNat 7 })
  | 'f' => some (.literal { char := Char.ofNat 12 })
  | 'v' => some (.literal { char := Char.ofNat 11 })
  | 't' => some (.literal { char := '\t' })
  | 'n' => some (.literal { char := '\n' })
  | 'r' => some (.literal { char := '\r' })
  | 'A' => some (.assertion .textStart)
  | 'z' => some (.assertion .textStop)
  | 'B' => some (.assertion (.edge .neither))
  | '<' => some (.assertion (.edge .start))
  | '>' => some (.assertion (.edge .stop))
  | _ => none

/-- Read what stands after a backslash. -/
def escaped (start : Place) : Reader Piece := do
  match ← peek with
  | none => refuse .escapeUnfinished (← since start)
  | some 'x' => hex 2
  | some 'u' => hex 4
  | some 'U' => hex 8
  | some 'p' | some 'P' => property
  | some 'b' =>
    advance
    if (← peek) = some '{' then return .assertion (.edge (← namedEdge start))
    else return .assertion (.edge .either)
  | some c =>
    advance
    if c.isDigit then refuse .backreference (← since start)
    else if isQuotable c then return .literal { char := c }
    else
      match letterPiece? c with
      | some piece => return piece
      | none => refuse .escapeUnknown (← since start)

/-- Read a character that stands for itself, or an escape. -/
def placed (c : Char) : Reader Placed := do
  let start ← here
  advance
  let piece ← if c = '\\' then escaped start else pure (.literal { char := c })
  return ⟨piece, ← since start⟩

end Pattern

end SlotTalk
