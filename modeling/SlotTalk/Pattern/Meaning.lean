import SlotTalk.Pattern.Expr
import SlotTalk.Pattern.Fault

namespace SlotTalk

/-!
# The meaning of a pattern

Tables of the Unicode character database are not at hand for patterns: kinds of characters,
properties and letters of either case are refused, unless the pattern is about bytes; and bytes that
are no characters by themselves are refused as well.

* `Tree.meaning` — the expression of a pattern, or the first part that has no meaning.
-/

namespace Pattern

/-- The flags that decide what a pattern means. -/
structure Flags where
  anyCase : Bool := false
  multiLine : Bool := false
  dotAll : Bool := false
  lazy : Bool := false
  unicode : Bool := true
  carriageReturns : Bool := false
  deriving DecidableEq, Repr

/-- The flags after changes. -/
def Flags.apply (flags : Flags) (changes : FlagChanges) : Flags :=
  { anyCase := changes.apply .anyCase flags.anyCase
    multiLine := changes.apply .multiLine flags.multiLine
    dotAll := changes.apply .dotAll flags.dotAll
    lazy := changes.apply .lazy flags.lazy
    unicode := changes.apply .unicode flags.unicode
    carriageReturns := changes.apply .carriageReturns flags.carriageReturns }

/-- What the members of a class are. -/
def Flags.alphabet (flags : Flags) : Alphabet := if flags.unicode then .characters else .bytes

/-- A part of a pattern has no meaning. -/
def meaningless {α : Type} (cause : Cause) (span : Span) : Except Fault α :=
  .error { cause, spans := [span] }

/-! ### Classes -/

/-- The members of a class with a name. -/
def ClassName.ranges : ClassName → List (Nat × Nat)
  | .alnum => [(0x30, 0x39), (0x41, 0x5a), (0x61, 0x7a)]
  | .alpha => [(0x41, 0x5a), (0x61, 0x7a)]
  | .ascii => [(0x0, 0x7f)]
  | .blank => [(0x9, 0x9), (0x20, 0x20)]
  | .cntrl => [(0x0, 0x1f), (0x7f, 0x7f)]
  | .digit => [(0x30, 0x39)]
  | .graph => [(0x21, 0x7e)]
  | .lower => [(0x61, 0x7a)]
  | .print => [(0x20, 0x7e)]
  | .punct => [(0x21, 0x2f), (0x3a, 0x40), (0x5b, 0x60), (0x7b, 0x7e)]
  | .space => [(0x9, 0xd), (0x20, 0x20)]
  | .upper => [(0x41, 0x5a)]
  | .word => [(0x30, 0x39), (0x41, 0x5a), (0x5f, 0x5f), (0x61, 0x7a)]
  | .xdigit => [(0x30, 0x39), (0x41, 0x46), (0x61, 0x66)]

/-- The class of bytes of a kind. -/
def Kind.className : Kind → ClassName
  | .digit => .digit
  | .blank => .space
  | .word => .word

/-- A set with the letters of the other case, if the flags ask for them. -/
def foldCase (flags : Flags) (span : Span) (set : CharSet) : Except Fault CharSet :=
  if !flags.anyCase then .ok set
  else if !flags.unicode then .ok set.withBothCases
  else if set.closed || set.ranges.isEmpty then .ok set
  else meaningless .caseUnavailable span

/-- A set after its negation, if it is negated. -/
def negateSet (flags : Flags) (negated : Bool) (set : CharSet) : CharSet :=
  if negated then set.complement flags.alphabet else set

/-- A set of bytes holds only those that are characters. -/
def demandText (flags : Flags) (span : Span) (set : CharSet) : Except Fault CharSet :=
  if flags.unicode || set.isAscii then .ok set else meaningless .brokenText span

/-- A set with the letters of the other case, or else what is not in it. -/
def finishSet (flags : Flags) (span : Span) (negated : Bool) (set : CharSet) :
    Except Fault CharSet := do
  demandText flags span (negateSet flags negated (← foldCase flags span set))

/-- The characters of a kind. -/
def Kind.meaning (flags : Flags) (span : Span) (negated : Bool) (kind : Kind) :
    Except Fault CharSet :=
  if flags.unicode then meaningless .kindUnavailable span
  else demandText flags span (negateSet flags negated (.ofRanges kind.className.ranges))

/-- The name of a property without what makes no difference: the case of its letters, blanks,
    hyphens and underscores, letters outside ASCII, and the word "is" in front. -/
def plainName (name : List Char) : List Char :=
  let isIs := fun c d => c.toLower = 'i' ∧ d.toLower = 's'
  let name :=
    match name with
    | c :: d :: rest => if isIs c d then rest else name
    | _ => name
  (name.filter fun c => c.toNat < 128 && c ≠ ' ' && c ≠ '_' && c ≠ '-').map Char.toLower

/-- Short names of categories that would be names of properties as well. -/
def isCategoryName (name : List Char) : Bool :=
  let plain := String.ofList (plainName name)
  plain = "cf" || plain = "sc" || plain = "lc"

/-- The characters with a property: none is at hand. -/
def propertyMeaning {α : Type} (flags : Flags) (span : Span) (name : List Char) : Except Fault α :=
  if !flags.unicode then meaningless .beyondBytes span
  else if isCategoryName name then meaningless .propertyValueUnknown span
  else meaningless .propertyUnknown span

/-- The code of a literal in a class. -/
def Literal.code (flags : Flags) (span : Span) (literal : Literal) : Except Fault Nat :=
  let code := literal.char.toNat
  if flags.unicode || code < 128 then .ok code
  else if literal.byteForm && code < 256 then meaningless .brokenText span
  else meaningless .beyondBytes span

/-- The two sides of a double sign taken together. -/
def SetOperator.meaning (alphabet : Alphabet) : SetOperator → CharSet → CharSet → CharSet
  | .intersection => CharSet.inter
  | .difference => CharSet.diff alphabet
  | .symmetricDifference => CharSet.symmDiff alphabet

mutual

/-- A set with the members of a part of a class. -/
def ClassTree.addTo (flags : Flags) (set : CharSet) : ClassTree → Except Fault CharSet
  | .empty _ => return set
  | .literal span found => do
    let code ← found.code flags span
    return set.insert code code
  | .range _ lowSpan low highSpan high => do
    let first ← low.code flags lowSpan
    return set.insert first (← high.code flags highSpan)
  | .named span negated name =>
    return set.union (← finishSet flags span negated (.ofRanges name.ranges))
  | .kind span negated found => return set.union (← found.meaning flags span negated)
  | .property span name => propertyMeaning flags span name
  | .bracketed span negated items => do
    return set.union (← finishSet flags span negated (← items.addTo flags {}))
  | .union _ items => ClassTree.addAllTo flags set items
  | .operation _ operator left right => do
    let leftSet ← left.addTo flags {}
    let rightSet ← right.addTo flags {}
    -- the other case is taken in on the right first
    let rightSet ← foldCase flags right.span rightSet
    let leftSet ← foldCase flags left.span leftSet
    return set.union (operator.meaning flags.alphabet leftSet rightSet)

/-- A set with the members of several parts of a class. -/
def ClassTree.addAllTo (flags : Flags) (set : CharSet) : List ClassTree → Except Fault CharSet
  | [] => return set
  | item :: items => do ClassTree.addAllTo flags (← item.addTo flags set) items

end

/-! ### Patterns -/

/-- A character as a pattern. -/
def Literal.meaning (flags : Flags) (span : Span) (literal : Literal) : Except Fault Expr :=
  let code := literal.char.toNat
  if flags.unicode then
    if flags.anyCase then meaningless .caseUnavailable span else .ok (.literal [literal.char])
  else if literal.byteForm && 128 ≤ code && code < 256 then meaningless .brokenText span
  else if flags.anyCase && literal.char.isAlpha then
    .ok (.ofSet (CharSet.withBothCases (.ofRanges [(code, code)])).ranges)
  else .ok (.literal [literal.char])

/-- Any character: but for the ends of lines, unless these are asked for. -/
def dotMeaning (flags : Flags) (span : Span) : Except Fault Expr :=
  if !flags.unicode then meaningless .brokenText span
  else if flags.dotAll then .ok (.set [(0, 0x10ffff)])
  else if flags.carriageReturns then
    .ok (.set [(0, 0x9), (0xb, 0xc), (0xe, 0x10ffff)])
  else .ok (.set [(0, 0x9), (0xb, 0x10ffff)])

/-- What an assertion asks under the flags. -/
def Assertion.look (flags : Flags) : Assertion → Look
  | .textStart => .textStart
  | .textStop => .textStop
  | .lineStart => if flags.multiLine then .lineStart flags.carriageReturns else .textStart
  | .lineStop => if flags.multiLine then .lineStop flags.carriageReturns else .textStop
  | .edge place => .edge place flags.unicode

/-- Finding the meaning of a part changes the flags for the parts after it. -/
abbrev Reading := StateT Flags (Except Fault)

mutual

/-- The meaning of a pattern. -/
def Tree.meaning : Tree → Reading Expr
  | .empty _ => return .empty
  | .flags _ changes => do
    modify (·.apply changes)
    return .empty
  | .literal span found => do found.meaning (← get) span
  | .dot span => do dotMeaning (← get) span
  | .assertion _ found => return .look (found.look (← get))
  | .kind span negated found => do return .ofSet (← found.meaning (← get) span negated).ranges
  | .property span name => do propertyMeaning (← get) span name
  | .bracketed span negated items => do
    let flags ← get
    return .ofSet (← finishSet flags span negated (← items.addTo flags {})).ranges
  | .repetition _ least most greedy body => do
    let body ← body.meaning
    return .repeated least most (greedy != (← get).lazy) body
  | .group _ form body => do
    let before ← get
    match form with
    | .capture number =>
      let body ← body.meaning
      set before
      return .capture number body
    | .plain changes =>
      set (before.apply changes)
      let body ← body.meaning
      set before
      return body
  | .sequence _ parts => return .inSequence (← Tree.meanings parts)
  | .alternation _ branches => return .oneOf (← Tree.meanings branches)

/-- The meanings of several patterns, in order. -/
def Tree.meanings : List Tree → Reading (List Expr)
  | [] => return []
  | tree :: trees => do
    let expr ← tree.meaning
    return expr :: (← Tree.meanings trees)

end

end Pattern

end SlotTalk
