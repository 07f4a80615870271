import SlotTalk.Pattern.CharSet
import SlotTalk.Pattern.Tree

namespace SlotTalk

/-!
# What patterns mean

* `Pattern.Expr` — a pattern without its spelling.
* `Expr.ofSet`, `Expr.repeated`, `Expr.inSequence`, `Expr.oneOf` — build expressions in a simple
  form: what is empty or stands alone is left out, neighbouring literals are one literal, and
  branches that are single characters are one set.
* `Expr.minLength?`, `Expr.maxLength?` — how many bytes a match has.
-/

namespace Pattern

/-- What is asked of a place. -/
inductive Look where
  | textStart | textStop
  | lineStart (carriageReturns : Bool)
  | lineStop (carriageReturns : Bool)
  | edge (edge : WordEdge) (unicode : Bool)
  deriving DecidableEq, Repr

/-- A pattern without its spelling. -/
inductive Expr where
  | empty
  | literal (text : List Char)
  /-- One character of a set that has more than one member, or none. -/
  | set (ranges : List (Nat × Nat))
  | look (look : Look)
  | repetition (least : Nat) (most : Option Nat) (greedy : Bool) (body : Expr)
  | capture (number : Nat) (body : Expr)
  | sequence (parts : List Expr)
  | alternation (branches : List Expr)
  deriving BEq, Repr

/-- Number of bytes of a character with the given code in UTF-8. -/
def encodedLength (code : Nat) : Nat :=
  if code ≤ 0x7f then 1 else if code ≤ 0x7ff then 2 else if code ≤ 0xffff then 3 else 4

/-- The sum of several sizes. -/
def total (sizes : List Nat) : Nat := sizes.foldr (· + ·) 0

namespace Expr

/-! ### Lengths -/

/-- The sum, if all are known. -/
def total? : List (Option Nat) → Option Nat
  | [] => some 0
  | length :: lengths => return (← length) + (← total? lengths)

/-- The outcome of comparing two at a time, if all are known. -/
def extreme? (choose : Nat → Nat → Nat) : List (Option Nat) → Option Nat
  | [] => none
  | [length] => length
  | length :: lengths => return choose (← length) (← extreme? choose lengths)

/-- Number of bytes of the shortest match, if there can be one. -/
def minLength? : Expr → Option Nat
  | .empty | .look _ => some 0
  | .literal text => some (total (text.map (·.utf8Size)))
  | .set ranges => ranges.head?.map fun range => encodedLength range.1
  | .repetition least _ _ body => body.minLength?.map (· * least)
  | .capture _ body => body.minLength?
  | .sequence parts => total? (parts.map minLength?)
  | .alternation branches => extreme? min (branches.map minLength?)

/-- Number of bytes of the longest match, if there is one. -/
def maxLength? : Expr → Option Nat
  | .empty | .look _ => some 0
  | .literal text => some (total (text.map (·.utf8Size)))
  | .set ranges => ranges.getLast?.map fun range => encodedLength range.2
  | .repetition _ most _ body => return (← body.maxLength?) * (← most)
  | .capture _ body => body.maxLength?
  | .sequence parts => total? (parts.map maxLength?)
  | .alternation branches => extreme? max (branches.map maxLength?)

/-- Every match is without characters. -/
def isBlank (expr : Expr) : Bool := expr.maxLength? = some 0

/-! ### Building -/

/-- One character of the given set; a single character is a literal. -/
def ofSet (ranges : List (Nat × Nat)) : Expr :=
  match ranges with
  | [(first, last)] => if first = last then .literal [Char.ofNat first] else .set ranges
  | _ => .set ranges

/-- A repetition.  What matches no characters is not repeated more than once. -/
def repeated (least : Nat) (most : Option Nat) (greedy : Bool) (body : Expr) : Expr :=
  -- once is as good as any other number of times
  let least := if body.isBlank then min least 1 else least
  let most := if body.isBlank then some (min (most.getD 1) 1) else most
  if most = some 0 then .empty
  else if least = 1 ∧ most = some 1 then body
  else .repetition least most greedy body

/-- The parts of an expression in a sequence. -/
def parts : Expr → List Expr
  | .empty => []
  | .sequence parts => parts
  | expr => [expr]

/-- Make neighbouring literals one literal. -/
def joinLiterals : List Expr → List Expr
  | [] => []
  | .literal text :: rest =>
    match joinLiterals rest with
    | .literal more :: rest => .literal (text ++ more) :: rest
    | rest => .literal text :: rest
  | expr :: rest => expr :: joinLiterals rest

/-- Expressions one after the other. -/
def inSequence (exprs : List Expr) : Expr :=
  match joinLiterals (exprs.flatMap parts) with
  | [] => .empty
  | [expr] => expr
  | exprs => .sequence exprs

/-- The branches of an expression in an alternation. -/
def branches : Expr → List Expr
  | .alternation branches => branches
  | expr => [expr]

/-- The characters of an expression that matches single ones of them. -/
def singles? : Expr → Option (List (Nat × Nat))
  | .set ranges => some ranges
  | .literal [c] => some [(c.toNat, c.toNat)]
  | _ => none

/-- The parts of a sequence. -/
def sequenceParts? : Expr → Option (List Expr)
  | .sequence parts => some parts
  | _ => none

/-- Number of first parts that two sequences share. -/
def sharedCount : List Expr → List Expr → Nat
  | part :: parts, other :: others => if part == other then sharedCount parts others + 1 else 0
  | _, _ => 0

/-- The first parts that all branches share, which have to be sequences, and what comes after
    them. -/
def sharedParts? (branches : List Expr) : Option (List Expr × List (List Expr)) := do
  let sequences ← branches.mapM sequenceParts?
  let first ← sequences.head?
  let count := sequences.foldl (fun count parts => min count (sharedCount first parts)) first.length
  guard (0 < count)
  return (first.take count, sequences.map (·.drop count))

/-- Number of nodes. -/
def nodeCount : Expr → Nat
  | .repetition _ _ _ body | .capture _ body => body.nodeCount + 1
  | .sequence exprs | .alternation exprs => total (exprs.map nodeCount) + 1
  | _ => 1

/-- One of several expressions.  Parts that all of them begin with are taken out in front, at most
    as many times as given. -/
def oneOfWithin : Nat → List Expr → Expr
  | steps, exprs =>
    let flat := exprs.flatMap branches
    match flat, flat.mapM singles? with
    | [], _ => .set []
    | [expr], _ => expr
    | _, some ranges => ofSet (CharSet.normalize ranges.flatten)
    | _, none =>
      match steps, sharedParts? flat with
      | steps + 1, some (shared, rests) =>
        inSequence (shared ++ [oneOfWithin steps (rests.map inSequence)])
      | _, _ => .alternation flat

/-- One of several expressions.  Each time something is taken out there are fewer nodes left. -/
def oneOf (exprs : List Expr) : Expr := oneOfWithin (total (exprs.map nodeCount)) exprs

end Expr

end Pattern

end SlotTalk
