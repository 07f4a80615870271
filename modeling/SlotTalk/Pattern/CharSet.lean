namespace SlotTalk

/-!
# Sets of characters

A set is kept as ranges of codes: in order, without overlaps, and with gaps between them.

* `Pattern.CharSet` — the set, with `union`, `inter`, `diff` and `complement`.
* `CharSet.withBothCases` — the ASCII letters in either case.
-/

namespace Pattern

/-- What the members of a set are. -/
inductive Alphabet where
  /-- The codes up to 255. -/
  | bytes
  /-- The codes of characters, which leave a gap for the surrogates. -/
  | characters
  deriving DecidableEq, Repr

/-- The highest code of an alphabet. -/
def Alphabet.top : Alphabet → Nat
  | .bytes => 0xff
  | .characters => 0x10ffff

/-- A set of codes. -/
structure CharSet where
  /-- The ranges, with both ends included. -/
  ranges : List (Nat × Nat) := []
  /-- It is known that each letter of the set is in it in either case. -/
  closed : Bool := ranges.isEmpty
  deriving DecidableEq, Repr

namespace CharSet

/-- Join ranges in the order of their first codes: overlapping ones and neighbours are one range. -/
def join (first last : Nat) : List (Nat × Nat) → List (Nat × Nat)
  | [] => [(first, last)]
  | (nextFirst, nextLast) :: ranges =>
    if nextFirst ≤ last + 1 then join first (max last nextLast) ranges
    else (first, last) :: join nextFirst nextLast ranges

/-- Ranges in any order as the ranges of a set. -/
def normalize (ranges : List (Nat × Nat)) : List (Nat × Nat) :=
  match ranges.mergeSort fun range other => range.1 ≤ other.1 with
  | [] => []
  | (first, last) :: rest => join first last rest

/-- The set of the given ranges. -/
def ofRanges (ranges : List (Nat × Nat)) : CharSet := { ranges := normalize ranges }

/-- The set holds a code. -/
def contains (set : CharSet) (code : Nat) : Bool :=
  set.ranges.any fun (first, last) => first ≤ code && code ≤ last

/-- The set with one more range. -/
def insert (set : CharSet) (first last : Nat) : CharSet :=
  { ranges := normalize (set.ranges ++ [(first, last)]), closed := false }

/-- What is in either set. -/
def union (set other : CharSet) : CharSet :=
  if other.ranges.isEmpty || set.ranges = other.ranges then set
  else { ranges := normalize (set.ranges ++ other.ranges), closed := set.closed && other.closed }

/-- What two ranges share. -/
def overlap? (range other : Nat × Nat) : Option (Nat × Nat) :=
  let first := max range.1 other.1
  let last := min range.2 other.2
  if first ≤ last then some (first, last) else none

/-- What is in both sets. -/
def inter (set other : CharSet) : CharSet :=
  if set.ranges.isEmpty then set
  else if other.ranges.isEmpty then {}
  else
    { ranges := set.ranges.flatMap fun range => other.ranges.filterMap (overlap? range)
      closed := set.closed && other.closed }

/-- The gaps between ranges, from a code up to the top. -/
def gaps (next top : Nat) : List (Nat × Nat) → List (Nat × Nat)
  | [] => if next ≤ top then [(next, top)] else []
  | (first, last) :: ranges =>
    (if next < first then [(next, first - 1)] else []) ++ gaps (last + 1) top ranges

/-- A range without surrogates at its ends, unless it has none but these. -/
def withoutSurrogates? (range : Nat × Nat) : Option (Nat × Nat) :=
  let isSurrogate (code : Nat) : Bool := 0xd800 ≤ code && code ≤ 0xdfff
  let first := if isSurrogate range.1 then 0xe000 else range.1
  let last := if isSurrogate range.2 then 0xd7ff else range.2
  if first ≤ last then some (first, last) else none

/-- What is not in the set. -/
def complement (alphabet : Alphabet) (set : CharSet) : CharSet :=
  { ranges := (gaps 0 alphabet.top set.ranges).filterMap withoutSurrogates?
    closed := set.closed }

/-- What is in the first set alone. -/
def diff (alphabet : Alphabet) (set other : CharSet) : CharSet :=
  if set.ranges.isEmpty || other.ranges.isEmpty then set
  else set.inter (other.complement alphabet)

/-- What is in one of the sets alone. -/
def symmDiff (alphabet : Alphabet) (set other : CharSet) : CharSet :=
  (set.union other).diff alphabet (set.inter other)

/-- Every code is one of ASCII. -/
def isAscii (set : CharSet) : Bool := set.ranges.all fun range => range.2 ≤ 0x7f

/-- The part of a range within another one, moved up or down. -/
def moved (first last : Nat) (move : Nat → Nat) (range : Nat × Nat) : Option (Nat × Nat) :=
  (overlap? range (first, last)).map fun shared => (move shared.1, move shared.2)

/-- The set with the ASCII letters of the other case. -/
def withBothCases (set : CharSet) : CharSet :=
  if set.closed then set
  else
    let upper := set.ranges.filterMap (moved 0x61 0x7a (· - 0x20))
    let lower := set.ranges.filterMap (moved 0x41 0x5a (· + 0x20))
    { ranges := normalize (set.ranges ++ upper ++ lower), closed := true }

end CharSet

end Pattern

end SlotTalk
