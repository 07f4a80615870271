import SlotTalk.Pattern.CharSet

namespace SlotTalk

/-!
# Characters as bytes

* `Pattern.encode` — the bytes of a character in UTF-8.
* `Pattern.byteRanges` — a range of characters as sequences of ranges of bytes: a character is in
  the range if and only if its bytes are in the ranges of one of the sequences.
* `Pattern.RangeTrie` — several such sequences; those that begin with the same ranges share them.
-/

namespace Pattern

/-- The bytes of a character with the given code. -/
def encode (code : Nat) : List Nat :=
  let tail (shift : Nat) : Nat := 0x80 + code / shift % 64
  if code ≤ 0x7f then [code]
  else if code ≤ 0x7ff then [0xc0 + code / 64, tail 1]
  else if code ≤ 0xffff then [0xe0 + code / 4096, tail 64, tail 1]
  else [0xf0 + code / 262144, tail 4096, tail 64, tail 1]

/-- A range of codes, cut where a block of the given size ends or begins: the last code before the
    cut, if both ends of the range are in different blocks and one of them is not an end of its
    block. -/
def blockCut? (first last size : Nat) : Option Nat :=
  if first / size = last / size then none
  else if first % size ≠ 0 then some (first / size * size + (size - 1))
  else if last % size ≠ size - 1 then some (last / size * size - 1)
  else none

/-- Where a range is cut in two before its bytes can be given as one sequence of ranges: the last
    code of its first part. -/
def cut? (first last : Nat) : Option Nat :=
  -- characters on either side of these codes have different numbers of bytes
  let ends := [0x7f, 0x7ff, 0xffff].find? fun stop => first ≤ stop && stop < last
  if 0x7f < last then
    -- a byte ranges freely only if all bytes after it go through all that they can be
    ends <|> blockCut? first last 64 <|> blockCut? first last 4096 <|> blockCut? first last 262144
  else none

/-- A range of codes as sequences of ranges of bytes, in order.  The range has no surrogates. -/
def byteRanges (first last : Nat) : List (List (Nat × Nat)) :=
  match cut? first last with
  | some stop =>
    if _ : first ≤ stop ∧ stop < last then byteRanges first stop ++ byteRanges (stop + 1) last
    else [(encode first).zip (encode last)]
  | none => [(encode first).zip (encode last)]
termination_by last - first

/-- The sequences of a range that may go over the gap of the surrogates. -/
def charRanges (range : Nat × Nat) : List (List (Nat × Nat)) :=
  if range.1 < 0xd800 && 0xdfff < range.2 then
    byteRanges range.1 0xd7ff ++ byteRanges 0xe000 range.2
  else byteRanges range.1 range.2

/-- Sequences of ranges; those that begin with the same ranges share them.  A node is its branches,
    and a node without branches is the end of a sequence. -/
inductive RangeTrie where
  | leaf
  | branch (range : Nat × Nat) (below others : RangeTrie)
  deriving DecidableEq, Repr

namespace RangeTrie

/-- The trie of a single sequence. -/
def single : List (Nat × Nat) → RangeTrie
  | [] => .leaf
  | range :: ranges => .branch range (single ranges) .leaf

/-- A trie with one more sequence.  Only the last branch of a node can begin like it. -/
def insert : RangeTrie → List (Nat × Nat) → RangeTrie
  | trie, [] => trie
  | .leaf, ranges => single ranges
  | .branch last below .leaf, range :: ranges =>
    if last = range then .branch last (below.insert ranges) .leaf
    else .branch last below (single (range :: ranges))
  | .branch first below others, ranges => .branch first below (others.insert ranges)

/-- The trie of the bytes of all characters of a set. -/
def ofRanges (ranges : List (Nat × Nat)) : RangeTrie :=
  (ranges.flatMap charRanges).foldl insert .leaf

/-- Number of branches of the node at the top. -/
def width : RangeTrie → Nat
  | .leaf => 0
  | .branch _ _ others => others.width + 1

/-- Number of branches of all nodes. -/
def branchCount : RangeTrie → Nat
  | .leaf => 0
  | .branch _ below others => below.branchCount + others.branchCount + 1

/-- Number of sequences. -/
def sequenceCount : RangeTrie → Nat
  | .leaf => 0
  | .branch _ below others =>
    (if below = .leaf then 1 else below.sequenceCount) + others.sequenceCount

/-- The nodes with branches below the one at the top, with repetitions. -/
def nodesBelow : RangeTrie → List RangeTrie
  | .leaf => []
  | .branch _ below others =>
    (if below = .leaf then [] else below :: below.nodesBelow) ++ others.nodesBelow

end RangeTrie

end Pattern

end SlotTalk
