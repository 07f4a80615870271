namespace SlotTalk

/-!
# Tries of literals

The literals of an alternation are told apart byte by byte in the order of preference: where one
ends, those that are put in later branch off anew, although an earlier one may go on like them.

* `Pattern.LiteralTrie` — the trie, with `insert`.
-/

namespace Pattern

/-- Literals by their bytes.  A node is its branches and the ends of literals, latest first. -/
inductive LiteralTrie where
  | empty
  | branch (byte : Nat) (below earlier : LiteralTrie)
  | ended (earlier : LiteralTrie)
  deriving DecidableEq, Repr

namespace LiteralTrie

/-- Change what is below the branch of a byte, or put one in.  Branches before the last end of a
    literal stay as they are. -/
def alter (byte : Nat) (change : LiteralTrie → LiteralTrie) : LiteralTrie → LiteralTrie
  | .empty => .branch byte (change .empty) .empty
  | .ended earlier => .branch byte (change .empty) (.ended earlier)
  | .branch other below earlier =>
    if other = byte then .branch byte (change below) earlier
    else .branch other below (earlier.alter byte change)

/-- A trie with one more literal.  Where nothing branches off, one end is enough. -/
def insert : List Nat → LiteralTrie → LiteralTrie
  | [], trie => if trie = .ended .empty then trie else .ended trie
  | byte :: bytes, trie => trie.alter byte (insert bytes)

/-- The trie of literals. -/
def ofLiterals (literals : List (List Nat)) : LiteralTrie :=
  literals.foldl (fun trie literal => trie.insert literal) .empty

/-- Number of branches of the node at the top, in groups with an end of a literal between any
    two. -/
def groupSizes : LiteralTrie → List Nat
  | .empty => [0]
  | .ended earlier => 0 :: earlier.groupSizes
  | .branch _ _ earlier =>
    match earlier.groupSizes with
    | [] => [1]
    | size :: sizes => (size + 1) :: sizes

/-- The nodes below the one at the top. -/
def nodesBelow : LiteralTrie → List LiteralTrie
  | .empty => []
  | .ended earlier => earlier.nodesBelow
  | .branch _ below earlier => below :: below.nodesBelow ++ earlier.nodesBelow

end LiteralTrie

end Pattern

end SlotTalk
