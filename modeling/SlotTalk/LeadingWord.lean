import SlotTalk.Powers

namespace SlotTalk

/-!
# Wide integers and their leading word

An integer of more than sixty-four bits is held in words, and becomes a float through its
**leading word**: the sixty-four bits from its highest one on.  What lies below them can move the
rounding by no more than one sticky bit, and only part of it is looked at: as many low bits of each
lower word as the highest word has bits in use.

* `LeadingWord.jam` — the leading word with its sticky bit, in the place of the whole number.
* `LeadingWord.toFloat` — the float next to that.
* `LeadingWord.jam_narrow` — a number that fits a word is its own leading word.
-/

namespace LeadingWord

/-- Bits of a word. -/
def width : Nat := 64

/-- Bits in use in the highest word of a number whose highest bit has the given position. -/
def bitsInUse (top : Nat) : Nat := top % width + 1

/-- One of the lower words has a bit set among the places that are in use in the highest one. -/
def isSticky (n : Nat) : Bool :=
  let top := Nat.log2 n
  (List.range (top / width)).any fun index =>
    n / twoTo (width * index) % twoTo (bitsInUse top) ≠ 0

/-- The number with every bit below its leading word cleared, and the lowest bit of that word set
    if something sticks to it. -/
def jam (n : Nat) : Nat :=
  let below := Nat.log2 n + 1 - width
  if below = 0 then n
  else
    let leading := n / twoTo below
    (if isSticky n then leading ||| 1 else leading) * twoTo below

/-- A number that fits a word is its own leading word. -/
theorem jam_narrow (n : Nat) (h : Nat.log2 n < width) : jam n = n := by
  have : Nat.log2 n + 1 - width = 0 := by omega
  simp [jam, this]

/-- The float next to the leading word of an integer, with the sign of the integer. -/
def toFloat (n : Int) : Float :=
  Float.ofInt (if n < 0 then -(jam n.natAbs : Int) else jam n.natAbs)

end LeadingWord

end SlotTalk
