namespace SlotTalk

/-!
# Powers of two and of ten

* `twoTo`, `tenTo` — the powers that floats and decimals are made of (`twoTo_pos`).
* `scaleTwo` — a number times a power of two, rounded down.
-/

/-- A power of two. -/
def twoTo (exponent : Nat) : Nat := Nat.pow 2 exponent

/-- The number `n · 2 ^ exponent`, rounded down to a whole one. -/
def scaleTwo (n : Nat) (exponent : Int) : Nat :=
  if 0 ≤ exponent then n * twoTo exponent.toNat else n / twoTo (-exponent).toNat

/-- A power of ten. -/
def tenTo (exponent : Nat) : Nat := Nat.pow 10 exponent

@[simp] theorem twoTo_zero : twoTo 0 = 1 := rfl

theorem twoTo_succ (exponent : Nat) : twoTo (exponent + 1) = twoTo exponent * 2 := rfl

theorem twoTo_pos (exponent : Nat) : 0 < twoTo exponent := by
  induction exponent with
  | zero => decide
  | succ exponent ih => rw [twoTo_succ]; omega

end SlotTalk
