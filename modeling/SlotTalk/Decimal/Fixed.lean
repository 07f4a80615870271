import SlotTalk.Binary64

namespace SlotTalk

/-!
# A fixed number of places

* `Decimal.roundToEven` — the integer nearest to a quotient, a half going to the even neighbour.
* `Decimal.fixed` — the exact value of a float with a given number of places after the point.
-/

namespace Decimal

/-- The integer nearest to `num / den`; a half goes to the even neighbour. -/
def roundToEven (num den : Nat) : Nat :=
  let quotient := num / den
  let rest := num % den
  if den < 2 * rest ∨ (den = 2 * rest ∧ quotient % 2 = 1) then quotient + 1 else quotient

/-- Write `units · 10 ^ (-places)` with every place. -/
def placesText (units places : Nat) : String :=
  if places = 0 then
    toString units
  else
    let fraction := toString (units % tenTo places)
    s!"{units / tenTo places}." ++ "".pushn '0' (places - fraction.length) ++ fraction

/-- The number `mantissa · 2 ^ exponent` rounded to `places` places after the point. -/
def fixed (mantissa : Nat) (exponent : Int) (places : Nat) : String :=
  let scaled := mantissa * tenTo places * twoTo exponent.toNat
  placesText (roundToEven scaled (twoTo (-exponent).toNat)) places

end Decimal

end SlotTalk
