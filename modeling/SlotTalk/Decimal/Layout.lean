import SlotTalk.Decimal.Shortest

namespace SlotTalk

/-!
# Where the point goes

* `Decimal.positional` — digits with the point in its place, and at least one digit on either side
  of it.
* `Decimal.scientific` — one digit before the point, and a power of ten.
-/

namespace Decimal

/-- Place of the point counted from the first digit: the value is `0.digits · 10 ^ point`. -/
def point (d : Decimal) : Int := d.exponent + width d.digits

/-- Digits written out around the point, `0.05` or `1200.0`. -/
def positional (d : Decimal) : String :=
  let text := toString d.digits
  let place := d.point
  if place ≤ 0 then
    "0." ++ "".pushn '0' (-place).toNat ++ text
  else if d.exponent < 0 then
    let digits := text.toList
    String.ofList (digits.take place.toNat) ++ "." ++ String.ofList (digits.drop place.toNat)
  else
    text.pushn '0' d.exponent.toNat ++ ".0"

/-- One digit, the rest behind the point if there is a rest, and the power of ten: `1.5e-7`. -/
def scientific (d : Decimal) : String :=
  match (toString d.digits).toList with
  | [] => ""
  | first :: [] => s!"{first}e{d.point - 1}"
  | first :: rest => s!"{first}." ++ String.ofList rest ++ s!"e{d.point - 1}"

end Decimal

end SlotTalk
