import SlotTalk.Binary64

namespace SlotTalk

/-!
# The shortest decimal that reads back

A float stands for every real that rounds to it.  Among the decimals in that interval the ones with
the fewest digits are preferred, and among those the nearest to the float.

* `Decimal` — a positive decimal `digits · 10 ^ exponent`.
* `Decimal.shortest` — the preferred decimal of `mantissa · 2 ^ exponent`.

The interval of a float reaches half way to each neighbour; it contains its own ends exactly when
the mantissa is even, because a tie is read to the even mantissa.  Below a power of two the
neighbour is only half as far.
-/

/-- The decimal `digits · 10 ^ exponent`. -/
structure Decimal where
  digits : Nat
  exponent : Int
  deriving DecidableEq, Repr

namespace Decimal

/-- Number of digits of a positive number. -/
def width (n : Nat) : Nat := (Nat.toDigits 10 n).length

/-- Drop the zeros at the end of the digits, at most `bound` of them. -/
def trimZeros : Nat → Decimal → Decimal
  | 0, d => d
  | bound + 1, d =>
    if d.digits % 10 = 0 then trimZeros bound ⟨d.digits / 10, d.exponent + 1⟩ else d

/-- The place of the decimal point of `mantissa · 2 ^ exponent`: the power of ten right above it.
    Scaling by `10 ^ 400` first puts every positive float above one. -/
def pointOf (mantissa : Nat) (exponent : Int) : Int :=
  (width (scaleTwo (mantissa * tenTo 400) exponent) : Int) - 400

/-- The reals that round to `mantissa · 2 ^ exponent`, in quarters of a unit of the mantissa. -/
structure Interval where
  low : Nat
  value : Nat
  high : Nat
  closed : Bool
  exponent : Int

/-- The rounding interval of a positive float. -/
def intervalOf (mantissa : Nat) (exponent : Int) : Interval where
  low :=
    if mantissa = Binary64.normalMantissa ∧ Binary64.leastExponent < exponent then 4 * mantissa - 1
    else 4 * mantissa - 2
  value := 4 * mantissa
  high := 4 * mantissa + 2
  closed := mantissa % 2 == 0
  exponent := exponent - 2

/-- The point of the grid `10 ^ place` that lies in the interval and is nearest to its value; of
    two equally near the upper. -/
def nearestOnGrid? (interval : Interval) (place : Int) : Option Decimal :=
  let grid := tenTo place.toNat * twoTo (-interval.exponent).toNat
  let unit := twoTo interval.exponent.toNat * tenTo (-place).toNat
  let inside (d : Nat) : Bool :=
    if interval.closed then interval.low * unit ≤ d * grid && d * grid ≤ interval.high * unit
    else interval.low * unit < d * grid && d * grid < interval.high * unit
  let value := interval.value * unit
  let below := value / grid
  let above := below + 1
  let lower := 0 < below && inside below
  let upper := inside above
  if lower && (!upper || value - below * grid < above * grid - value) then some ⟨below, place⟩
  else if upper then some ⟨above, place⟩
  else none

/-- Try ever finer grids until one has a point in the interval. -/
def searchGrids (interval : Interval) : Nat → Int → Decimal
  | 0, place => ⟨interval.value, place⟩
  | tries + 1, place =>
    match nearestOnGrid? interval place with
    | some d => d
    | none => searchGrids interval tries (place - 1)

/-- The decimal of fewest digits that reads back as the float, and of those the nearest.  Seventeen
    digits always tell two floats apart. -/
def shortest (mantissa : Nat) (exponent : Int) : Decimal :=
  let interval := intervalOf mantissa exponent
  let found := searchGrids interval 18 (pointOf mantissa exponent - 1)
  trimZeros 20 found

end Decimal

end SlotTalk
