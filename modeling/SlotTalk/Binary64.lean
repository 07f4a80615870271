import SlotTalk.Powers

namespace SlotTalk

/-!
# Floats taken apart

Everything the engine decides about a float beyond the four operations of the hardware is decided
on its exact value, a sign and a product `mantissa · 2 ^ exponent`.

* `Binary64.ofFloat` — the exact value behind the sixty-four bits.
* `Binary64.floor?`, `Binary64.exactInt?` — the greatest integer that is not above it, and the
  integer it is (`size_of_exactInt?`).
* `Binary64.remainder` — the remainder of a division that is rounded toward zero, which is always a
  float again.
-/

/-- A float as the number it denotes.  The zero that carries a minus sign is
    `finite true 0 _`, and is kept apart from the plain one. -/
inductive Binary64 where
  | nan
  | infinite (negative : Bool)
  | finite (negative : Bool) (mantissa : Nat) (exponent : Int)
  deriving DecidableEq, Repr

namespace Binary64

/-- Exponent of the smallest positive float, and of all that are below the normal range. -/
def leastExponent : Int := -1074

/-- Mantissa from which on a float is in the normal range. -/
def normalMantissa : Nat := twoTo 52

/-- Exponent field shared by the infinities and the NaNs. -/
def topField : Nat := 2047

/-- The value held in the three fields of the bits: sign, eleven bits of exponent, fraction. -/
def ofFloat (value : Float) : Binary64 :=
  let bits := value.toBits.toNat
  let negative := bits / twoTo 63 == 1
  let field := bits / twoTo 52 % twoTo 11
  let fraction := bits % twoTo 52
  if field = topField then
    if fraction = 0 then .infinite negative else .nan
  else if field = 0 then
    .finite negative fraction leastExponent
  else
    .finite negative (fraction + normalMantissa) (leastExponent + (field - 1 : Nat))

/-- Assemble the bits from the three fields. -/
def pack (negative : Bool) (field fraction : Nat) : Float :=
  Float.ofBits (UInt64.ofNat ((if negative then twoTo 63 else 0) + field * twoTo 52 + fraction))

/-- The float `± mantissa · 2 ^ exponent`, for a product that is one: moving the mantissa to
    fifty-three bits, or to the least exponent, then drops no set bit. -/
def toFloat (negative : Bool) (mantissa : Nat) (exponent : Int) : Float :=
  if mantissa = 0 then
    pack negative 0 0
  else
    let wanted := max leastExponent (exponent + Nat.log2 mantissa - 52)
    let moved := scaleTwo mantissa (exponent - wanted)
    if moved < normalMantissa then
      pack negative 0 moved
    else
      pack negative (wanted - leastExponent + 1).toNat (moved - normalMantissa)

/-- Apply the sign to a size. -/
def signed (negative : Bool) (size : Nat) : Int :=
  if negative then -(size : Int) else size

/-- The size with its sign is the integer. -/
theorem signed_natAbs (n : Int) : signed (decide (n < 0)) n.natAbs = n := by
  by_cases negative : n < 0
  · simp only [signed, negative, decide_true, ↓reduceIte]
    omega
  · simp only [signed, negative, decide_false, Bool.false_eq_true, ↓reduceIte]
    omega

theorem natAbs_signed (negative : Bool) (size : Nat) : (signed negative size).natAbs = size := by
  cases negative with
  | false => exact Int.natAbs_natCast size
  | true => exact (Int.natAbs_neg _).trans (Int.natAbs_natCast size)

/-- The greatest integer that is not above the value; `none` off the finite range. -/
def floor? : Binary64 → Option Int
  | .finite negative mantissa exponent =>
    some <|
      if 0 ≤ exponent then signed negative (mantissa * twoTo exponent.toNat)
      else Int.fdiv (signed negative mantissa) (twoTo (-exponent).toNat)
  | _ => none

/-- The integer that the value is, if it is one. -/
def exactInt? : Binary64 → Option Int
  | .finite negative mantissa exponent =>
    if 0 ≤ exponent then
      some (signed negative (mantissa * twoTo exponent.toNat))
    else if mantissa % twoTo (-exponent).toNat = 0 then
      some (signed negative (mantissa / twoTo (-exponent).toNat))
    else
      none
  | _ => none

/-- What denotes an integer has a mantissa that, shifted by the exponent, is the size of that
    integer. -/
theorem size_of_exactInt? {negative : Bool} {m : Nat} {e n : Int}
    (denotes : (finite negative m e).exactInt? = some n) :
    ∃ size, n = signed negative size ∧ (0 ≤ e → size = m * twoTo e.toNat)
      ∧ (e < 0 → m = size * twoTo (-e).toNat) := by
  rw [exactInt?] at denotes
  by_cases whole : 0 ≤ e
  · rw [if_pos whole] at denotes
    exact ⟨_, (Option.some.inj denotes).symm, fun _ => rfl, fun part => by omega⟩
  · rw [if_neg whole] at denotes
    by_cases divides : m % twoTo (-e).toNat = 0
    · rw [if_pos divides] at denotes
      have product := Nat.div_mul_cancel (Nat.dvd_of_mod_eq_zero divides)
      exact ⟨_, (Option.some.inj denotes).symm, fun integral => absurd integral whole,
        fun _ => product.symm⟩
    · rw [if_neg divides] at denotes
      cases denotes

/-- Neither infinite nor NaN. -/
def isFinite : Binary64 → Bool
  | .finite .. => true
  | _ => false

/-- A quiet NaN. -/
def nanFloat : Float := Float.ofBits 0x7ff8000000000000

/-- The remainder `x - n · y` for the quotient `n` rounded toward zero.  It takes the sign of `x`,
    also when it is zero; an infinite `y` leaves `x` as it is, and where no quotient exists the
    answer is NaN. -/
def remainder (x y : Float) : Float :=
  match ofFloat x, ofFloat y with
  | .finite negative m p, .finite _ n q =>
    if n = 0 then nanFloat
    else
      let common := min p q
      let rest := scaleTwo m (p - common) % scaleTwo n (q - common)
      toFloat negative rest common
  | .finite .., .infinite _ => x
  | _, _ => nanFloat

end Binary64

end SlotTalk
