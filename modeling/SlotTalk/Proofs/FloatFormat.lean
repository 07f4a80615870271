import Mathlib
import SlotTalk.Number

namespace SlotTalk

/-!
# Floats of sixty-four bits

What the operations on floats are in the logic: the bits are unpacked into a sign, a mantissa and an
exponent, and what an operation makes of these is packed again.

* `FloatFormat.SameNumber`, `compare_eq_iff`, `compareFloats_eq_iff` — which floats are equal.
* `FloatFormat.Fields`, `ofFloat_eq_denoted` — what the bits stand for, which is the exact value
  that `Binary64.ofFloat` takes a float apart to.
* `canonical_of_float` — no two pairs of mantissa and exponent stand for the same float.
* `unpack_pack_normal`, `pack_beyond` — what a number is once it was packed.
-/

open Float.Model (UnpackedFloat Format)
open Float.Model.UnpackedFloat

namespace FloatFormat

/-! ### Equal floats -/

variable {u v w : UnpackedFloat}

/-- The number is zero, with whatever sign. -/
def IsZero (u : UnpackedFloat) : Prop := ∃ sign, u = .zero sign

/-- Two floats are the same number: none of them is NaN, and they are the same or both zero. -/
structure SameNumber (u v : UnpackedFloat) : Prop where
  number : u ≠ .notANumber
  same : u = v ∨ IsZero u ∧ IsZero v

namespace SameNumber

theorem refl (number : u ≠ .notANumber) : SameNumber u u := ⟨number, .inl rfl⟩

theorem symm (same : SameNumber u v) : SameNumber v u := by
  obtain ⟨number, rfl | ⟨zero, ⟨sign, rfl⟩⟩⟩ := same
  · exact ⟨number, .inl rfl⟩
  · exact ⟨nofun, .inr ⟨⟨sign, rfl⟩, zero⟩⟩

theorem trans (first : SameNumber u v) (second : SameNumber v w) : SameNumber u w := by
  obtain ⟨number, rfl | ⟨zero, middle⟩⟩ := first
  · exact second
  · obtain ⟨-, rfl | ⟨-, last⟩⟩ := second
    · exact ⟨number, .inr ⟨zero, middle⟩⟩
    · exact ⟨number, .inr ⟨zero, last⟩⟩

end SameNumber

/-- Floats compare as equal just if they are the same number. -/
theorem compare_eq_iff : u.compare v = some .eq ↔ SameNumber u v := by
  have equal : u.beq v = true ↔ u.compare v = some .eq := by rw [UnpackedFloat.beq, beq_iff_eq]
  rw [← equal, beq_iff_ne_notANumber_and_eq]
  constructor
  · rintro ⟨number, -, rfl | ⟨rfl, rfl⟩ | ⟨rfl, rfl⟩⟩
    · exact .refl number
    · exact ⟨number, .inr ⟨⟨_, rfl⟩, ⟨_, rfl⟩⟩⟩
    · exact ⟨number, .inr ⟨⟨_, rfl⟩, ⟨_, rfl⟩⟩⟩
  · rintro ⟨number, rfl | ⟨⟨s, rfl⟩, ⟨t, rfl⟩⟩⟩
    · exact ⟨number, number, .inl rfl⟩
    · cases s <;> cases t <;> simp

section Floats

variable {x y : Float}

theorem lt_iff_compare : x < y ↔ x.toModel.unpack.compare y.toModel.unpack = some .lt := by
  show decide (x.toModel.unpack.lt y.toModel.unpack = true) = true ↔ _
  rw [decide_eq_true_eq, UnpackedFloat.lt, beq_iff_eq]

theorem le_iff_compare :
    x ≤ y ↔ ∃ order, x.toModel.unpack.compare y.toModel.unpack = some order
      ∧ order.isLE = true := by
  show decide (x.toModel.unpack.le y.toModel.unpack = true) = true ↔ _
  rw [decide_eq_true_eq, UnpackedFloat.le, Option.any_eq_true]

/-- Floats are equal just if they are the same number. -/
theorem beq_iff_sameNumber : (x == y) = true ↔ SameNumber x.toModel.unpack y.toModel.unpack := by
  show (x.toModel.unpack.compare y.toModel.unpack == some .eq) = true ↔ _
  rw [beq_iff_eq, compare_eq_iff]

/-- Two floats compare as equal among programs just if they are the same number. -/
theorem compareFloats_eq_iff :
    Number.compareFloats x y = some .eq ↔ SameNumber x.toModel.unpack y.toModel.unpack := by
  constructor
  · intro same
    rw [Number.compareFloats] at same
    split at same
    · exact nomatch same
    · split at same
      · exact nomatch same
      · split at same
        next here => exact beq_iff_sameNumber.mp here
        next => exact nomatch same
  · intro same
    have forth := compare_eq_iff.mpr same
    have back := compare_eq_iff.mpr same.symm
    rw [Number.compareFloats, if_neg, if_neg, if_pos (beq_iff_sameNumber.mpr same)]
    · rw [lt_iff_compare, back]
      exact nofun
    · rw [lt_iff_compare, forth]
      exact nofun

end Floats

/-! ### Fields of the bits -/

/-- The sign is a minus. -/
def isNegative : Sign → Bool
  | .negative => true
  | .positive => false

/-- The exact value of a float. -/
def denoted : UnpackedFloat → Binary64
  | .notANumber => .nan
  | .infinity sign => .infinite (isNegative sign)
  | .zero sign => .finite (isNegative sign) 0 Binary64.leastExponent
  | .finite sign mantissa exponent _ => .finite (isNegative sign) mantissa exponent

section Fields

variable (bits : BitVec 64)

/-- The sign in the bits. -/
def signField : Sign := .ofBitVec (@unpackSign Format.binary64 bits)

/-- The exponent in the bits. -/
def exponentField : Nat := (@unpackExponent Format.binary64 bits).toNat

/-- The fraction in the bits. -/
def fractionField : Nat := (@unpackMantissa Format.binary64 bits).toNat

theorem fractionField_eq : fractionField bits = bits.toNat % twoTo 52 := rfl

theorem exponentField_eq : exponentField bits = bits.toNat / twoTo 52 % twoTo 11 := by
  show (bits.toNat >>> 52) % 2 ^ 11 = bits.toNat / 2 ^ 52 % 2 ^ 11
  rw [Nat.shiftRight_eq_div_pow]

theorem isNegative_signField : isNegative (signField bits) = (bits.toNat / twoTo 63 == 1) := by
  have bit : (@unpackSign Format.binary64 bits).toNat = bits.toNat / 2 ^ 63 := by
    have bound := bits.isLt
    show (bits.toNat >>> 63) % 2 ^ 1 = bits.toNat / 2 ^ 63
    rw [Nat.shiftRight_eq_div_pow]
    omega
  show _ = (bits.toNat / 2 ^ 63 == 1)
  rw [← bit, signField, Sign.ofBitVec]
  by_cases plus : @unpackSign Format.binary64 bits = 0#1
  · rw [if_pos plus, plus]
    rfl
  · have minus : @unpackSign Format.binary64 bits = 1#1 := by
      refine BitVec.eq_of_toNat_eq ?_
      have small := (@unpackSign Format.binary64 bits).isLt
      have nonzero : (@unpackSign Format.binary64 bits).toNat ≠ 0 :=
        fun zero => plus (BitVec.eq_of_toNat_eq zero)
      show _ = 1
      omega
    rw [if_neg plus, minus]
    rfl

/-- What the three fields of the bits stand for. -/
inductive Fields : UnpackedFloat → Prop
  | infinity (top : exponentField bits = Binary64.topField) (noFraction : fractionField bits = 0) :
    Fields (.infinity (signField bits))
  | notANumber (top : exponentField bits = Binary64.topField) (fraction : fractionField bits ≠ 0) :
    Fields .notANumber
  | zero (bottom : exponentField bits = 0) (noFraction : fractionField bits = 0) :
    Fields (.zero (signField bits))
  | subnormal {e : Int} (bottom : exponentField bits = 0) (fraction : 0 < fractionField bits)
    (exponent : e = Binary64.leastExponent) :
    Fields (.finite (signField bits) (fractionField bits) e fraction)
  | normal {m : Nat} {e : Int} (notTop : exponentField bits ≠ Binary64.topField)
    (notBottom : exponentField bits ≠ 0) (positive : 0 < m)
    (mantissa : m = fractionField bits + Binary64.normalMantissa)
    (exponent : e = exponentField bits - 1075) :
    Fields (.finite (signField bits) m e positive)

theorem fields_unpack : Fields bits (UnpackedFloat.unpack Format.binary64 bits) := by
  have top : exponentField bits = Binary64.topField
      ↔ @unpackExponent Format.binary64 bits = -1#11 := BitVec.toNat_inj (y := -1#11)
  have bottom : exponentField bits = 0 ↔ @unpackExponent Format.binary64 bits = 0#11 :=
    BitVec.toNat_inj (y := 0#11)
  have noFraction : fractionField bits = 0 ↔ @unpackMantissa Format.binary64 bits = 0#52 :=
    BitVec.toNat_inj (y := 0#52)
  rw [UnpackedFloat.unpack]
  simp only
  split
  next isTop =>
    split
    next isNone => exact .infinity (top.mpr isTop) (noFraction.mpr isNone)
    next isSome => exact .notANumber (top.mpr isTop) fun same => isSome (noFraction.mp same)
  next notTop =>
    split
    next isBottom =>
      split
      next isNone => exact .zero (bottom.mpr isBottom) (noFraction.mpr isNone)
      next isSome =>
        refine .subnormal (bottom.mpr isBottom) _ ?_
        show (exponentField bits : Int) - (((1023 : Nat) : Int) + ((52 : Nat) : Int)) + 1 = -1074
        rw [bottom.mpr isBottom]
        rfl
    next notBottom =>
      refine .normal (fun same => notTop (top.mp same)) (fun same => notBottom (bottom.mp same)) _
        ?_ rfl
      rw [BitVec.toNat_append, ← Nat.shiftLeft_add_eq_or_of_lt (BitVec.isLt _), Nat.add_comm]
      rfl

end Fields

theorem fields_of_float (value : Float) :
    Fields value.toModel.toBits.toBitVec value.toModel.unpack := fields_unpack _

/-- A float taken apart by the engine has the value that it has for arithmetic. -/
theorem ofFloat_eq_denoted (value : Float) :
    Binary64.ofFloat value = denoted value.toModel.unpack := by
  have word : value.toBits.toNat = value.toModel.toBits.toBitVec.toNat := rfl
  rw [Binary64.ofFloat, word]
  simp only [← isNegative_signField, ← exponentField_eq, ← fractionField_eq]
  have fields := fields_of_float value
  revert fields
  generalize value.toModel.unpack = unpacked
  intro fields
  cases fields with
  | infinity top noFraction => rw [if_pos top, if_pos noFraction, denoted]
  | notANumber top fraction => rw [if_pos top, if_neg fraction, denoted]
  | zero bottom noFraction =>
    rw [bottom, noFraction]
    rfl
  | subnormal bottom fraction exponent =>
    rw [bottom, exponent]
    rfl
  | normal notTop notBottom positive mantissa exponent =>
    have same : Binary64.leastExponent
        + ((exponentField value.toModel.toBits.toBitVec - 1 : Nat) : Int)
        = exponentField value.toModel.toBits.toBitVec - 1075 := by
      show (-1074 : Int) + _ = _
      omega
    rw [if_neg notTop, if_neg notBottom, same, denoted, mantissa, exponent]

/-- A float has at most fifty-three bits, and all of them unless it is below the normal range. -/
theorem canonical_of_float {value : Float} {sign : Sign} {m : Nat} {e : Int} {positive : 0 < m}
    (unpacks : value.toModel.unpack = .finite sign m e positive) :
    m < 2 ^ 53 ∧ (2 ^ 52 ≤ m ∨ e = Binary64.leastExponent) := by
  have fields := fields_of_float value
  rw [unpacks] at fields
  have bound : fractionField value.toModel.toBits.toBitVec < 2 ^ 52 := BitVec.isLt _
  have implicit : Binary64.normalMantissa = 2 ^ 52 := rfl
  cases fields with
  | subnormal bottom fraction exponent => exact ⟨by omega, .inr exponent⟩
  | normal notTop notBottom positive mantissa exponent => exact ⟨by omega, .inl (by omega)⟩

/-! ### Packing -/

/-- The mantissa of a float in the normal range, with its highest bit put back. -/
theorem leading_bit_append {m : Nat} (full : m.log2 = 52) :
    (1#1 ++ BitVec.ofNat 52 m).toNat = m := by
  have positive : m ≠ 0 := by
    rintro rfl
    exact nomatch full
  have low := (Nat.le_log2 positive).mp (Nat.le_of_eq full.symm)
  have high : m < 2 ^ 53 := (Nat.log2_lt positive).mp (by omega)
  rw [BitVec.toNat_append, ← Nat.shiftLeft_add_eq_or_of_lt (BitVec.isLt _), BitVec.toNat_ofNat,
    BitVec.toNat_ofNat, Nat.shiftLeft_eq]
  omega

theorem unpack_pack_normal {sign : Sign} {m : Nat} {e : Int} (positive : 0 < m)
    (full : m.log2 = 52) (least : -1074 ≤ e) (most : e ≤ 971) :
    (Float.Model.pack (.finite sign m e positive)).unpack = .finite sign m e positive := by
  obtain ⟨field, sum⟩ : ∃ field : Nat, e + 1075 = field := ⟨(e + 1075).toNat, by omega⟩
  have packed : UnpackedFloat.pack Format.binary64 (.finite sign m e positive)
      = packComponents Format.binary64 sign (BitVec.ofNat 11 field) (BitVec.ofNat 52 m) := by
    have biased : (e + Format.binary64.exponentBias
        + Format.binary64.mantissaBitsWithoutImplicit).toNat = field := by
      show (e + ((1023 : Nat) : Int) + ((52 : Nat) : Int)).toNat = field
      omega
    have bits : m.log2 + 1 = Format.binary64.mantissaBits := by
      show m.log2 + 1 = 53
      omega
    rw [UnpackedFloat.pack]
    simp only [biased]
    rw [if_neg (by show ¬ 2 ^ 11 ≤ field + 1; omega), if_pos bits]
  have fieldOf : (BitVec.ofNat 11 field).toNat = field := by
    rw [BitVec.toNat_ofNat]
    omega
  have notTop : BitVec.ofNat 11 field ≠ -1#11 := by
    intro top
    have same := congrArg BitVec.toNat top
    rw [fieldOf] at same
    have : (-1#11).toNat = 2047 := rfl
    omega
  have notLow : BitVec.ofNat 11 field ≠ 0#11 := by
    intro low
    have same := congrArg BitVec.toNat low
    rw [fieldOf] at same
    have : (0#11).toNat = 0 := rfl
    omega
  show UnpackedFloat.unpack Format.binary64 (UnpackedFloat.pack Format.binary64 _) = _
  rw [packed, UnpackedFloat.unpack]
  simp only [unpackMantissa_packComponents, unpackExponent_packComponents,
    unpackSign_packComponents, Sign.ofBitVec_toBitVec, notTop, notLow, ↓reduceIte]
  congr 1
  · exact leading_bit_append full
  · rw [fieldOf]
    show (field : Int) - (((1023 : Nat) : Int) + ((52 : Nat) : Int)) = e
    omega

theorem pack_beyond {sign : Sign} {m : Nat} {e : Int} (positive : 0 < m) (beyond : 971 < e) :
    Float.Model.pack (.finite sign m e positive) = Float.Model.pack (.infinity sign) := by
  have packed : UnpackedFloat.pack Format.binary64 (.finite sign m e positive)
      = UnpackedFloat.pack Format.binary64 (.infinity sign) := by
    rw [UnpackedFloat.pack]
    refine if_pos ?_
    show 2 ^ 11 ≤ (e + ((1023 : Nat) : Int) + ((52 : Nat) : Int)).toNat + 1
    omega
  simp only [Float.Model.pack, packed]

theorem unpack_pack_infinity (sign : Sign) :
    (Float.Model.pack (.infinity sign)).unpack = .infinity sign := by
  cases sign <;> rfl

end FloatFormat

end SlotTalk
