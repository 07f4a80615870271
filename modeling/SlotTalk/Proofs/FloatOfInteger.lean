import Mathlib.Tactic.Ring
import SlotTalk.Proofs.FloatFormat

namespace SlotTalk

/-!
# Floats of integers

An integer of less than fifty-four bits becomes the float that denotes it.  A wider one is rounded,
and becomes a float with a positive exponent, or an infinity.

* `FloatFormat.roundWithAccuracy_exact`, `roundWithAccuracy_long` — rounding of a product that has
  fifty-three bits, and of one that has more.
* `FloatFormat.Converted` — the float of an integer, in three ranges of size.
* `converted_ofInt`, `converted_toFloat` — all integers, and also by way of their leading word.
* `Converted.eq_or_large` — only wide integers share their float with others.
* `Converted.sameNumber_iff_exactInt?` — no other float denotes an integer that is not wide.
-/

open Float.Model (UnpackedFloat Format totalExponent)
open Float.Model.UnpackedFloat

namespace FloatFormat

/-! ### Rounding -/

theorem shift_mantissa (extended : ExtendedMantissa) (count : Nat) :
    (extended >>> count).mantissa = extended.mantissa / 2 ^ count := by
  induction count with
  | zero => exact (Nat.div_one _).symm
  | succ count ih =>
    show (extended >>> count).mantissa / 2 = _
    rw [ih, Nat.div_div_eq_div_mul, Nat.pow_succ]

/-- Bits that are zero are shifted out without a trace. -/
theorem shift_exact (m count : Nat) :
    (ExtendedMantissa.mk (m * 2 ^ count) false false) >>> count = ⟨m, false, false⟩ := by
  induction count generalizing m with
  | zero => rw [Nat.pow_zero, Nat.mul_one]; rfl
  | succ count ih =>
    have regrouped : m * 2 ^ (count + 1) = 2 * m * 2 ^ count := by
      rw [Nat.pow_succ]
      ring
    show ((ExtendedMantissa.mk (m * 2 ^ (count + 1)) false false) >>> count).shiftRightOne = _
    rw [regrouped, ih]
    simp [ExtendedMantissa.shiftRightOne]

theorem roundedMantissa_bounds (extended : ExtendedMantissa) :
    extended.mantissa ≤ extended.roundedMantissa
      ∧ extended.roundedMantissa ≤ extended.mantissa + 1 := by
  obtain ⟨m, roundBit, stickyBit⟩ := extended
  cases roundBit <;> cases stickyBit
  case true.false =>
    show m ≤ m + m % 2 ∧ m + m % 2 ≤ m + 1
    omega
  case true.true => exact ⟨Nat.le_succ m, Nat.le_refl _⟩
  all_goals exact ⟨Nat.le_refl m, Nat.le_succ m⟩

theorem targetExponent_eq {m : Nat} {e : Int} (least : -1074 ≤ m.log2 + e - 52) :
    Format.binary64.targetExponent (totalExponent m e) = m.log2 + e - 52 := by
  show max ((m.log2 : Int) + 1 + e - ((53 : Nat) : Int)) (-1074) = _
  omega

/-- What is shifted to its fifty-three bits. -/
theorem shiftToTargetExponent_eq {m : Nat} {e : Int} (least : -1074 ≤ m.log2 + e - 52) :
    shiftToTargetExponent Format.binary64 m e .exact
      = (ExtendedMantissa.mk m false false >>> (m.log2 - 52), e + (m.log2 - 52 : Nat)) := by
  have amount : ((m.log2 : Int) + e - 52 - e).toNat = m.log2 - 52 := by omega
  rw [shiftToTargetExponent, targetExponent_eq least, shiftToExponent]
  simp only [amount]
  rfl

/-- A mantissa of fifty-three bits stays what it is. -/
theorem shiftToTargetExponent_of_full {m : Nat} {e : Int} (full : m.log2 = 52)
    (least : -1074 ≤ e) :
    shiftToTargetExponent Format.binary64 m e .exact = (⟨m, false, false⟩, e) := by
  rw [shiftToTargetExponent_eq (by omega), full]
  exact congrArg (Prod.mk _) (Int.add_zero e)

theorem log2_mul_two_pow {m : Nat} (positive : m ≠ 0) (count : Nat) :
    (m * 2 ^ count).log2 = m.log2 + count := by
  induction count with
  | zero => simp
  | succ count ih =>
    have product : m * 2 ^ count ≠ 0 :=
      Nat.mul_ne_zero positive (Nat.ne_of_gt (Nat.two_pow_pos count))
    rw [Nat.pow_succ, ← Nat.mul_assoc, Nat.mul_comm _ 2, Nat.log2_two_mul product, ih]
    rfl

/-- Rounding gives up zero bits only, if there are no others beyond the fifty-three. -/
theorem roundWithAccuracy_exact {sign : Sign} {m count : Nat} {e : Int} (positive : 0 < m)
    (full : m.log2 = 52) (least : -1074 ≤ e) :
    roundWithAccuracy Format.binary64 sign (m * 2 ^ count) (e - count) .exact
      = .finite sign m e positive := by
  have log2 := log2_mul_two_pow (Nat.ne_of_gt positive) count
  have shifted : shiftToTargetExponent Format.binary64 (m * 2 ^ count) (e - count) .exact
      = (⟨m, false, false⟩, e) := by
    have amount : (m * 2 ^ count).log2 - 52 = count := by omega
    rw [shiftToTargetExponent_eq (by omega), amount, shift_exact]
    exact congrArg (Prod.mk _) (by omega)
  have again : shiftToTargetExponent Format.binary64
      (ExtendedMantissa.mk m false false).roundedMantissa e .exact = (⟨m, false, false⟩, e) :=
    shiftToTargetExponent_of_full full least
  rw [roundWithAccuracy, shifted]
  simp only [again]
  exact dif_neg (Nat.ne_of_gt positive)

/-- A number with more bits is rounded to fifty-three of them, and its exponent does not become
    smaller. -/
theorem roundWithAccuracy_long {sign : Sign} {m : Nat} {e : Int} (long : 52 ≤ m.log2)
    (least : -1074 ≤ m.log2 + e - 52) :
    ∃ rounded exponent positive,
      roundWithAccuracy Format.binary64 sign m e .exact = .finite sign rounded exponent positive
        ∧ rounded.log2 = 52 ∧ m.log2 + e - 52 ≤ exponent := by
  have positive : m ≠ 0 := by
    rintro rfl
    exact absurd long (by decide)
  obtain ⟨count, length⟩ := Nat.exists_eq_add_of_le long
  have low := (Nat.le_log2 positive).mp (Nat.le_of_eq length.symm)
  have high := (Nat.log2_lt positive).mp (Nat.lt_succ_of_le (Nat.le_of_eq length))
  have bounds : m / 2 ^ count ≤ (ExtendedMantissa.mk m false false >>> count).roundedMantissa
      ∧ (ExtendedMantissa.mk m false false >>> count).roundedMantissa ≤ m / 2 ^ count + 1 := by
    have bounds := roundedMantissa_bounds (ExtendedMantissa.mk m false false >>> count)
    rwa [shift_mantissa] at bounds
  have amount : m.log2 - 52 = count := by omega
  rw [roundWithAccuracy, shiftToTargetExponent_eq least, amount]
  simp only
  generalize (ExtendedMantissa.mk m false false >>> count).roundedMantissa = rounded at bounds ⊢
  have wide : 2 ^ 52 ≤ m / 2 ^ count := by
    rw [Nat.le_div_iff_mul_le (Nat.two_pow_pos count), ← Nat.pow_add]
    exact low
  have fitting : m / 2 ^ count < 2 ^ 53 := by
    rw [Nat.div_lt_iff_lt_mul (Nat.two_pow_pos count), ← Nat.pow_add]
    exact Nat.lt_of_lt_of_eq high (congrArg (2 ^ ·) (by omega))
  by_cases fits : rounded < 2 ^ 53
  · have full : rounded.log2 = 52 := (Nat.log2_eq_iff (by omega)).mpr ⟨by omega, fits⟩
    have nonzero : rounded ≠ 0 := by omega
    rw [shiftToTargetExponent_of_full full (by omega)]
    exact ⟨rounded, e + count, Nat.pos_of_ne_zero nonzero, dif_neg nonzero, full, by omega⟩
  · -- The carry out of the highest bit leaves a power of two.
    obtain rfl : rounded = 2 ^ 53 := by omega
    have log2 : (2 ^ 53).log2 = 53 := Nat.log2_two_pow
    rw [shiftToTargetExponent_eq (by omega), log2]
    exact ⟨2 ^ 52, e + count + 1, by decide, rfl, Nat.log2_two_pow, by omega⟩

/-! ### Integers -/

/-- The sign of an integer. -/
def signOf (n : Int) : Sign := if n < 0 then .negative else .positive

/-- What an integer is as a float.  It is exact below `2 ^ 53`; above, the float has a positive
    exponent, or is infinite. -/
inductive Converted (n : Int) : UnpackedFloat → Prop
  | zero (isZero : n = 0) : Converted n (.zero .positive)
  | exact {m : Nat} {e : Int} (positive : 0 < m) (small : n.natAbs < 2 ^ 53)
    (mantissa : m = n.natAbs * 2 ^ (52 - n.natAbs.log2)) (exponent : e = n.natAbs.log2 - 52) :
    Converted n (.finite (signOf n) m e positive)
  | rounded {m : Nat} {e : Int} (positive : 0 < m) (large : 2 ^ 53 ≤ n.natAbs)
    (full : m.log2 = 52) (least : 1 ≤ e) (most : e ≤ 971) :
    Converted n (.finite (signOf n) m e positive)
  | beyond (large : 2 ^ 53 ≤ n.natAbs) : Converted n (.infinity (signOf n))

section Naturals

variable {k : Nat}

/-- The mantissa and the exponent of a number that fits into fifty-three bits. -/
theorem log2_aligned (positive : k ≠ 0) (small : k < 2 ^ 53) :
    (k * 2 ^ (52 - k.log2)).log2 = 52 := by
  have length := (Nat.log2_lt positive).mpr small
  rw [log2_mul_two_pow positive]
  omega

theorem unpack_ofUInt64 (positive : k ≠ 0) (small : k < 2 ^ 53)
    (aligned : 0 < k * 2 ^ (52 - k.log2)) :
    k.toUInt64.toFloat.toModel.unpack
      = .finite .positive (k * 2 ^ (52 - k.log2)) (k.log2 - 52) aligned := by
  have length := (Nat.log2_lt positive).mpr small
  have full := log2_aligned positive small
  have word : k.toUInt64.toNat = k := by
    show k % 2 ^ 64 = k
    exact Nat.mod_eq_of_lt (by omega)
  have order : compare (k : Int) 0 = .gt := Int.compare_eq_gt.mpr (by omega)
  have amount : ((0 : Int) - (k.log2 + 0 - 52)).toNat = 52 - k.log2 := by omega
  have rounds : roundWithAccuracy Format.binary64 .positive (k * 2 ^ (52 - k.log2))
      (0 - (52 - k.log2 : Nat)) .exact
        = .finite .positive (k * 2 ^ (52 - k.log2)) (k.log2 - 52) aligned := by
    have exactly := @roundWithAccuracy_exact .positive _ 0 (k.log2 - 52) aligned full (by omega)
    have exponents : ((k.log2 : Int) - 52 - (0 : Nat)) = 0 - (52 - k.log2 : Nat) := by omega
    rwa [Nat.pow_zero, Nat.mul_one, exponents] at exactly
  show (Float.Model.pack (UnpackedFloat.normalize Format.binary64 (k.toUInt64.toNat : Int) 0
    .positive)).unpack = _
  rw [word, UnpackedFloat.normalize, order]
  simp only [Int.toNat_natCast]
  rw [UnpackedFloat.round, targetExponent_eq (by omega), decreaseExponent]
  simp only [amount, Nat.shiftLeft_eq, rounds]
  exact unpack_pack_normal aligned full (by omega) (by omega)

/-- The float of a number that fits into fifty-three bits. -/
theorem unpack_ofNat_small (positive : k ≠ 0) (small : k < 2 ^ 53)
    (aligned : 0 < k * 2 ^ (52 - k.log2)) :
    (Float.ofNat k).toModel.unpack
      = .finite .positive (k * 2 ^ (52 - k.log2)) (k.log2 - 52) aligned := by
  have length := (Nat.log2_lt positive).mpr small
  have full := log2_aligned positive small
  have scaled : Float.ofNat k = k.toUInt64.toFloat * Float.ofBits 0x3FF0000000000000 := by
    show Float.ofScientific k false 0 = _
    rw [Float.ofScientific, dif_pos ⟨small, Nat.zero_le _⟩]
    rfl
  have one : (Float.ofBits 0x3FF0000000000000).toModel.unpack
      = .finite .positive (2 ^ 52) (-52) (by decide) := rfl
  have rounds : roundWithAccuracy Format.binary64 .positive (k * 2 ^ (52 - k.log2) * 2 ^ 52)
      (k.log2 - 52 + -52) .exact
        = .finite .positive (k * 2 ^ (52 - k.log2)) (k.log2 - 52) aligned :=
    @roundWithAccuracy_exact .positive _ 52 (k.log2 - 52) aligned full (by omega)
  rw [scaled]
  show (Float.Model.pack (UnpackedFloat.mul Format.binary64 _ _)).unpack = _
  rw [unpack_ofUInt64 positive small aligned, one, UnpackedFloat.mul]
  show (Float.Model.pack (roundWithAccuracy Format.binary64 .positive _ _ .exact)).unpack = _
  rw [rounds]
  exact unpack_pack_normal aligned full (by omega) (by omega)

/-- A wider number becomes a float of at least `2 ^ 53`, if it becomes a finite one. -/
theorem unpack_ofNat_large (large : 2 ^ 53 ≤ k) :
    (Float.ofNat k).toModel.unpack = .infinity .positive
      ∨ ∃ m e positive, (Float.ofNat k).toModel.unpack = .finite .positive m e positive
        ∧ m.log2 = 52 ∧ 1 ≤ e ∧ e ≤ 971 := by
  have positive : k ≠ 0 := by
    have := Nat.two_pow_pos 53
    omega
  have length : 53 ≤ k.log2 := (Nat.le_log2 positive).mpr large
  have shifted : (k * 2 ^ 53).log2 = k.log2 + 53 := log2_mul_two_pow positive 53
  have through : Float.ofNat k = Float.ofModel (Float.Model.ofScientific k 0) := by
    show Float.ofScientific k false 0 = _
    rw [Float.ofScientific, dif_neg fun both => Nat.not_lt_of_le large both.1]
    rfl
  obtain ⟨rounded, exponent, rounded_pos, rounds, full, least⟩ :=
    @roundWithAccuracy_long .positive (k * 2 ^ 53) (-53) (by omega) (by omega)
  have model : Float.Model.ofScientific k 0
      = Float.Model.pack (.finite .positive rounded exponent rounded_pos) := by
    rw [← rounds]
    show Float.Model.pack (UnpackedFloat.ofScientific Format.binary64 k 0) = _
    rw [UnpackedFloat.ofScientific, dif_neg positive, if_neg (by decide), if_neg ?_,
      if_pos (Int.le_refl 0), UnpackedFloat.mul]
    · show Float.Model.pack (roundWithAccuracy Format.binary64 .positive (k <<< 53 * 10 ^ 0)
        (-53 + 0) .exact) = _
      rw [Nat.shiftLeft_eq, Nat.pow_zero, Nat.mul_one, Int.add_zero]
    · show ¬ (0 : Int) < -((2 ^ 11 : Int) + k.log2)
      omega
  rw [through, model]
  by_cases beyond : 971 < exponent
  · rw [pack_beyond rounded_pos beyond]
    exact .inl (unpack_pack_infinity .positive)
  · exact .inr ⟨rounded, exponent, rounded_pos,
      unpack_pack_normal rounded_pos full (by omega) (by omega), full, by omega, by omega⟩

theorem converted_ofNat (k : Nat) : Converted k (Float.ofNat k).toModel.unpack := by
  by_cases isZero : k = 0
  · subst isZero
    exact .zero rfl
  have plus : signOf k = .positive := if_neg (by omega)
  have size : (k : Int).natAbs = k := Int.natAbs_natCast k
  by_cases small : k < 2 ^ 53
  · have aligned : 0 < k * 2 ^ (52 - k.log2) :=
      Nat.mul_pos (Nat.pos_of_ne_zero isZero) (Nat.two_pow_pos _)
    rw [unpack_ofNat_small isZero small aligned, ← plus]
    exact .exact aligned (by omega) (by rw [size]) (by rw [size])
  · rcases unpack_ofNat_large (Nat.le_of_not_lt small) with
      unpacks | ⟨m, e, positive, unpacks, full, least, most⟩
    · rw [unpacks, ← plus]
      exact .beyond (by omega)
    · rw [unpacks, ← plus]
      exact .rounded positive (by omega) full least most

end Naturals

/-- The negative of an integer becomes the negative of its float. -/
theorem Converted.neg {n : Int} {x : Float} (converted : Converted n x.toModel.unpack)
    (positive : 0 < n) : Converted (-n) (Float.neg x).toModel.unpack := by
  have plus : signOf n = .positive := if_neg (by omega)
  have minus : signOf (-n) = .negative := if_pos (by omega)
  have size : (-n).natAbs = n.natAbs := Int.natAbs_neg n
  have negated : (Float.neg x).toModel.unpack
      = (Float.Model.pack x.toModel.unpack.neg).unpack := rfl
  rw [negated]
  revert converted
  generalize x.toModel.unpack = unpacked
  intro converted
  cases converted with
  | zero isZero => omega
  | @exact m e positive' small mantissa exponent =>
    have length := (Nat.log2_lt (by omega)).mpr small
    have full : m.log2 = 52 := by
      rw [mantissa]
      exact log2_aligned (by omega) small
    rw [plus, UnpackedFloat.neg]
    show Converted (-n) (Float.Model.pack (.finite .negative m e positive')).unpack
    rw [unpack_pack_normal positive' full (by omega) (by omega), ← minus]
    exact .exact positive' (by omega) (by rw [size, mantissa]) (by rw [size, exponent])
  | @rounded m e positive' large full least most =>
    rw [plus, UnpackedFloat.neg]
    show Converted (-n) (Float.Model.pack (.finite .negative m e positive')).unpack
    rw [unpack_pack_normal positive' full (by omega) most, ← minus]
    exact .rounded positive' (by omega) full least most
  | beyond large =>
    rw [plus, UnpackedFloat.neg]
    show Converted (-n) (Float.Model.pack (.infinity .negative)).unpack
    rw [unpack_pack_infinity, ← minus]
    exact .beyond (by omega)

theorem converted_ofInt (n : Int) : Converted n (Float.ofInt n).toModel.unpack := by
  cases n with
  | ofNat k => exact converted_ofNat k
  | negSucc k => exact (converted_ofNat (k + 1)).neg (by omega)

/-! ### Wide integers -/

/-- What is left of a wide integer in its leading word is wide as well. -/
theorem jam_large {k : Nat} (large : 2 ^ 53 ≤ k) : 2 ^ 53 ≤ LeadingWord.jam k := by
  by_cases narrow : k.log2 < LeadingWord.width
  · rw [LeadingWord.jam_narrow k narrow]
    exact large
  · have positive : k ≠ 0 := by
      rintro rfl
      exact absurd large (by decide)
    obtain ⟨below, length⟩ := Nat.exists_eq_add_of_le' (Nat.le_of_not_lt narrow)
    have dropped : k.log2 + 1 - LeadingWord.width = below + 1 := by omega
    have leading : 2 ^ 63 ≤ k / twoTo (below + 1) := by
      rw [Nat.le_div_iff_mul_le (twoTo_pos _)]
      show 2 ^ 63 * 2 ^ (below + 1) ≤ k
      rw [← Nat.pow_add]
      have reached : 63 + (below + 1) = k.log2 := by
        show 63 + (below + 1) = k.log2
        have : LeadingWord.width = 64 := rfl
        omega
      rw [reached]
      exact (Nat.le_log2 positive).mp (Nat.le_refl _)
    have kept : 2 ^ 63 ≤ (if LeadingWord.isSticky k then k / twoTo (below + 1) ||| 1
        else k / twoTo (below + 1)) := by
      split
      · exact Nat.le_trans leading Nat.left_le_or
      · exact leading
    rw [LeadingWord.jam]
    simp only [dropped, Nat.add_one_ne_zero, ↓reduceIte]
    calc 2 ^ 53 ≤ 2 ^ 63 * 1 := by decide
      _ ≤ _ := Nat.mul_le_mul kept (twoTo_pos _)

/-- An integer that is not wide is its own leading word. -/
theorem jam_small {k : Nat} (small : k < 2 ^ 53) : LeadingWord.jam k = k := by
  refine LeadingWord.jam_narrow k ?_
  by_cases isZero : k = 0
  · subst isZero
    decide
  · exact Nat.lt_trans ((Nat.log2_lt isZero).mpr small) (by decide)

/-- What the engine converts an integer to. -/
theorem converted_toFloat (n : Int) : Converted n (LeadingWord.toFloat n).toModel.unpack := by
  by_cases small : n.natAbs < 2 ^ 53
  · have same : (if n < 0 then -(LeadingWord.jam n.natAbs : Int) else LeadingWord.jam n.natAbs)
        = n := by
      rw [jam_small small]
      split <;> omega
    rw [LeadingWord.toFloat, same]
    exact converted_ofInt n
  · have large := Nat.le_of_not_lt small
    have jammed := jam_large large
    have converted : Converted (if n < 0 then -(LeadingWord.jam n.natAbs : Int)
        else LeadingWord.jam n.natAbs) (LeadingWord.toFloat n).toModel.unpack := converted_ofInt _
    generalize LeadingWord.jam n.natAbs = size at jammed converted
    have sizes : (if n < 0 then -(size : Int) else size).natAbs = size := by split <;> omega
    have signs : signOf (if n < 0 then -(size : Int) else size) = signOf n := by
      by_cases negative : n < 0
      · rw [if_pos negative, signOf, signOf, if_pos negative, if_pos (by omega)]
      · rw [if_neg negative, signOf, signOf, if_neg negative, if_neg (by omega)]
    revert converted
    generalize (LeadingWord.toFloat n).toModel.unpack = unpacked
    intro converted
    cases converted with
    | zero isZero => omega
    | exact positive small => omega
    | rounded positive _ full least most =>
      rw [signs]
      exact .rounded positive large full least most
    | beyond =>
      rw [signs]
      exact .beyond large

/-! ### Integers with the same float -/

namespace Converted

variable {m n : Int} {u v : UnpackedFloat}

theorem ne_nan (converted : Converted n u) : u ≠ .notANumber := by
  cases converted <;> exact nofun

/-- The sign of an integer and its size are those of the integer. -/
theorem eq_of_sign_of_size (signs : signOf m = signOf n) (sizes : m.natAbs = n.natAbs)
    (nonzero : n ≠ 0) : m = n := by
  by_cases negative : n < 0
  · by_cases negative' : m < 0
    · omega
    · rw [signOf, signOf, if_pos negative, if_neg negative'] at signs
      exact nomatch signs
  · by_cases negative' : m < 0
    · rw [signOf, signOf, if_neg negative, if_pos negative'] at signs
      exact nomatch signs
    · omega

theorem of_infinity {sign : Sign} (converted : Converted n (.infinity sign)) :
    2 ^ 53 ≤ n.natAbs := by
  cases converted with
  | beyond large => exact large

theorem of_finite {sign : Sign} {mantissa : Nat} {e : Int} {positive : 0 < mantissa}
    (converted : Converted n (.finite sign mantissa e positive)) :
    sign = signOf n
      ∧ (n.natAbs < 2 ^ 53 ∧ mantissa = n.natAbs * 2 ^ (52 - n.natAbs.log2)
          ∧ e = n.natAbs.log2 - 52
        ∨ 2 ^ 53 ≤ n.natAbs ∧ 1 ≤ e) := by
  cases converted with
  | exact positive small mantissa exponent => exact ⟨rfl, .inl ⟨small, mantissa, exponent⟩⟩
  | rounded positive large full least most => exact ⟨rfl, .inr ⟨large, least⟩⟩

/-- Different integers become the same float only if both are wide. -/
theorem eq_or_large (first : Converted m u) (second : Converted n v) (same : SameNumber u v) :
    m = n ∨ 2 ^ 53 ≤ m.natAbs ∧ 2 ^ 53 ≤ n.natAbs := by
  obtain ⟨-, rfl | ⟨⟨s, rfl⟩, ⟨t, rfl⟩⟩⟩ := same
  · cases u with
    | notANumber => exact absurd rfl first.ne_nan
    | infinity sign => exact .inr ⟨first.of_infinity, second.of_infinity⟩
    | zero sign =>
      cases first with
      | zero isZero =>
        cases second with
        | zero alsoZero => exact .inl (isZero.trans alsoZero.symm)
    | finite sign mantissa e positive =>
      obtain ⟨signs, first⟩ := first.of_finite
      obtain ⟨signs', second⟩ := second.of_finite
      -- An exact float has no positive exponent, and a rounded one has no other.
      have least : ∀ {k : Int}, mantissa = k.natAbs * 2 ^ (52 - k.natAbs.log2) → k ≠ 0 := by
        rintro k shape rfl
        rw [Int.natAbs_zero, Nat.zero_mul] at shape
        omega
      have short : ∀ {k : Int}, k.natAbs < 2 ^ 53 → k ≠ 0 → k.natAbs.log2 < 53 := by
        intro k small nonzero
        exact (Nat.log2_lt (Int.natAbs_ne_zero.mpr nonzero)).mpr small
      rcases first with ⟨small, shape, exponent⟩ | ⟨large, far⟩
      · have length := short small (least shape)
        rcases second with ⟨small', shape', exponent'⟩ | ⟨large', far'⟩
        · have lengths : m.natAbs.log2 = n.natAbs.log2 := by omega
          rw [shape', lengths] at shape
          have sizes := Nat.eq_of_mul_eq_mul_right (Nat.two_pow_pos _) shape
          exact .inl (eq_of_sign_of_size (signs.symm.trans signs') sizes.symm (least shape'))
        · omega
      · rcases second with ⟨small', shape', exponent'⟩ | ⟨large', far'⟩
        · have length := short small' (least shape')
          omega
        · exact .inr ⟨large, large'⟩
  · cases first with
    | zero isZero =>
      cases second with
      | zero alsoZero => exact .inl (isZero.trans alsoZero.symm)

/-! ### Floats that an integer equals -/

theorem signed_signOf (n : Int) : Binary64.signed (isNegative (signOf n)) n.natAbs = n := by
  have sign : isNegative (signOf n) = decide (n < 0) := by
    rw [signOf]
    split <;> simp [isNegative, *]
  rw [sign, Binary64.signed_natAbs]

theorem signOf_signed {sign : Sign} {size : Nat} (positive : 0 < size) :
    signOf (Binary64.signed (isNegative sign) size) = sign := by
  cases sign
  · exact if_pos (show -(size : Int) < 0 by omega)
  · exact if_neg (show ¬ (size : Int) < 0 by omega)

/-- A zero denotes zero, whatever its sign. -/
theorem exactInt?_zero (sign : Sign) : (denoted (.zero sign)).exactInt? = some 0 := by
  rw [denoted, Binary64.exactInt?, if_neg (by decide), Nat.zero_mod, if_pos rfl, Nat.zero_div]
  cases sign <;> rfl

/-- The float of an integer that is not wide denotes it. -/
theorem exactInt?_denoted (converted : Converted n u) (small : n.natAbs < 2 ^ 53) :
    (denoted u).exactInt? = some n := by
  cases converted with
  | zero isZero =>
    rw [exactInt?_zero, isZero]
  | @exact mantissa e positive _ shape exponent =>
    have nonzero : n.natAbs ≠ 0 := by
      intro isZero
      rw [isZero, Nat.zero_mul] at shape
      omega
    have length := (Nat.log2_lt nonzero).mpr small
    rw [denoted, Binary64.exactInt?]
    by_cases whole : 0 ≤ e
    · have bits : 52 - n.natAbs.log2 = 0 := by omega
      have exponent' : e.toNat = 0 := by omega
      rw [bits, Nat.pow_zero, Nat.mul_one] at shape
      rw [if_pos whole, exponent', twoTo_zero, Nat.mul_one, shape, signed_signOf]
    · have bits : (-e).toNat = 52 - n.natAbs.log2 := by omega
      have divides : mantissa % twoTo (52 - n.natAbs.log2) = 0 := by
        rw [shape]
        exact Nat.mul_mod_left ..
      have quotient : mantissa / twoTo (52 - n.natAbs.log2) = n.natAbs := by
        rw [shape]
        exact Nat.mul_div_cancel _ (Nat.two_pow_pos _)
      rw [if_neg whole, bits, if_pos divides, quotient, signed_signOf]
  | rounded positive large => omega
  | beyond large => omega

/-- The float of an integer is whole, or infinite. -/
theorem whole_or_infinite (converted : Converted n u) :
    (∃ k, (denoted u).exactInt? = some k) ∨ u = .infinity (signOf n) := by
  cases converted with
  | zero isZero => exact .inl ⟨0, exactInt?_zero _⟩
  | exact positive small mantissa exponent =>
    exact .inl ⟨n, (Converted.exact positive small mantissa exponent).exactInt?_denoted small⟩
  | @rounded m e positive large full least most =>
    have whole : 0 ≤ e := by omega
    exact .inl ⟨_, if_pos whole⟩
  | beyond large => exact .inr rfl

/-- A float that denotes an integer that is not wide has the mantissa and the exponent of that
    integer. -/
theorem shape_of_exactInt? {value : Float} {sign : Sign} {mantissa : Nat} {e : Int}
    {positive : 0 < mantissa} (unpacks : value.toModel.unpack = .finite sign mantissa e positive)
    (denotes : (Binary64.ofFloat value).exactInt? = some n) (small : n.natAbs < 2 ^ 53) :
    sign = signOf n ∧ mantissa = n.natAbs * 2 ^ (52 - n.natAbs.log2)
      ∧ e = n.natAbs.log2 - 52 := by
  obtain ⟨bound, normal⟩ := canonical_of_float unpacks
  have length : mantissa.log2 < 53 := (Nat.log2_lt (Nat.ne_of_gt positive)).mpr bound
  have least : Binary64.leastExponent = -1074 := rfl
  -- It is enough to find the integer with some zero bits below it.
  suffices aligned : ∃ size count : Nat, n = Binary64.signed (isNegative sign) size
      ∧ mantissa = size * 2 ^ count ∧ e = -count by
    obtain ⟨size, count, rfl, shape, exponent⟩ := aligned
    have nonzero : size ≠ 0 := by
      rintro rfl
      rw [Nat.zero_mul] at shape
      omega
    have log2 := log2_mul_two_pow nonzero count
    rw [← shape] at log2
    have full : mantissa.log2 = 52 := by
      rcases normal with high | low
      · exact Nat.le_antisymm (Nat.le_of_lt_succ length)
          ((Nat.le_log2 (Nat.ne_of_gt positive)).mpr high)
      · omega
    have bits : 52 - size.log2 = count := by omega
    rw [Binary64.natAbs_signed, signOf_signed (Nat.pos_of_ne_zero nonzero), bits]
    exact ⟨rfl, shape, by omega⟩
  rw [ofFloat_eq_denoted, unpacks] at denotes
  obtain ⟨size, rfl, whole, part⟩ := Binary64.size_of_exactInt? denotes
  by_cases sign' : 0 ≤ e
  · have product := whole sign'
    rw [Binary64.natAbs_signed] at small
    have high : 2 ^ 52 ≤ mantissa := by omega
    have unscaled : e.toNat = 0 := by
      by_contra scaled
      obtain ⟨more, exponent⟩ := Nat.exists_eq_succ_of_ne_zero scaled
      rw [exponent, twoTo_succ] at product
      have twice := Nat.mul_le_mul high (Nat.mul_le_mul_right 2 (twoTo_pos more))
      omega
    rw [unscaled, twoTo_zero, Nat.mul_one] at product
    exact ⟨size, 0, rfl, by rw [product, Nat.pow_zero, Nat.mul_one], by omega⟩
  · exact ⟨size, (-e).toNat, rfl, part (by omega), by omega⟩

/-- Below `2 ^ 53`, the float of an integer denotes just that integer. -/
theorem sameNumber_iff_exactInt? {value : Float} (converted : Converted n u)
    (small : n.natAbs < 2 ^ 53) :
    SameNumber u value.toModel.unpack ↔ (Binary64.ofFloat value).exactInt? = some n := by
  constructor
  · rintro ⟨-, same | ⟨zero, ⟨sign, same⟩⟩⟩
    · rw [ofFloat_eq_denoted, ← same]
      exact converted.exactInt?_denoted small
    · have denotes := converted.exactInt?_denoted small
      obtain ⟨sign', rfl⟩ := zero
      rw [exactInt?_zero] at denotes
      rw [ofFloat_eq_denoted, same, exactInt?_zero, denotes]
  · intro denotes
    cases unpacks : value.toModel.unpack with
    | notANumber =>
      rw [ofFloat_eq_denoted, unpacks] at denotes
      exact nomatch denotes
    | infinity sign =>
      rw [ofFloat_eq_denoted, unpacks] at denotes
      exact nomatch denotes
    | zero sign =>
      rw [ofFloat_eq_denoted, unpacks, exactInt?_zero] at denotes
      obtain rfl := Option.some.inj denotes
      cases converted with
      | zero => exact ⟨nofun, .inr ⟨⟨_, rfl⟩, ⟨_, rfl⟩⟩⟩
      | exact positive _ shape =>
        rw [Int.natAbs_zero, Nat.zero_mul] at shape
        omega
      | rounded positive large => omega
      | beyond large => omega
    | finite sign mantissa e positive =>
      obtain ⟨rfl, rfl, rfl⟩ := shape_of_exactInt? unpacks denotes small
      cases converted with
      | zero isZero =>
        subst isZero
        exact absurd positive (by simp)
      | exact positive' _ shape exponent =>
        subst shape exponent
        exact .refl nofun
      | rounded positive large => omega
      | beyond large => omega

end Converted

end FloatFormat

end SlotTalk
