import SlotTalk.Proofs.StateInvariants

namespace SlotTalk

/-!
# Exact integers

However two integers are held, as words or as big integers that need not be so big, what is
calculated from them is exact, and held the one way in which it has to be.

* `Number.Gives` — a calculation that succeeds with the one value of an integer.
* `NumberPrimitive.abs_on` — the absolute value, as programs ask for it.
* `integers_are_exact` — sum, difference, product, negative, order and absolute value; and no
  calculation breaks off.
* `division_fits_remainder` — quotient and remainder.
-/

/-! ### The one value of an integer -/

namespace Value

theorem represents_ofInt (n : Int) : (ofInt n).Represents n := by
  rw [Represents, ofInt]
  split
  · rfl
  · exact ⟨.unassigned, rfl⟩

/-- The one value of an integer denotes it. -/
theorem Represents.int? {value : Value} {n : Int} (represents : value.Represents n) :
    value.int? = some n := by
  unfold Represents at represents
  split at represents
  next fits =>
    have same : Value.ofInt n = value := by rw [ofInt, if_pos fits, represents]
    rw [← same, int?_ofInt]
  next =>
    obtain ⟨identity, rfl⟩ := represents
    rfl

end Value

/-- The calculation succeeds with the one value of the integer. -/
def Number.Gives (result : Except RuntimeError Value) (n : Int) : Prop :=
  ∃ value, result = .ok value ∧ value.Represents n

theorem Number.gives_ofInt (n : Int) : Gives (.ok (.ofInt n)) n :=
  ⟨_, rfl, Value.represents_ofInt n⟩

/-- An identity does not change which integer a value represents. -/
theorem Value.Represents.identified {n m : Int} {identity identity' : Identity}
    (represents : (Value.big n identity).Represents m) : (Value.big n identity').Represents m := by
  unfold Represents at represents ⊢
  split at represents
  next => exact nomatch represents
  next wide =>
    obtain ⟨_, same⟩ := represents
    rw [if_neg wide, (Value.big.inj same).1]
    exact ⟨_, rfl⟩

/-! ### Absolute values -/

/-- An integer that is not below zero is its own absolute value, in whatever way it is held. -/
theorem Number.abs_of_int {a : Value} {n : Int} (denotes : a.int? = some n) :
    ∃ value, abs a = .ok value ∧ value.int? = some (n.natAbs : Int)
      ∧ (a.Canonical → value.Represents n.natAbs) := by
  have zero : (Value.int 0).int? = some 0 := rfl
  have compared : abs a = if Ord.compare n 0 = .lt then negate a else .ok a := by
    rw [abs, compare_of_int denotes zero]
    cases Ord.compare n 0 <;> rfl
  rw [compared]
  rcases Int.lt_or_le n 0 with below | above
  · have negative : (n.natAbs : Int) = -n := Int.ofNat_natAbs_of_nonpos (Int.le_of_lt below)
    rw [if_pos (Int.compare_eq_lt.mpr below), negate_of_int denotes, negative]
    exact ⟨_, rfl, Value.int?_ofInt _, fun _ => Value.represents_ofInt _⟩
  · have same : (n.natAbs : Int) = n := Int.natAbs_of_nonneg above
    rw [if_neg fun less => Int.not_lt.mpr above (Int.compare_eq_lt.mp less), same]
    exact ⟨a, rfl, denotes, fun canonical => canonical n denotes⟩

theorem NumberPrimitive.abs_on {use : Invocation} {n : Int} (denotes : use.receiver.int? = some n)
    (engine : Engine) :
    ∃ value after, (NumberPrimitive.abs.run use).on engine = (.ok value, after)
      ∧ after.store = engine.store ∧ value.int? = some (n.natAbs : Int)
      ∧ (use.receiver.Canonical → value.Represents n.natAbs) := by
  obtain ⟨value, calculated, absolute, represents⟩ := Number.abs_of_int denotes
  obtain ⟨given, after, done, store, same, kept⟩ := Action.ofCalculation_on value engine
  have ran : (NumberPrimitive.abs.run use).on engine = (.ok given, after) := by
    unfold NumberPrimitive.run
    unfold NumberPrimitive.answer
    rw [calculated]
    exact done
  generalize (n.natAbs : Int) = size at absolute represents ⊢
  refine ⟨given, after, ran, store, same.trans absolute, fun canonical => ?_⟩
  rcases kept with rfl | ⟨m, identity, rfl, rfl⟩
  · exact represents canonical
  · exact (represents canonical).identified

/-! ### Steps of a calculation -/

theorem Calculation.run_eq_ending {α : Type} (calculation : Calculation α)
    (faultless : calculation.Faultless) :
    calculation.run = .ok (calculation.ending faultless) := by
  have kept : calculation.run.toOption = some (calculation.ending faultless) :=
    (Option.some_get faultless).symm
  cases ran : calculation.run with
  | error fault => exact nomatch (congrArg Except.toOption ran).symm.trans kept
  | ok ending =>
    exact congrArg Except.ok (Option.some.inj ((congrArg Except.toOption ran).symm.trans kept))

/-- The steps of a calculation with numbers lead to the result that the values have. -/
theorem Number.run_eq_calculate {α : Type} {calculation : Number → Number → Calculation α}
    (faultless : ∀ x y, (calculation x y).Faultless) {a b : Value} {x y : Number}
    (first : ofValue a = .ok x) (second : ofValue b = .ok y) :
    (calculation x y).run = .ok (calculate faultless a b) := by
  rw [calculate, first, second]
  exact (calculation x y).run_eq_ending (faultless x y)

open Number (Gives)

/-- **Exact integers.**  For values that denote integers, held in words or as big integers of any
    size, sum, difference and product are exact and held as they have to be, and so is the negative;
    the order is that of the integers.  The absolute value that the built-in answers is exact, and
    held as it has to be if the receiver is.  No calculation with two numbers, floats included,
    comes to a step at which it breaks off: its steps lead to the result. -/
theorem integers_are_exact :
    (∀ (a b : Value) (n m : Int), a.int? = some n → b.int? = some m →
      Gives (Number.add a b) (n + m) ∧ Gives (Number.sub a b) (n - m)
        ∧ Gives (Number.mul a b) (n * m) ∧ Number.compare a b = .ok (some (compare n m)))
      ∧ (∀ (a : Value) (n : Int), a.int? = some n → Gives (Number.negate a) (-n))
      ∧ (∀ (use : Invocation) (n : Int) (engine : Engine), use.receiver.int? = some n →
        ∃ value after, (NumberPrimitive.abs.run use).on engine = (.ok value, after)
          ∧ after.store = engine.store ∧ value.int? = some (n.natAbs : Int)
          ∧ (use.receiver.Canonical → value.Represents n.natAbs))
      ∧ ∀ a b : Value, a.isNumber = true → b.isNumber = true →
        ∃ x y, Number.ofValue a = .ok x ∧ Number.ofValue b = .ok y
          ∧ (Calculation.arithmetic .add x y).run = .ok (Number.add a b)
          ∧ (Calculation.arithmetic .sub x y).run = .ok (Number.sub a b)
          ∧ (Calculation.arithmetic .mul x y).run = .ok (Number.mul a b)
          ∧ (Calculation.division x y).run = .ok (Number.div a b)
          ∧ (Calculation.remainder x y).run = .ok (Number.rem a b)
          ∧ (Calculation.order x y).run = .ok (Number.compare a b)
          ∧ (Calculation.arithmetic .sub (.word 0) x).run = .ok (Number.negate a) := by
  refine ⟨?exact, ?negative, ?absolute, ?steps⟩
  case exact =>
    intro a b n m first second
    refine ⟨?_, ?_, ?_, Number.compare_of_int first second⟩
    · exact Number.add_of_int first second ▸ Number.gives_ofInt (n + m)
    · exact Number.sub_of_int first second ▸ Number.gives_ofInt (n - m)
    · exact Number.mul_of_int first second ▸ Number.gives_ofInt (n * m)
  case negative =>
    exact fun a n denotes => Number.negate_of_int denotes ▸ Number.gives_ofInt (-n)
  case absolute => exact fun use n engine denotes => NumberPrimitive.abs_on denotes engine
  case steps =>
    intro a b isNumber isNumber'
    obtain ⟨x, first⟩ := Number.ofValue_of_isNumber isNumber
    obtain ⟨y, second⟩ := Number.ofValue_of_isNumber isNumber'
    exact ⟨x, y, first, second, Number.run_eq_calculate _ first second,
      Number.run_eq_calculate _ first second, Number.run_eq_calculate _ first second,
      Number.run_eq_calculate _ first second, Number.run_eq_calculate _ first second,
      Number.run_eq_calculate _ first second, Number.run_eq_calculate _ rfl first⟩

/-- The first word has no negative among the words, and is the negative of the first integer beyond
    them. -/
theorem first_word_negated :
    Gives (Number.negate (.int Int64.minValue)) 9223372036854775808
      ∧ Gives (Number.negate (.big 9223372036854775808 .unassigned)) (-9223372036854775808) := by
  have word : (Value.int Int64.minValue).int? = some (-9223372036854775808) := by decide
  obtain ⟨-, negative, -⟩ := integers_are_exact
  exact ⟨negative _ _ word, negative _ _ rfl⟩

/-! ### Quotients and remainders -/

section Division

variable {a b : Value} {n m : Int} (first : a.int? = some n) (second : b.int? = some m)
  (divides : m ≠ 0)
include first second divides

theorem Number.rem_gives : Gives (rem a b) (Int.tmod n m) := by
  rw [rem_of_int first second, if_neg divides]
  exact gives_ofInt _

/-- The quotient is an integer if nothing remains, and else a float. -/
theorem Number.div_gives :
    (Int.tmod n m = 0 ∧ ∃ q, Gives (div a b) q ∧ q * m = n)
      ∨ (Int.tmod n m ≠ 0 ∧ ∃ value, div a b = .ok (.float value)) := by
  rw [div_of_int first second, if_neg divides]
  by_cases even : Int.tmod n m = 0
  · rw [if_pos even]
    have back : Int.tdiv n m * m = n := Int.tdiv_mul_cancel (Int.dvd_of_tmod_eq_zero even)
    exact .inl ⟨even, _, gives_ofInt _, back⟩
  · rw [if_neg even]
    exact .inr ⟨even, _, rfl⟩

/-- Without the remainder the dividend divides evenly, and the quotient leads back to it. -/
theorem Number.quotient_leads_back :
    ∃ rest even quotient product sum, rem a b = .ok rest ∧ sub a rest = .ok even
      ∧ div even b = .ok quotient ∧ quotient.int?.isSome = true ∧ mul quotient b = .ok product
      ∧ add product rest = .ok sum ∧ sum.Represents n := by
  let r := Int.tmod n m
  let q := Int.tdiv (n - r) m
  have fits : m ∣ n - r := Int.dvd_self_sub_tmod
  have denotes : ∀ k, (Value.ofInt k).int? = some k := Value.int?_ofInt
  have divided : div (.ofInt (n - r)) b = .ok (.ofInt q) := by
    rw [div_of_int (denotes _) second, if_neg divides, if_pos (Int.tmod_eq_zero_of_dvd fits)]
  have back : q * m + r = n := by
    rw [Int.tdiv_mul_cancel fits, Int.sub_add_cancel]
  refine ⟨.ofInt r, .ofInt (n - r), .ofInt q, .ofInt (q * m), .ofInt (q * m + r), ?_,
    sub_of_int first (denotes r), divided, ?_, mul_of_int (denotes q) second,
    add_of_int (denotes _) (denotes r), ?_⟩
  · rw [rem_of_int first second, if_neg divides]
  · rw [denotes]
    rfl
  · rw [back]
    exact Value.represents_ofInt n

end Division

/-- **Division.**  For values that denote integers, in whatever way they are held, quotient and
    remainder fail exactly for a divisor of zero.  Else the remainder is the canonical integer that
    differs from the dividend by a multiple of the divisor, is smaller than the divisor and has the
    sign of the dividend unless it is zero; and the quotient is the canonical integer if nothing
    remains, and a float if something does.  So the dividend without the remainder divides evenly,
    and the quotient leads back to the dividend. -/
theorem division_fits_remainder {a b : Value} {n m : Int} (first : a.int? = some n)
    (second : b.int? = some m) :
    (m = 0 → Number.div a b = .error .divisionByZero ∧ Number.rem a b = .error .divisionByZero)
      ∧ (m ≠ 0 → ∃ r, Gives (Number.rem a b) r ∧ m ∣ n - r ∧ r.natAbs < m.natAbs
        ∧ (r = 0 ∨ r.sign = n.sign)
        ∧ ((r = 0 ∧ ∃ q, Gives (Number.div a b) q ∧ q * m = n)
          ∨ (r ≠ 0 ∧ ∃ value, Number.div a b = .ok (.float value))))
      ∧ (m ≠ 0 → ∃ rest even quotient product sum, Number.rem a b = .ok rest
        ∧ Number.sub a rest = .ok even ∧ Number.div even b = .ok quotient
        ∧ quotient.int?.isSome = true ∧ Number.mul quotient b = .ok product
        ∧ Number.add product rest = .ok sum ∧ sum.Represents n) := by
  refine ⟨?zero, ?remainder, Number.quotient_leads_back first second⟩
  case zero =>
    intro zero
    rw [Number.div_of_int first second, Number.rem_of_int first second, if_pos zero, if_pos zero]
    exact ⟨rfl, rfl⟩
  case remainder =>
    intro divides
    have smaller : (Int.tmod n m).natAbs < m.natAbs := by
      rw [Int.natAbs_tmod]
      exact Nat.mod_lt _ (Int.natAbs_pos.mpr divides)
    have sign : Int.tmod n m = 0 ∨ (Int.tmod n m).sign = n.sign := by
      by_cases even : m ∣ n
      · exact .inl (Int.tmod_eq_zero_of_dvd even)
      · exact .inr (by rw [Int.sign_tmod, if_neg even])
    exact ⟨_, Number.rem_gives first second divides, Int.dvd_self_sub_tmod, smaller, sign,
      Number.div_gives first second divides⟩

/-- The first word divided by a big integer that could be a word: the quotient is none. -/
theorem first_word_divided :
    Gives (Number.rem (.int Int64.minValue) (.big (-1) .unassigned)) 0
      ∧ Gives (Number.div (.int Int64.minValue) (.big (-1) .unassigned)) 9223372036854775808 := by
  have first : (Value.int Int64.minValue).int? = some (-9223372036854775808) := by decide
  have second : (Value.big (-1) .unassigned).int? = some (-1) := rfl
  obtain ⟨-, remainder, -⟩ := division_fits_remainder first second
  obtain ⟨r, gives, -, smaller, -, quotient⟩ := remainder (by decide)
  obtain rfl : r = 0 := by omega
  rcases quotient with ⟨-, q, divided, back⟩ | ⟨rest, -⟩
  · obtain rfl : q = 9223372036854775808 := by omega
    exact ⟨gives, divided⟩
  · exact absurd rfl rest

end SlotTalk
