import SlotTalk.HostView
import SlotTalk.Proofs.FloatOfInteger

namespace SlotTalk

/-!
# Numbers as a host gets them

A host asks whether a value fits, and is given a number just if it does.  That number is the one
that the value denotes, with one exception: a big integer fits as soon as its float is finite,
whether or not the float denotes it.

* `FloatFormat.compare_wordLimit` — a whole float compares with the ends of the words as its
  integer does.
* `Value.fitsWord_float_iff`, `Value.asWord_eq_ok_iff` — the words that a host gets.
* `Value.fitsFloat_word_iff`, `Value.asFloat_of_int` — the floats of integers that a host gets.
* `Value.Altered`, `fitting_numbers_keep_their_value` — which integers are not what they were.
-/

open FloatFormat
open Float.Model (UnpackedFloat)

namespace FloatFormat

/-! ### The ends of the words -/

variable {f : Float} {n : Int}

/-- The order of two floats of one sign is that of the numbers, if one of them is `2 ^ 63`. -/
theorem compare_size {m size : Nat} {e : Int} (bound : m < 2 ^ 53)
    (normal : 2 ^ 52 ≤ m ∨ e = Binary64.leastExponent) (whole : 0 ≤ e → size = m * twoTo e.toNat)
    (part : e < 0 → m = size * twoTo (-e).toNat) :
    (compare e 11).then (compare m (2 ^ 52)) = compare (size : Int) wordLimit := by
  have limit : wordLimit = 2 ^ 63 := rfl
  have least : Binary64.leastExponent = -1074 := rfl
  by_cases sign : 0 ≤ e
  · obtain ⟨count, rfl⟩ := Int.eq_ofNat_of_zero_le sign
    have high : 2 ^ 52 ≤ m := by omega
    have product : size = m * 2 ^ count := whole sign
    rcases Nat.lt_trichotomy count 11 with below | rfl | above
    · have power : 2 ^ count ≤ 2 ^ 10 := Nat.pow_le_pow_right (by decide) (by omega)
      have small : size < 2 ^ 63 := by
        calc size = m * 2 ^ count := product
          _ ≤ m * 2 ^ 10 := Nat.mul_le_mul_left m power
          _ < 2 ^ 63 := by omega
      have first : compare (count : Int) 11 = .lt := Int.compare_eq_lt.mpr (by omega)
      have last : compare (size : Int) wordLimit = .lt := Int.compare_eq_lt.mpr (by omega)
      rw [first, last]
      rfl
    · have first : compare ((11 : Nat) : Int) 11 = .eq := Int.compare_eq_eq.mpr rfl
      rw [first, Ordering.eq_then]
      rcases Nat.eq_or_lt_of_le high with rfl | higher
      · have last : compare (size : Int) wordLimit = .eq := Int.compare_eq_eq.mpr (by omega)
        rw [last]
        rfl
      · have second : compare m (2 ^ 52) = .gt := Nat.compare_eq_gt.mpr higher
        have last : compare (size : Int) wordLimit = .gt := Int.compare_eq_gt.mpr (by omega)
        rw [second, last]
    · have power : 2 ^ 12 ≤ 2 ^ count := Nat.pow_le_pow_right (by decide) (by omega)
      have large : 2 ^ 63 < size := by
        calc 2 ^ 63 < 2 ^ 52 * 2 ^ 12 := by decide
          _ ≤ m * 2 ^ count := Nat.mul_le_mul high power
          _ = size := product.symm
      have first : compare (count : Int) 11 = .gt := Int.compare_eq_gt.mpr (by omega)
      have last : compare (size : Int) wordLimit = .gt := Int.compare_eq_gt.mpr (by omega)
      rw [first, last]
      rfl
  · -- A float with digits after the point has no more than fifty-three before it.
    have small : size ≤ m := by
      rw [part (by omega)]
      exact Nat.le_mul_of_pos_right size (twoTo_pos _)
    have first : compare e 11 = .lt := Int.compare_eq_lt.mpr (by omega)
    have last : compare (size : Int) wordLimit = .lt := Int.compare_eq_lt.mpr (by omega)
    rw [first, last]
    rfl

/-- A float that denotes an integer stands on the same side of either end of the words as the
    integer. -/
theorem compare_wordLimit (denotes : (Binary64.ofFloat f).exactInt? = some n) :
    f.toModel.unpack.compare wordLimitFloat.toModel.unpack = some (compare n wordLimit)
      ∧ (-wordLimitFloat).toModel.unpack.compare f.toModel.unpack
        = some (compare (-wordLimit) n) := by
  have above : wordLimitFloat.toModel.unpack = .finite .positive (2 ^ 52) 11 (by decide) := rfl
  have below : (-wordLimitFloat).toModel.unpack = .finite .negative (2 ^ 52) 11 (by decide) := rfl
  have limit : wordLimit = 2 ^ 63 := rfl
  rw [above, below]
  cases unpacks : f.toModel.unpack with
  | notANumber =>
    rw [ofFloat_eq_denoted, unpacks] at denotes
    exact nomatch denotes
  | infinity sign =>
    rw [ofFloat_eq_denoted, unpacks] at denotes
    exact nomatch denotes
  | zero sign =>
    rw [ofFloat_eq_denoted, unpacks, Converted.exactInt?_zero] at denotes
    obtain rfl := Option.some.inj denotes
    exact ⟨rfl, rfl⟩
  | finite sign m e positive =>
    obtain ⟨bound, normal⟩ := canonical_of_float unpacks
    rw [ofFloat_eq_denoted, unpacks] at denotes
    obtain ⟨size, rfl, whole, part⟩ := Binary64.size_of_exactInt? denotes
    have sizes := compare_size bound normal whole part
    cases sign with
    | positive =>
      have order : compare (-wordLimit) (size : Int) = .lt := Int.compare_eq_lt.mpr (by omega)
      refine ⟨congrArg some sizes, ?_⟩
      show some Ordering.lt = some (compare (-wordLimit) (size : Int))
      rw [order]
    | negative =>
      have order : compare (-(size : Int)) wordLimit = .lt := Int.compare_eq_lt.mpr (by omega)
      constructor
      · show some Ordering.lt = some (compare (-(size : Int)) wordLimit)
        rw [order]
      · -- Among negative numbers the greater size is the smaller number.
        show some ((compare 11 e).then (compare (2 ^ 52) m)).swap
          = some (compare (-wordLimit) (-(size : Int)))
        rw [Ordering.swap_then, Int.compare_swap, Nat.compare_swap, sizes, Int.compare_eq_ite_lt,
          Int.compare_eq_ite_lt]
        simp only [Int.neg_lt_neg_iff]

theorem lt_wordLimitFloat_iff (denotes : (Binary64.ofFloat f).exactInt? = some n) :
    f < wordLimitFloat ↔ n < wordLimit := by
  rw [lt_iff_compare, (compare_wordLimit denotes).1, Option.some_inj, Int.compare_eq_lt]

theorem neg_wordLimitFloat_le_iff (denotes : (Binary64.ofFloat f).exactInt? = some n) :
    -wordLimitFloat ≤ f ↔ -wordLimit ≤ n := by
  rw [le_iff_compare, (compare_wordLimit denotes).2]
  simp only [Option.some_inj, exists_eq_left', Int.isLE_compare]

/-- The only infinity below the words becomes the lowest word. -/
theorem toWord_of_infinite {sign : UnpackedFloat.Sign}
    (infinite : f.toModel.unpack = .infinity sign) (below : f < wordLimitFloat) :
    (Binary64.ofFloat f).toWord = -wordLimit := by
  rw [lt_iff_compare, infinite] at below
  rw [ofFloat_eq_denoted, infinite]
  cases sign with
  | positive => cases below
  | negative => rfl

end FloatFormat

namespace Value

/-! ### Words -/

/-- A float fits in a word if it denotes an integer that does. -/
theorem fitsWord_float_iff {f : Float} :
    fitsWord (.float f) = true
      ↔ ∃ n, (Binary64.ofFloat f).exactInt? = some n ∧ SlotTalk.fitsWord n = true := by
  cases denotes : (Binary64.ofFloat f).exactInt? with
  | none => simp [fitsWord, denotes]
  | some n =>
    have least := neg_wordLimitFloat_le_iff denotes
    have most := lt_wordLimitFloat_iff denotes
    simp [fitsWord, denotes, least, most, fitsWord_iff]

/-- A host gets the word that is the value, or that the float denotes. -/
theorem asWord_eq_ok_iff {a : Value} {n : Int} :
    a.asWord = .ok n ↔ (∃ word, a = .int word ∧ word.toInt = n)
      ∨ ∃ f, a = .float f ∧ (Binary64.ofFloat f).exactInt? = some n
        ∧ SlotTalk.fitsWord n = true := by
  cases a with
  | int word => simp [asWord]
  | float f =>
    constructor
    · intro got
      by_cases fits : fitsWord (.float f) = true
      · obtain ⟨k, denotes, inRange⟩ := fitsWord_float_iff.mp fits
        rw [asWord, if_pos fits, Binary64.toWord_of_exactInt? denotes,
          clampWord_of_fitsWord inRange] at got
        obtain rfl := Except.ok.inj got
        exact .inr ⟨f, rfl, denotes, inRange⟩
      · rw [asWord, if_neg fits] at got
        exact nomatch got
    · rintro (⟨word, wrong, -⟩ | ⟨g, same, denotes, inRange⟩)
      · exact nomatch wrong
      · obtain rfl := Value.float.inj same
        rw [asWord, if_pos (fitsWord_float_iff.mpr ⟨n, denotes, inRange⟩),
          Binary64.toWord_of_exactInt? denotes, clampWord_of_fitsWord inRange]
  | _ => simp [asWord]

theorem fitsWord_iff_asWord (a : Value) : a.fitsWord = true ↔ ∃ n, a.asWord = .ok n := by
  simp only [asWord_eq_ok_iff]
  cases a with
  | int word => simp [fitsWord]
  | float f => simp [fitsWord_float_iff]
  | _ => simp [fitsWord]

/-! ### Floats -/

/-- The lowest word is a float. -/
theorem exactInt?_lowest :
    (Binary64.ofFloat (LeadingWord.toFloat (-wordLimit))).exactInt? = some (-wordLimit) := by
  decide +kernel

/-- A word fits in a float just if the float that stands for it denotes it. -/
theorem fitsFloat_word_iff (word : Int64) :
    fitsFloat (.int word) = true
      ↔ (Binary64.ofFloat (LeadingWord.toFloat word.toInt)).exactInt? = some word.toInt := by
  obtain ⟨least, most⟩ := fitsWord_iff.mp (fitsWord_toInt word)
  have parts : fitsFloat (.int word) = true ↔ LeadingWord.toFloat word.toInt < wordLimitFloat
      ∧ (Binary64.ofFloat (LeadingWord.toFloat word.toInt)).toWord = word.toInt := by
    show (decide _ && decide _) = true ↔ _
    rw [Bool.and_eq_true, decide_eq_true_iff, decide_eq_true_iff]
    rfl
  rw [parts]
  generalize word.toInt = n at least most
  constructor
  · rintro ⟨below, back⟩
    by_cases lowest : n = -wordLimit
    · rw [lowest]
      exact exactInt?_lowest
    cases denotes : (Binary64.ofFloat (LeadingWord.toFloat n)).exactInt? with
    | some k =>
      rw [lt_wordLimitFloat_iff denotes] at below
      rw [Binary64.toWord_of_exactInt? denotes, clampWord] at back
      congr 1
      omega
    | none =>
      have infinite : (LeadingWord.toFloat n).toModel.unpack = .infinity (signOf n) := by
        refine (converted_toFloat n).whole_or_infinite.resolve_left ?_
        rintro ⟨k, whole⟩
        rw [ofFloat_eq_denoted, whole] at denotes
        cases denotes
      exact absurd (back.symm.trans (toWord_of_infinite infinite below)) lowest
  · intro denotes
    rw [lt_wordLimitFloat_iff denotes, Binary64.toWord_of_exactInt? denotes]
    exact ⟨most, clampWord_of_fitsWord (fitsWord_iff.mpr ⟨least, most⟩)⟩

/-- What a host gets for an integer that fits is the float that stands for it in arithmetic. -/
theorem asFloat_of_int {a : Value} {n : Int} (denotes : a.int? = some n) :
    a.asFloat
      = if a.fitsFloat then .ok (LeadingWord.toFloat n) else .error (.mismatch "Float" a) := by
  cases a with
  | int word =>
    obtain rfl := Option.some.inj denotes
    rfl
  | big wide identity =>
    obtain rfl := Option.some.inj denotes
    rfl
  | _ => exact nomatch denotes

theorem asFloat_eq_ok_iff_of_int {a : Value} {n : Int} {f : Float} (denotes : a.int? = some n) :
    a.asFloat = .ok f ↔ a.fitsFloat = true ∧ LeadingWord.toFloat n = f := by
  rw [asFloat_of_int denotes]
  cases a.fitsFloat <;> simp

theorem fitsFloat_iff_asFloat (a : Value) : a.fitsFloat = true ↔ ∃ f, a.asFloat = .ok f := by
  cases a with
  | float f => exact ⟨fun _ => ⟨f, rfl⟩, fun _ => rfl⟩
  | int word => simp [asFloat_eq_ok_iff_of_int (a := .int word) rfl]
  | big n identity => simp [asFloat_eq_ok_iff_of_int (a := .big n identity) rfl]
  | _ => simp [asFloat, fitsFloat]

/-- A big integer that a host gets as a float that does not denote it. -/
structure Altered (value : Value) (n : Int) (f : Float) : Prop where
  big : ∃ identity, value = .big n identity
  wide : 2 ^ 53 ≤ n.natAbs
  float : f = LeadingWord.toFloat n
  finite : (Binary64.ofFloat f).isFinite = true
  differs : (Binary64.ofFloat f).exactInt? ≠ some n

/-- A float that a host gets for an integer denotes it, but for big integers that are altered. -/
theorem exact_or_altered {a : Value} {n : Int} {f : Float} (denotes : a.int? = some n)
    (got : a.asFloat = .ok f) : (Binary64.ofFloat f).exactInt? = some n ∨ a.Altered n f := by
  obtain ⟨fits, rfl⟩ := (asFloat_eq_ok_iff_of_int denotes).mp got
  cases a with
  | int word =>
    obtain rfl := Option.some.inj denotes
    exact .inl ((fitsFloat_word_iff word).mp fits)
  | big wide identity =>
    obtain rfl := Option.some.inj denotes
    by_cases same : (Binary64.ofFloat (LeadingWord.toFloat wide)).exactInt? = some wide
    · exact .inl same
    · refine .inr ⟨⟨identity, rfl⟩, ?_, rfl, fits, same⟩
      by_contra small
      rw [ofFloat_eq_denoted] at same
      exact same ((converted_toFloat wide).exactInt?_denoted (by omega))
  | _ => exact nomatch denotes

end Value

/-- Floats that denote different integers are different. -/
theorem FloatFormat.beq_eq_false_of_exactInt? {x y : Float} {m n : Int}
    (first : (Binary64.ofFloat x).exactInt? = some m)
    (second : (Binary64.ofFloat y).exactInt? = some n) (differ : m ≠ n) : (x == y) = false := by
  rw [Bool.eq_false_iff, ne_eq, beq_iff_sameNumber]
  rintro ⟨-, same | ⟨⟨s, zero⟩, ⟨t, zero'⟩⟩⟩
  · rw [ofFloat_eq_denoted, same, ← ofFloat_eq_denoted, second] at first
    exact differ (Option.some.inj first).symm
  · rw [ofFloat_eq_denoted, zero, Converted.exactInt?_zero] at first
    rw [ofFloat_eq_denoted, zero', Converted.exactInt?_zero] at second
    exact differ ((Option.some.inj first).symm.trans (Option.some.inj second))

/-- **Numbers as a host gets them.**  A host gets a word, or a float, just if the value fits.  The
    word is the integer that the value denotes.  The float is the value itself or denotes its
    integer, except for wide big integers, which are given as floats that need not denote them; a
    word fits in a float just if its float denotes it.  So two different integers are given as
    different floats, unless one of them is a big integer that was altered. -/
theorem fitting_numbers_keep_their_value (a b : Value) :
    (a.fitsWord = true ↔ ∃ n, a.asWord = .ok n)
      ∧ (a.fitsFloat = true ↔ ∃ f, a.asFloat = .ok f)
      ∧ (∀ n, a.asWord = .ok n → (∃ word, a = .int word ∧ word.toInt = n)
          ∨ ∃ f, a = .float f ∧ (Binary64.ofFloat f).exactInt? = some n)
      ∧ (∀ word, a = .int word → (a.fitsFloat = true
          ↔ (Binary64.ofFloat (LeadingWord.toFloat word.toInt)).exactInt? = some word.toInt))
      ∧ (∀ f, a.asFloat = .ok f → a = .float f
          ∨ ∃ n, a.int? = some n ∧ ((Binary64.ofFloat f).exactInt? = some n ∨ a.Altered n f))
      ∧ ∀ m n x y, a.int? = some m → b.int? = some n → m ≠ n → a.asFloat = .ok x →
          b.asFloat = .ok y → (x == y) = false ∨ a.Altered m x ∨ b.Altered n y := by
  refine ⟨a.fitsWord_iff_asWord, a.fitsFloat_iff_asFloat, ?_, ?_, ?_, ?_⟩
  · intro n got
    rcases Value.asWord_eq_ok_iff.mp got with word | ⟨f, float, denotes, -⟩
    · exact .inl word
    · exact .inr ⟨f, float, denotes⟩
  · rintro word rfl
    exact Value.fitsFloat_word_iff word
  · intro f got
    cases a with
    | float g => exact .inl (congrArg Value.float (Except.ok.inj got))
    | int word => exact .inr ⟨_, rfl, Value.exact_or_altered rfl got⟩
    | big n identity => exact .inr ⟨_, rfl, Value.exact_or_altered rfl got⟩
    | _ => exact nomatch got
  · intro m n x y first second differ got got'
    rcases Value.exact_or_altered first got with exactly | altered
    · rcases Value.exact_or_altered second got' with exactly' | altered'
      · exact .inl (beq_eq_false_of_exactInt? exactly exactly' differ)
      · exact .inr (.inr altered')
    · exact .inr (.inl altered)

/-- The first integer above the words and the one after it both fit, and are given as the same
    float, which denotes the first of them. -/
theorem neighbours_beyond_the_words_become_one_float :
    ∃ f, Value.asFloat (.big wordLimit .unassigned) = .ok f
      ∧ Value.asFloat (.big (wordLimit + 1) .unassigned) = .ok f
      ∧ (Binary64.ofFloat f).exactInt? = some wordLimit
      ∧ Value.Altered (.big (wordLimit + 1) .unassigned) (wordLimit + 1) f := by
  have same : LeadingWord.toFloat (wordLimit + 1) = LeadingWord.toFloat wordLimit := by
    decide +kernel
  have number : (LeadingWord.toFloat wordLimit == LeadingWord.toFloat wordLimit) = true := by
    decide +kernel
  have exactly : (Binary64.ofFloat (LeadingWord.toFloat wordLimit)).exactInt? = some wordLimit := by
    decide +kernel
  have first : Value.asFloat (.big wordLimit .unassigned) = .ok (LeadingWord.toFloat wordLimit) :=
    (Value.asFloat_eq_ok_iff_of_int rfl).mpr ⟨by decide +kernel, rfl⟩
  have second : Value.asFloat (.big (wordLimit + 1) .unassigned)
      = .ok (LeadingWord.toFloat wordLimit) :=
    (Value.asFloat_eq_ok_iff_of_int rfl).mpr ⟨by decide +kernel, same⟩
  obtain ⟨-, -, -, -, -, apart⟩ := fitting_numbers_keep_their_value
    (.big wordLimit .unassigned) (.big (wordLimit + 1) .unassigned)
  refine ⟨_, first, second, exactly, ?_⟩
  rcases apart wordLimit (wordLimit + 1) _ _ rfl rfl (by decide) first second with
    different | altered | altered
  · exact absurd (number.symm.trans different) Bool.noConfusion
  · exact absurd exactly altered.differs
  · exact altered

end SlotTalk
