import SlotTalk.Arithmetic
import SlotTalk.Proofs.Calculation
import SlotTalk.Proofs.FloatOfInteger

namespace SlotTalk

/-!
# Equality of values

Values that are no numbers are equal if they have the same face: the content of a text, the identity
of a message, and everything else as it is.  Integers are equal if they are the same integer.  A
float, however, is compared with the float that an integer is rounded to, and so it can be equal to
more than one integer.

* `Value.face`, `equals_iff_face` — all values but numbers.
* `equals_iff_of_int`, `Value.FloatIs`, `equals_iff_of_float` — numbers.
* `equals_trans_or` — three values, of which the one in the middle may be a float.
* `equality_is_an_equivalence_up_to_rounding` — what holds of all values.
-/

open FloatFormat
open Float.Model (UnpackedFloat)

namespace Value

/-- The value is the float that is no number. -/
def isNaN : Value → Bool
  | .float f => f.isNaN
  | _ => false

/-! ### Values that are no numbers -/

/-- What the equality of values that are no numbers looks at. -/
def face : Value → Value
  | .string text => .string text.content
  | .message sent => .message ⟨⟨"", sent.name.identity⟩, 0, none⟩
  | other => other

/-- Values of which one is no number are equal just if they have the same face. -/
theorem equals_iff_face {a b : Value} (plain : a.isNumber = false ∨ b.isNumber = false) :
    a.equals b = true ↔ a.face = b.face := by
  -- Each pair of kinds has its own rule; values of different kinds have different faces.
  cases a <;> cases b <;> simp_all [equals, face, isNumber, sameReference]

/-! ### Numbers -/

variable {a b c : Value}

theorem isNumber_of_ofValue {x : Number} (number : Number.ofValue a = .ok x) :
    a.isNumber = true := by
  cases a with
  | int | big | float => rfl
  | _ => exact nomatch number

/-- Numbers are equal just if they compare as equal. -/
theorem equals_iff_compare (first : a.isNumber = true) (second : b.isNumber = true) :
    a.equals b = true ↔ Number.compare a b = .ok (some .eq) := by
  fun_cases equals a b
  case case5 same => exact ⟨fun _ => same, fun _ => rfl⟩
  case case6 differs =>
    constructor
    · intro wrong
      cases wrong
    · intro same
      exact absurd same differs
  case case7 neither =>
    rw [first, second] at neither
    exact absurd rfl neither
  -- the other pairs of kinds are no numbers
  all_goals cases first

/-- Integers are equal just if they are the same one, however they are held. -/
theorem equals_iff_of_int {m n : Int} (first : a.int? = some m) (second : b.int? = some n) :
    a.equals b = true ↔ m = n := by
  rw [equals_iff_compare (isNumber_of_int first) (isNumber_of_int second),
    Number.compare_of_int first second, Except.ok.injEq, Option.some_inj, Int.compare_eq_eq]

/-- The float that stands for a number where it meets a float. -/
inductive FloatIs : Value → UnpackedFloat → Prop
  | integer {value : Value} {n : Int} (denotes : value.int? = some n) :
    FloatIs value (LeadingWord.toFloat n).toModel.unpack
  | float (value : Float) : FloatIs (.float value) value.toModel.unpack

/-- A value is an integer, or a float, or no number. -/
theorem number_cases (a : Value) :
    (∃ n, a.int? = some n) ∨ (∃ f, a = .float f) ∨ a.isNumber = false := by
  cases a with
  | int word => exact .inl ⟨word.toInt, rfl⟩
  | big n identity => exact .inl ⟨n, rfl⟩
  | float f => exact .inr (.inl ⟨f, rfl⟩)
  | _ => exact .inr (.inr rfl)

theorem FloatIs.number {u : UnpackedFloat} (is : a.FloatIs u) :
    ∃ x, Number.ofValue a = .ok x ∧ x.toFloat.toModel.unpack = u := by
  cases is with
  | integer denotes =>
    obtain ⟨x, isNumber, stands⟩ := Number.ofValue_of_int denotes
    exact ⟨x, isNumber, by rw [Number.toFloat_of_integer stands]⟩
  | float value => exact ⟨.float value, rfl, rfl⟩

/-- A float and a number are equal just if the float that stands for the number is the same
    number. -/
theorem equals_iff_of_float {u v : UnpackedFloat} (first : a.FloatIs u) (second : b.FloatIs v)
    (float : (∃ f, a = .float f) ∨ ∃ f, b = .float f) :
    a.equals b = true ↔ SameNumber u v := by
  obtain ⟨x, isFirst, unpacks⟩ := first.number
  obtain ⟨y, isSecond, unpacks'⟩ := second.number
  have ordered : Calculation.order x y = pure (Number.compareFloats x.toFloat y.toFloat) := by
    rcases float with ⟨f, rfl⟩ | ⟨f, rfl⟩
    · obtain rfl := Except.ok.inj isFirst
      cases y <;> rfl
    · obtain rfl := Except.ok.inj isSecond
      cases x <;> rfl
  have compared : Number.compare a b = .ok (Number.compareFloats x.toFloat y.toFloat) := by
    rw [Number.compare, Number.calculate, isFirst, isSecond]
    exact Calculation.ending_of_eq_pure _ ordered
  rw [equals_iff_compare (isNumber_of_ofValue isFirst) (isNumber_of_ofValue isSecond),
    compared, Except.ok.injEq, compareFloats_eq_iff, unpacks, unpacks']

/-- What is equal has the same number for its float. -/
theorem sameNumber_of_equals {u v : UnpackedFloat} (first : a.FloatIs u) (second : b.FloatIs v)
    (equal : a.equals b = true) : SameNumber u v := by
  cases first with
  | integer denotes =>
    cases second with
    | integer denotes' =>
      obtain rfl := (equals_iff_of_int denotes denotes').mp equal
      exact .refl (converted_toFloat _).ne_nan
    | float g =>
      exact (equals_iff_of_float (.integer denotes) (.float g) (.inr ⟨g, rfl⟩)).mp equal
  | float f => exact (equals_iff_of_float (.float f) second (.inl ⟨f, rfl⟩)).mp equal

/-- Below `2 ^ 53` an integer is equal to just the float that denotes it. -/
theorem equals_float_iff {n : Int} {f : Float} (denotes : a.int? = some n)
    (small : n.natAbs < 2 ^ 53) :
    a.equals (.float f) = true ↔ (Binary64.ofFloat f).exactInt? = some n := by
  rw [equals_iff_of_float (.integer denotes) (.float f) (.inr ⟨f, rfl⟩)]
  exact (converted_toFloat n).sameNumber_iff_exactInt? small

/-! ### An equivalence, up to rounding -/

theorem exists_floatIs (number : a.isNumber = true) : ∃ u, a.FloatIs u := by
  rcases a.number_cases with ⟨n, denotes⟩ | ⟨f, rfl⟩ | plain
  · exact ⟨_, .integer denotes⟩
  · exact ⟨_, .float f⟩
  · exact absurd (number.symm.trans plain) Bool.noConfusion

/-- Nothing but a number is equal to a number. -/
theorem isNumber_of_equals (equal : a.equals b = true) : a.isNumber = b.isNumber := by
  have kept : ∀ value : Value, value.face.isNumber = value.isNumber := by
    intro value
    cases value <;> rfl
  by_cases plain : a.isNumber = false ∨ b.isNumber = false
  · rw [← kept a, (equals_iff_face plain).mp equal, kept b]
  · rw [not_or, Bool.not_eq_false, Bool.not_eq_false] at plain
    rw [plain.1, plain.2]

theorem isNaN_eq_false_iff {f : Float} : f.isNaN = false ↔ f.toModel.unpack ≠ .notANumber := by
  show f.toModel.unpack.isNaN = false ↔ _
  rw [Bool.eq_false_iff, ne_eq, UnpackedFloat.isNaN_iff]

theorem equals_self (number : a.isNaN = false) : a.equals a = true := by
  rcases a.number_cases with ⟨n, denotes⟩ | ⟨f, rfl⟩ | plain
  · exact (equals_iff_of_int denotes denotes).mpr rfl
  · have same : SameNumber f.toModel.unpack f.toModel.unpack :=
      .refl (isNaN_eq_false_iff.mp number)
    exact (equals_iff_of_float (.float f) (.float f) (.inl ⟨f, rfl⟩)).mpr same
  · exact (equals_iff_face (.inl plain)).mpr rfl

/-- The float that is no number is equal to nothing. -/
theorem equals_of_isNaN (nan : a.isNaN = true) : a.equals b = false := by
  rw [Bool.eq_false_iff]
  intro equal
  cases a with
  | float f =>
    have number : b.isNumber = true := (isNumber_of_equals equal).symm
    obtain ⟨v, second⟩ := exists_floatIs number
    have same := sameNumber_of_equals (.float f) second equal
    have other : f.isNaN = false := isNaN_eq_false_iff.mpr same.number
    exact Bool.false_ne_true (other.symm.trans nan)
  | _ => exact nomatch nan

theorem equals_comm (a b : Value) : a.equals b = b.equals a := by
  have forth : ∀ a b : Value, a.equals b = true → b.equals a = true := by
    intro a b equal
    by_cases plain : a.isNumber = false
    · rw [equals_iff_face (.inl plain)] at equal
      exact (equals_iff_face (.inr plain)).mpr equal.symm
    · rw [Bool.not_eq_false] at plain
      obtain ⟨u, firstIs⟩ := exists_floatIs plain
      obtain ⟨v, nextIs⟩ := exists_floatIs ((isNumber_of_equals equal).symm.trans plain)
      have same := (sameNumber_of_equals firstIs nextIs equal).symm
      cases firstIs with
      | float f => exact (equals_iff_of_float nextIs (.float f) (.inr ⟨f, rfl⟩)).mpr same
      | integer denotes =>
        cases nextIs with
        | float g =>
          exact (equals_iff_of_float (.float g) (.integer denotes) (.inl ⟨g, rfl⟩)).mpr same
        | integer denotes' =>
          have same := (equals_iff_of_int denotes denotes').mp equal
          exact (equals_iff_of_int denotes' denotes).mpr same.symm
  rw [Bool.eq_iff_iff]
  exact ⟨forth a b, forth b a⟩

/-- Two different integers that are both rounded to the float between them. -/
structure Rounded (a b c : Value) (m n : Int) : Prop where
  float : ∃ f, b = .float f
  first : a.int? = some m
  last : c.int? = some n
  differ : m ≠ n
  wide : 2 ^ 53 ≤ m.natAbs ∧ 2 ^ 53 ≤ n.natAbs

/-- What is equal to the same value is equal, unless that value is a float and the others are wide
    integers. -/
theorem equals_trans_or (first : a.equals b = true) (second : b.equals c = true) :
    a.equals c = true ∨ ∃ m n, Rounded a b c m n := by
  by_cases plain : a.isNumber = false
  · have middle : b.isNumber = false := (isNumber_of_equals first).symm.trans plain
    rw [equals_iff_face (.inl plain)] at first ⊢
    rw [equals_iff_face (.inl middle)] at second
    exact .inl (first.trans second)
  rw [Bool.not_eq_false] at plain
  have middle := (isNumber_of_equals first).symm.trans plain
  obtain ⟨u, firstIs⟩ := exists_floatIs plain
  obtain ⟨v, nextIs⟩ := exists_floatIs middle
  obtain ⟨w, lastIs⟩ := exists_floatIs ((isNumber_of_equals second).symm.trans middle)
  have same := (sameNumber_of_equals firstIs nextIs first).trans
    (sameNumber_of_equals nextIs lastIs second)
  cases firstIs with
  | float f => exact .inl ((equals_iff_of_float (.float f) lastIs (.inl ⟨f, rfl⟩)).mpr same)
  | @integer _ m denotes =>
    cases lastIs with
    | float h =>
      exact .inl ((equals_iff_of_float (.integer denotes) (.float h) (.inr ⟨h, rfl⟩)).mpr same)
    | @integer _ n denotes'' =>
      by_cases equal : m = n
      · exact .inl ((equals_iff_of_int denotes denotes'').mpr equal)
      · have shared := (converted_toFloat m).eq_or_large (converted_toFloat n) same
        have wide := shared.resolve_left equal
        refine .inr ⟨m, n, ?_, denotes, denotes'', equal, wide⟩
        cases nextIs with
        | float g => exact ⟨g, rfl⟩
        | integer denotes' =>
          -- An integer in the middle would be both of them.
          have same' := (equals_iff_of_int denotes denotes').mp first
          exact absurd (same'.trans ((equals_iff_of_int denotes' denotes'').mp second)) equal

end Value

open Value (Rounded)

/-- **Equality up to rounding.**  Equality is symmetric, and all values but NaN, which is equal to
    nothing, are equal to themselves.  Integers are equal just if they are the same one, and below
    `2 ^ 53` an integer is equal to just the float that denotes it.  What is equal to the same value
    is equal, except for different integers of at least that size that are rounded to one float;
    such integers are also the only ones that differ and are equal to the same value. -/
theorem equality_is_an_equivalence_up_to_rounding (a b c : Value) :
    (a.isNaN = false → a.equals a = true)
      ∧ (a.isNaN = true → a.equals b = false)
      ∧ a.equals b = b.equals a
      ∧ (∀ m n, a.int? = some m → b.int? = some n → (a.equals b = true ↔ m = n))
      ∧ (∀ n f, a.int? = some n → n.natAbs < 2 ^ 53 →
          (a.equals (.float f) = true ↔ (Binary64.ofFloat f).exactInt? = some n))
      ∧ (a.equals b = true → b.equals c = true →
          a.equals c = true ∨ ∃ m n, Rounded a b c m n) :=
  ⟨Value.equals_self, Value.equals_of_isNaN, Value.equals_comm a b,
    fun _ _ first second => Value.equals_iff_of_int first second,
    fun _ _ denotes small => Value.equals_float_iff denotes small, Value.equals_trans_or⟩

/-- The first two integers beyond those that are exact as floats become the same float, and so are
    both equal to it. -/
theorem neighbours_equal_to_one_float :
    Value.equals (.int 9007199254740993) (.int 9007199254740992) = false
      ∧ ∃ m n, Rounded (.int 9007199254740993) (.float (Float.ofBits 0x4340000000000000))
          (.int 9007199254740992) m n := by
  have first : Value.equals (.int 9007199254740993) (.float (Float.ofBits 0x4340000000000000))
      = true := by decide +kernel
  have second : Value.equals (.float (Float.ofBits 0x4340000000000000)) (.int 9007199254740992)
      = true := by decide +kernel
  have differ : Value.equals (.int 9007199254740993) (.int 9007199254740992) = false := by
    decide +kernel
  obtain ⟨-, -, -, -, -, transitive⟩ := equality_is_an_equivalence_up_to_rounding
    (.int 9007199254740993) (.float (Float.ofBits 0x4340000000000000)) (.int 9007199254740992)
  rcases transitive first second with equal | rounded
  · exact absurd (equal.symm.trans differ) Bool.noConfusion
  · exact ⟨differ, rounded⟩

end SlotTalk
