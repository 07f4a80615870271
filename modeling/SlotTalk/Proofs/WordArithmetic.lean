import SlotTalk.Arithmetic

namespace SlotTalk

/-!
# Words and integers

A calculation goes over words, over integers of any size, or over floats.  With integers the result
is the same on the first two ways, and it is the one over the integers.

* `Value.ofInt_toInt`, `checked_eq_ofInt` — words as canonical integers.
* `arithmetic_of_integers`, `division_of_integers`, `remainder_of_integers`, `order_of_integers` —
  calculations with two integers.
* `Calculation.Ends` — the ways in which calculations with any two numbers end.
-/

/-! ### Words -/

/-- A word is the canonical value of its integer. -/
theorem Value.ofInt_toInt (word : Int64) : Value.ofInt word.toInt = .int word := by
  rw [Value.ofInt, if_pos (fitsWord_toInt word), Int64.ofInt_toInt]

namespace Number.Operation

/-- Words wrap around to the word of the exact result. -/
theorem wrapping_eq_ofInt (operation : Operation) (x y : Int64) :
    operation.wrapping x y = Int64.ofInt (operation.exact x.toInt y.toInt) := by
  cases operation with
  | add => simp [wrapping, exact]
  | sub => simp [wrapping, exact]
  | mul => simp [wrapping, exact]

/-- What is checked to be a word is the canonical value of the exact result. -/
theorem checked_eq_ofInt {operation : Operation} {x y word : Int64}
    (stays : operation.checked x y = some word) :
    Value.int word = .ofInt (operation.exact x.toInt y.toInt) := by
  unfold checked at stays
  split at stays
  next fits =>
    obtain rfl := Option.some.inj stays
    rw [Value.ofInt, if_pos fits, wrapping_eq_ofInt]
  next => exact nomatch stays

end Number.Operation

namespace Word

theorem overflows_iff {x y : Int64} :
    overflows x y = true ↔ x = Int64.minValue ∧ y = -1 := by
  rw [overflows, Bool.and_eq_true_iff, beq_iff_eq, beq_iff_eq]

/-- Where it does not overflow, the quotient of words is the canonical one of their integers. -/
theorem quotient_eq_ofInt {x y : Int64} (stays : ¬ overflows x y = true) :
    Value.int (x / y) = .ofInt (Int.tdiv x.toInt y.toInt) := by
  have quotient : (x / y).toInt = Int.tdiv x.toInt y.toInt := by
    by_cases least : x = Int64.minValue
    · exact Int64.toInt_div_of_ne_right x y fun minus => stays (overflows_iff.mpr ⟨least, minus⟩)
    · exact Int64.toInt_div_of_ne_left x y least
  rw [← quotient, Value.ofInt_toInt]

theorem toInt_eq_zero_iff {x : Int64} : x.toInt = 0 ↔ x = 0 := Int64.toInt_inj (y := 0)

/-- The words are ordered like their integers. -/
theorem compare_toInt (x y : Int64) : compare x y = compare x.toInt y.toInt := by
  show compareOfLessAndEq x y = compareOfLessAndEq x.toInt y.toInt
  simp only [compareOfLessAndEq, Int64.lt_iff_toInt_lt, Int64.toInt_inj]

end Word

/-! ### Calculations with integers -/

namespace Calculation

/-- Two integers are both words, or one of them is a big integer. -/
@[elab_as_elim]
theorem integers_cases {motive : Number → Number → Int → Int → Prop}
    (words : ∀ p q : Int64, motive (.word p) (.word q) p.toInt q.toInt)
    (left : ∀ (p : Int64) (n : Int), motive (.word p) (.big n) p.toInt n)
    (right : ∀ (m : Int) (q : Int64), motive (.big m) (.word q) m q.toInt)
    (both : ∀ m n : Int, motive (.big m) (.big n) m n) {x y : Number} {m n : Int}
    (first : integerOf x = .ok m) (second : integerOf y = .ok n) : motive x y m n := by
  cases x with
  | float => exact nomatch first
  | word p =>
    obtain rfl := Except.ok.inj first
    cases y with
    | float => exact nomatch second
    | word q => exact Except.ok.inj second ▸ words p q
    | big q => exact Except.ok.inj second ▸ left p q
  | big p =>
    obtain rfl := Except.ok.inj first
    cases y with
    | float => exact nomatch second
    | word q => exact Except.ok.inj second ▸ right p q
    | big q => exact Except.ok.inj second ▸ both p q

/-- Two words are divided as their integers are. -/
theorem division_of_words (p q : Int64) :
    division (.word p) (.word q) =
      if q.toInt = 0 then throw .divisionByZero
      else if Int.tmod p.toInt q.toInt = 0 then return .ofInt (Int.tdiv p.toInt q.toInt)
      else return .float ((Number.word p).toFloat / (Number.word q).toFloat) := by
  simp only [division, Word.remainder?, Word.toInt_eq_zero_iff]
  by_cases zero : q = 0
  · rw [if_pos zero, if_pos zero]
  rw [if_neg zero, if_neg zero]
  by_cases overflow : Word.overflows p q = true
  · -- The one quotient that is no word; it divides evenly.
    obtain ⟨rfl, rfl⟩ := Word.overflows_iff.mp overflow
    rfl
  · have rest : Int.tmod p.toInt q.toInt = 0 ↔ p % q = 0 := by
      rw [← Int64.toInt_mod, Word.toInt_eq_zero_iff]
    simp only [zero, overflow, Word.quotient, rest, or_self, Bool.false_eq_true, ↓reduceIte]
    rw [step_eq, Word.quotient_eq_ofInt overflow]

theorem remainder_of_words (p q : Int64) :
    remainder (.word p) (.word q) =
      if q.toInt = 0 then throw .divisionByZero else return .ofInt (Int.tmod p.toInt q.toInt) := by
  simp only [remainder, Word.remainder?, Word.toInt_eq_zero_iff]
  by_cases zero : q = 0
  · rw [if_pos zero, if_pos zero]
  rw [if_neg zero, if_neg zero]
  by_cases overflow : Word.overflows p q = true
  · obtain ⟨rfl, rfl⟩ := Word.overflows_iff.mp overflow
    rfl
  · simp only [zero, overflow, or_self, Bool.false_eq_true, ↓reduceIte, Option.getD_some]
    rw [← Int64.toInt_mod, Value.ofInt_toInt]

section Integers

variable {x y : Number} {m n : Int} (first : integerOf x = .ok m) (second : integerOf y = .ok n)
include first second

/-- Sum, difference and product of integers are exact and canonical. -/
theorem arithmetic_of_integers (operation : Number.Operation) :
    arithmetic operation x y = pure (.ofInt (operation.exact m n)) := by
  refine integers_cases ?words ?left ?right ?both first second
  case words =>
    intro p q
    unfold arithmetic
    dsimp only
    cases stays : operation.onWords? (.word p) (.word q) with
    | none => rfl
    | some word => exact congrArg pure (Number.Operation.checked_eq_ofInt stays)
  case left | right | both => exact fun _ _ => rfl

/-- Integers that divide evenly have the canonical integer as their quotient, others a float. -/
theorem division_of_integers :
    division x y =
      if n = 0 then throw .divisionByZero
      else if Int.tmod m n = 0 then return .ofInt (Int.tdiv m n)
      else return .float (x.toFloat / y.toFloat) := by
  refine integers_cases ?words ?left ?right ?both first second
  case words => exact division_of_words
  case left | right | both => exact fun _ _ => wideDivision_eq rfl rfl

/-- The remainder of integers is exact and canonical. -/
theorem remainder_of_integers :
    remainder x y =
      if n = 0 then throw .divisionByZero else return .ofInt (Int.tmod m n) := by
  refine integers_cases ?words ?left ?right ?both first second
  case words => exact remainder_of_words
  case left | right | both => exact fun _ _ => wideRemainder_eq rfl rfl

/-- Integers are ordered as such. -/
theorem order_of_integers : order x y = pure (some (compare m n)) := by
  refine integers_cases ?words ?left ?right ?both first second
  case words => exact fun p q => congrArg (fun order => pure (some order)) (Word.compare_toInt p q)
  case left | right | both => exact fun _ _ => rfl

end Integers

/-! ### Calculations with any numbers -/

/-- Two numbers are both integers, or one of them is a float. -/
theorem integers_or_float (x y : Number) :
    (∃ m n, integerOf x = .ok m ∧ integerOf y = .ok n)
      ∨ ∃ value, x = .float value ∨ y = .float value := by
  cases x with
  | float value => exact .inr ⟨value, .inl rfl⟩
  | word | big =>
    cases y with
    | float value => exact .inr ⟨value, .inr rfl⟩
    | word | big => exact .inl ⟨_, _, rfl, rfl⟩

/-- The ways in which a calculation ends: with a canonical integer, with a float, or without a
    result for lack of a divisor. -/
inductive Ends : Calculation Value → Prop where
  | integer (n : Int) : Ends (pure (.ofInt n))
  | float (value : Float) : Ends (pure (.float value))
  | zero : Ends (throw .divisionByZero)

theorem arithmetic_ends (operation : Number.Operation) (x y : Number) :
    (arithmetic operation x y).Ends := by
  rcases integers_or_float x y with ⟨m, n, first, second⟩ | ⟨value, rfl | rfl⟩
  · rw [arithmetic_of_integers first second]
    exact .integer _
  · exact .float _
  · cases x <;> exact .float _

theorem division_ends (x y : Number) : (division x y).Ends := by
  rcases integers_or_float x y with ⟨m, n, first, second⟩ | ⟨value, rfl | rfl⟩
  · rw [division_of_integers first second]
    split
    · exact .zero
    · split
      · exact .integer _
      · exact .float _
  · exact .float _
  · cases x <;> exact .float _

theorem remainder_ends (x y : Number) : (remainder x y).Ends := by
  rcases integers_or_float x y with ⟨m, n, first, second⟩ | ⟨value, rfl | rfl⟩
  · rw [remainder_of_integers first second]
    split
    · exact .zero
    · exact .integer _
  · exact .float _
  · cases x <;> exact .float _

theorem order_ends (x y : Number) : ∃ order, Calculation.order x y = pure order := by
  rcases integers_or_float x y with ⟨m, n, first, second⟩ | ⟨value, rfl | rfl⟩
  · exact ⟨_, order_of_integers first second⟩
  · exact ⟨_, rfl⟩
  · cases x <;> exact ⟨_, rfl⟩

end Calculation

end SlotTalk
