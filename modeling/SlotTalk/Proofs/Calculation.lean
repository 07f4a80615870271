import SlotTalk.Primitive.Scalars
import SlotTalk.Proofs.WordArithmetic

namespace SlotTalk

/-!
# Calculations

A calculation answers with a canonical number or with the operand as it was, and a comparison with a
truth value.  Both fail for lack of a number only, or because of a zero.

* `RuntimeError.OfCalculation`, `Calculates` — the ways in which a calculation may end.
* `Action.ofCalculation_on` — what is given of the value of a calculation.
* `Value.Calculated` — the answers of calculations.
* `Number.add_calculates` and its siblings — arithmetic and order.
* `Number.compare_of_int`, `Number.add_of_int` and their siblings — on integers of any size.
* `NumberPrimitive.answer_calculates` — the built-ins of numbers.
-/

/-- What a calculation fails with. -/
inductive RuntimeError.OfCalculation : RuntimeError → Prop where
  | mismatch (expected : String) (got : Value) : OfCalculation (.mismatch expected got)
  | divisionByZero : OfCalculation .divisionByZero

/-- The calculation answers with what has the property, or fails as calculations do. -/
def Calculates {α : Type} (answers : α → Prop) : Except RuntimeError α → Prop
  | .ok answer => answers answer
  | .error error => error.OfCalculation

/-- One calculation after another: the second one starts from what the first one answers, and is not
    made if the first one fails. -/
theorem Calculates.bind {α β : Type} {answers : α → Prop} {answers' : β → Prop}
    {x : Except RuntimeError α} {f : α → Except RuntimeError β} (first : Calculates answers x)
    (rest : ∀ value, answers value → Calculates answers' (f value)) :
    Calculates answers' (x >>= f) := by
  cases x with
  | ok value => exact rest value first
  | error error => exact first

/-- A big integer that was calculated is given an identity, and stays the same integer; all else is
    given as it is. -/
theorem Action.ofCalculation_on (value : Value) (engine : Engine) :
    ∃ given after, (Action.ofCalculation (.ok value)).on engine = (.ok given, after)
      ∧ after.store = engine.store ∧ given.int? = value.int?
      ∧ (given = value ∨ ∃ n identity, value = .big n .unassigned ∧ given = .big n identity) := by
  cases value with
  | big n identity =>
    cases identity with
    | unassigned => exact ⟨_, _, rfl, rfl, rfl, .inr ⟨n, _, rfl, rfl⟩⟩
    | _ => exact ⟨_, engine, rfl, rfl, rfl, .inl rfl⟩
  | _ => exact ⟨_, engine, rfl, rfl, rfl, .inl rfl⟩

/-- An integer in its canonical form, a float, a truth value, or the operand itself. -/
inductive Value.Calculated (operand : Value) : Value → Prop where
  | integer (n : Int) : Calculated operand (.ofInt n)
  | float (value : Float) : Calculated operand (.float value)
  | truth (value : Bool) : Calculated operand (.bool value)
  | operand : Calculated operand operand

/-- A calculation without steps ends with its result. -/
theorem Calculation.ending_of_eq_pure {α : Type} {calculation : Calculation α} {result : α}
    (faultless : calculation.Faultless) (same : calculation = pure result) :
    calculation.ending faultless = .ok result := by
  subst same
  rfl

namespace Calculates

variable {α : Type} {answers : α → Prop}

/-- A calculation without steps, about whose result something is known. -/
theorem of_pure {calculation : Calculation α} (faultless : calculation.Faultless) {value : α}
    (same : calculation = pure value) (holds : answers value) :
    Calculates answers (calculation.ending faultless) := by
  subst same
  exact holds

/-- All ways in which calculations end are among those. -/
theorem of_ends {calculation : Calculation Value} {operand : Value}
    (faultless : calculation.Faultless) (ends : calculation.Ends) :
    Calculates (Value.Calculated operand) (calculation.ending faultless) := by
  cases ends with
  | integer n => exact .integer n
  | float value => exact .float value
  | zero => exact .divisionByZero

end Calculates

namespace Number

/-- A value is a number, or is reported where a number was expected. -/
theorem ofValue_calculates (value : Value) : Calculates (fun _ => True) (ofValue value) := by
  unfold ofValue
  split
  · trivial
  · exact .mismatch "Number" value

/-- What holds of all calculations with numbers holds of those with values. -/
theorem calculate_calculates {α : Type} {answers : α → Prop}
    {calculation : Number → Number → Calculation α}
    (faultless : ∀ x y, (calculation x y).Faultless)
    (ends : ∀ x y, Calculates answers ((calculation x y).ending (faultless x y))) (a b : Value) :
    Calculates answers (calculate faultless a b) :=
  .bind (ofValue_calculates a) fun x _ => .bind (ofValue_calculates b) fun y _ => ends x y

/-- A comparison fails for lack of a number only. -/
theorem compare_calculates (a b : Value) : Calculates (fun _ => True) (compare a b) := by
  refine calculate_calculates _ (fun x y => ?_) a b
  obtain ⟨order, ordered⟩ := Calculation.order_ends x y
  exact .of_pure _ ordered trivial

/-- What is a number by its kind can be calculated with. -/
theorem ofValue_of_isNumber {value : Value} (number : value.isNumber = true) :
    ∃ x, ofValue value = .ok x := by
  cases value with
  | int | big | float => exact ⟨_, rfl⟩
  | _ => exact nomatch number

/-- Any two numbers can be compared, also those without an order. -/
theorem compare_of_isNumber {a b : Value} (first : a.isNumber = true) (second : b.isNumber = true) :
    ∃ order, compare a b = .ok order := by
  obtain ⟨x, isFirst⟩ := ofValue_of_isNumber first
  obtain ⟨y, isSecond⟩ := ofValue_of_isNumber second
  obtain ⟨order, ordered⟩ := Calculation.order_ends x y
  refine ⟨order, ?_⟩
  rw [compare, calculate, isFirst, isSecond]
  exact Calculation.ending_of_eq_pure _ ordered

variable {operand : Value}

/-- A sum is canonical, or a float. -/
theorem add_calculates (a b : Value) : Calculates (Value.Calculated operand) (add a b) :=
  calculate_calculates _ (fun x y => .of_ends _ (Calculation.arithmetic_ends .add x y)) a b

/-- A difference is canonical, or a float. -/
theorem sub_calculates (a b : Value) : Calculates (Value.Calculated operand) (sub a b) :=
  calculate_calculates _ (fun x y => .of_ends _ (Calculation.arithmetic_ends .sub x y)) a b

/-- A product is canonical, or a float. -/
theorem mul_calculates (a b : Value) : Calculates (Value.Calculated operand) (mul a b) :=
  calculate_calculates _ (fun x y => .of_ends _ (Calculation.arithmetic_ends .mul x y)) a b

/-- A quotient is canonical if the division is exact, and a float otherwise; zero is no divisor. -/
theorem div_calculates (a b : Value) : Calculates (Value.Calculated operand) (div a b) :=
  calculate_calculates _ (fun x y => .of_ends _ (Calculation.division_ends x y)) a b

/-- A remainder is canonical, or a float; zero is no divisor. -/
theorem rem_calculates (a b : Value) : Calculates (Value.Calculated operand) (rem a b) :=
  calculate_calculates _ (fun x y => .of_ends _ (Calculation.remainder_ends x y)) a b

/-- To negate is to subtract from zero. -/
theorem negate_calculates (a : Value) : Calculates (Value.Calculated operand) (negate a) :=
  sub_calculates _ a

/-- A number that is not below zero is its own answer. -/
theorem abs_calculates (a : Value) : Calculates (Value.Calculated a) (abs a) := by
  refine .bind (compare_calculates a _) fun order _ => ?_
  split
  · exact negate_calculates a
  · exact .operand

/-- An integer is its own answer, and so is a float that has no fraction to lose. -/
theorem floor_calculates (a : Value) : Calculates (Value.Calculated a) (floor a) := by
  unfold floor
  split
  · split
    · split
      · exact .integer _
      · exact .operand
    · exact .operand
  · exact .operand
  · exact .operand
  · exact .mismatch "Number" a

end Number

/-! ### Integers -/

/-- The value of an integer denotes it. -/
theorem Value.int?_ofInt (n : Int) : (Value.ofInt n).int? = some n := by
  rw [ofInt]
  split
  next fits =>
    obtain ⟨above, below⟩ := Bool.and_eq_true_iff.mp fits
    exact congrArg some
      (Int64.toInt_ofInt_of_le (of_decide_eq_true above) (of_decide_eq_true below))
  next => rfl

/-- What denotes an integer is a number. -/
theorem Value.isNumber_of_int {value : Value} {n : Int} (denotes : value.int? = some n) :
    value.isNumber = true := by
  cases value with
  | int | big => rfl
  | _ => exact nomatch denotes

namespace Number

/-- A value that denotes an integer is a number that stands for it. -/
theorem ofValue_of_int {value : Value} {n : Int} (denotes : value.int? = some n) :
    ∃ x, ofValue value = .ok x ∧ Calculation.integerOf x = .ok n := by
  cases value with
  | int word =>
    obtain rfl := Option.some.inj denotes
    exact ⟨.word word, rfl, rfl⟩
  | big n identity =>
    obtain rfl := Option.some.inj denotes
    exact ⟨.big n, rfl, rfl⟩
  | _ => exact nomatch denotes

/-- All representations of an integer have the same nearest float. -/
theorem toFloat_of_integer {x : Number} {n : Int} (stands : Calculation.integerOf x = .ok n) :
    x.toFloat = LeadingWord.toFloat n := by
  cases x with
  | word | big =>
    obtain rfl := Except.ok.inj stands
    rfl
  | float => exact nomatch stands

section Integers

variable {a b : Value} {n m : Int} (first : a.int? = some n) (second : b.int? = some m)
include first second

/-- What holds of a calculation with numbers that stand for the integers holds of that with the
    values. -/
theorem calculate_of_int {α : Type} {calculation : Number → Number → Calculation α}
    {faultless : ∀ x y, (calculation x y).Faultless} {result : Except RuntimeError α}
    (runs : ∀ x y, Calculation.integerOf x = .ok n → Calculation.integerOf y = .ok m →
      (calculation x y).run = .ok result) : calculate faultless a b = result := by
  obtain ⟨x, isFirst, standsFirst⟩ := ofValue_of_int first
  obtain ⟨y, isSecond, standsSecond⟩ := ofValue_of_int second
  rw [calculate, isFirst, isSecond]
  have ended : (calculation x y).run.toOption = some result :=
    congrArg Except.toOption (runs x y standsFirst standsSecond)
  exact Option.get_of_eq_some (faultless x y) ended

/-- Integers are ordered by their values, whatever represents them. -/
theorem compare_of_int : compare a b = .ok (some (Ord.compare n m)) :=
  calculate_of_int first second fun _ _ hx hy => Calculation.order_of_integers hx hy

/-- The sum of integers is exact. -/
theorem add_of_int : add a b = .ok (.ofInt (n + m)) :=
  calculate_of_int first second fun _ _ hx hy => Calculation.arithmetic_of_integers hx hy .add

/-- The difference of integers is exact. -/
theorem sub_of_int : sub a b = .ok (.ofInt (n - m)) :=
  calculate_of_int first second fun _ _ hx hy => Calculation.arithmetic_of_integers hx hy .sub

/-- The product of integers is exact. -/
theorem mul_of_int : mul a b = .ok (.ofInt (n * m)) :=
  calculate_of_int first second fun _ _ hx hy => Calculation.arithmetic_of_integers hx hy .mul

/-- The quotient of integers is exact if there is no remainder, and is that of their floats
    otherwise. -/
theorem div_of_int :
    div a b =
      if m = 0 then .error .divisionByZero
      else if Int.tmod n m = 0 then .ok (.ofInt (Int.tdiv n m))
      else .ok (.float (LeadingWord.toFloat n / LeadingWord.toFloat m)) := by
  refine calculate_of_int first second fun x y hx hy => ?_
  -- The division by zero and the two ways to divide are the cases of the calculation as well.
  rw [Calculation.division_of_integers hx hy, toFloat_of_integer hx, toFloat_of_integer hy]
  split
  · rfl
  · split <;> rfl

/-- The remainder of integers is exact, and has the sign of the dividend. -/
theorem rem_of_int :
    rem a b = if m = 0 then .error .divisionByZero else .ok (.ofInt (Int.tmod n m)) := by
  refine calculate_of_int first second fun x y hx hy => ?_
  rw [Calculation.remainder_of_integers hx hy]
  split <;> rfl

end Integers

/-- The negation of an integer is exact. -/
theorem negate_of_int {a : Value} {n : Int} (denotes : a.int? = some n) :
    negate a = .ok (.ofInt (-n)) := by
  have zero : (Value.int 0).int? = some 0 := rfl
  rw [negate, sub_of_int zero denotes, Int.zero_sub]

end Number

/-- A comparison by order answers with a truth value, also where there is no order. -/
theorem NumberPrimitive.ordered_calculates {operand : Value} (accepted : List Ordering)
    (a b : Value) : Calculates (Value.Calculated operand) (ordered accepted a b) := by
  refine .bind (Number.compare_calculates a b) fun order _ => ?_
  split <;> exact .truth _

/-- **Numbers.** A built-in of numbers answers with a canonical number, a truth value or its
    receiver. -/
theorem NumberPrimitive.answer_calculates (receiver other : Value) (primitive : NumberPrimitive) :
    Calculates (Value.Calculated receiver) (primitive.answer receiver other) := by
  cases primitive with
  | add => exact Number.add_calculates receiver other
  | subtract => exact Number.sub_calculates receiver other
  | multiply => exact Number.mul_calculates receiver other
  | divide => exact Number.div_calculates receiver other
  | remainder => exact Number.rem_calculates receiver other
  | less | lessOrEqual | greater | greaterOrEqual => exact ordered_calculates _ receiver other
  | negate => exact Number.negate_calculates receiver
  | abs => exact Number.abs_calculates receiver
  | floor => exact Number.floor_calculates receiver

end SlotTalk
