import SlotTalk.Number

namespace SlotTalk

/-!
# Calculations

Words are calculated with as words, and what is no word is calculated over the integers.  Some steps
have no result for all numbers; a calculation would break off at one of them, but never comes to it.

* `Number.Operation`, `Word`, `Wide` — operations on words and on integers of any size.
* `Calculation`, `Fault` — calculations step by step, and where they would break off.
* `Calculation.arithmetic`, `Calculation.division`, `Calculation.remainder`, `Calculation.order` —
  the calculations with two numbers.
* `arithmetic_faultless` and its siblings — none of them breaks off.
-/

/-! ### Words -/

/-- An operation that every two integers have a result of. -/
inductive Number.Operation where
  | add
  | sub
  | mul

namespace Number.Operation

/-- The operation on integers. -/
def exact : Operation → Int → Int → Int
  | .add => (· + ·)
  | .sub => (· - ·)
  | .mul => (· * ·)

/-- The operation on floats. -/
def rounded : Operation → Float → Float → Float
  | .add => (· + ·)
  | .sub => (· - ·)
  | .mul => (· * ·)

/-- The operation on words, which wraps around. -/
def wrapping : Operation → Int64 → Int64 → Int64
  | .add => (· + ·)
  | .sub => (· - ·)
  | .mul => (· * ·)

/-- The operation on words, if it need not wrap around. -/
def checked (operation : Operation) (x y : Int64) : Option Int64 :=
  if fitsWord (operation.exact x.toInt y.toInt) then some (operation.wrapping x y) else none

/-- The word that two words give, without a look at wider integers. -/
def onWords? (operation : Operation) : Number → Number → Option Int64
  | .word x, .word y => operation.checked x y
  | _, _ => none

end Number.Operation

/-- A step that a calculation must not come to, since there is no going on from it. -/
inductive Fault where
  /-- A float stands where an integer has to. -/
  | floatForInteger
  /-- The quotient of two words is no word. -/
  | overflow
  /-- An integer is to be divided by zero. -/
  | zeroDivisor
  deriving DecidableEq, Repr

namespace Word

/-- The quotient by the word is no word: the first one has no negative. -/
def overflows (x y : Int64) : Bool := x == Int64.minValue && y == -1

/-- The remainder, if there is a quotient that is a word. -/
def remainder? (x y : Int64) : Option Int64 :=
  if y = 0 ∨ overflows x y then none else some (x % y)

/-- The quotient of two words, which has to be a word. -/
def quotient (x y : Int64) : Except Fault Int64 :=
  if y = 0 then .error .zeroDivisor
  else if overflows x y then .error .overflow
  else .ok (x / y)

end Word

namespace Wide

/-- The quotient of two integers of any size, without its fraction. -/
def quotient (x y : Int) : Except Fault Int :=
  if y = 0 then .error .zeroDivisor else .ok (Int.tdiv x y)

/-- The remainder of two integers of any size, which has the sign of the first. -/
def remainder (x y : Int) : Except Fault Int :=
  if y = 0 then .error .zeroDivisor else .ok (Int.tmod x y)

end Wide

/-! ### Calculations -/

/-- A calculation with all its steps.  It ends with a result or an error, or else breaks off. -/
abbrev Calculation := ExceptT RuntimeError (Except Fault)

namespace Calculation

variable {α : Type}

/-- The calculation does not break off. -/
def Faultless (calculation : Calculation α) : Prop := calculation.run.toOption.isSome

/-- The result, or the error, of a calculation that does not break off. -/
def ending (calculation : Calculation α) (faultless : calculation.Faultless) :
    Except RuntimeError α :=
  calculation.run.toOption.get faultless

/-- The number as an integer of any size. -/
def integerOf : Number → Except Fault Int
  | .word n => .ok n.toInt
  | .big n => .ok n
  | .float _ => .error .floatForInteger

/-- Sum, difference and product: as floats if one of the numbers is one, else on words if the result
    is a word, else on integers of any size. -/
def arithmetic (operation : Number.Operation) (x y : Number) : Calculation Value :=
  match x, y with
  | .float _, _ | _, .float _ => return .float (operation.rounded x.toFloat y.toFloat)
  | _, _ =>
    match operation.onWords? x y with
    | some word => return .int word
    | none => return .ofInt (operation.exact (← integerOf x) (← integerOf y))

/-- Division of two integers that are not both words. -/
def wideDivision (x y : Number) : Calculation Value := do
  let p ← integerOf x
  let q ← integerOf y
  if q = 0 then throw .divisionByZero
  else if (← Wide.remainder p q) = 0 then return .ofInt (← Wide.quotient p q)
  else return .float (x.toFloat / y.toFloat)

/-- Division of integers is exact where they divide evenly, and a float elsewhere. -/
def division (x y : Number) : Calculation Value :=
  match x, y with
  | .float _, _ | _, .float _ => return .float (x.toFloat / y.toFloat)
  | .word p, .word q =>
    if q = 0 then throw .divisionByZero
    else
      match Word.remainder? p q with
      | some rest =>
        if rest = 0 then return .int (← Word.quotient p q)
        else return .float (x.toFloat / y.toFloat)
      -- The quotient is an integer that is no word.
      | none => return .ofInt (← Wide.quotient p.toInt q.toInt)
  | _, _ => wideDivision x y

/-- The remainder of two integers that are not both words. -/
def wideRemainder (x y : Number) : Calculation Value := do
  let p ← integerOf x
  let q ← integerOf y
  if q = 0 then throw .divisionByZero else return .ofInt (← Wide.remainder p q)

/-- The remainder has the sign of the dividend. -/
def remainder (x y : Number) : Calculation Value :=
  match x, y with
  | .float _, _ | _, .float _ => return .float (Binary64.remainder x.toFloat y.toFloat)
  | .word p, .word q =>
    if q = 0 then throw .divisionByZero else return .int ((Word.remainder? p q).getD 0)
  | _, _ => wideRemainder x y

/-- The order of two numbers: exact between integers, and that of their floats if one of the
    numbers is a float. -/
def order (x y : Number) : Calculation (Option Ordering) :=
  match x, y with
  | .word p, .word q => return some (compare p q)
  | .float _, _ | _, .float _ => return Number.compareFloats x.toFloat y.toFloat
  | _, _ => return some (compare (← integerOf x) (← integerOf y))

/-! ### No faults -/

theorem arithmetic_faultless (operation : Number.Operation) (x y : Number) :
    (arithmetic operation x y).Faultless := by
  cases x with
  | float => rfl
  | word m =>
    cases y with
    | float | big => rfl
    | word n =>
      unfold arithmetic
      dsimp only
      cases operation.onWords? (.word m) (.word n) <;> rfl
  | big m => cases y <;> rfl

/-- A step that has a result is gone on from. -/
theorem step_eq {β : Type} (value : β) (rest : β → Calculation α) :
    (liftM (Except.ok value : Except Fault β) >>= rest : Calculation α) = rest value := rfl

section Wide

variable {x y : Number} {p q : Int} (first : integerOf x = .ok p) (second : integerOf y = .ok q)
include first second

theorem wideDivision_eq :
    wideDivision x y =
      if q = 0 then throw .divisionByZero
      else if Int.tmod p q = 0 then return .ofInt (Int.tdiv p q)
      else return .float (x.toFloat / y.toFloat) := by
  simp only [wideDivision, first, second, step_eq]
  by_cases zero : q = 0
  · simp only [zero, ↓reduceIte]
  · simp only [Wide.remainder, Wide.quotient, zero, ↓reduceIte, step_eq]

theorem wideRemainder_eq :
    wideRemainder x y =
      if q = 0 then throw .divisionByZero else return .ofInt (Int.tmod p q) := by
  simp only [wideRemainder, first, second, step_eq]
  by_cases zero : q = 0
  · simp only [zero, ↓reduceIte]
  · simp only [Wide.remainder, zero, ↓reduceIte, step_eq]

theorem wideDivision_faultless : (wideDivision x y).Faultless := by
  rw [wideDivision_eq first second]
  split
  · rfl
  · split <;> rfl

theorem wideRemainder_faultless : (wideRemainder x y).Faultless := by
  rw [wideRemainder_eq first second]
  split <;> rfl

end Wide

/-- A quotient of words is taken only where the remainder shows that it is a word. -/
theorem words_division_faultless (p q : Int64) : (division (.word p) (.word q)).Faultless := by
  simp only [division, Word.remainder?]
  by_cases zero : q = 0
  · rw [if_pos zero]
    rfl
  · by_cases overflow : Word.overflows p q
    · have known : q.toInt ≠ 0 := fun same => zero (Int64.toInt_inj.mp same)
      simp only [zero, overflow, Wide.quotient, known, or_true, ↓reduceIte]
      rfl
    · simp only [zero, overflow, Word.quotient, or_self, Bool.false_eq_true, ↓reduceIte]
      split <;> rfl

theorem division_faultless (x y : Number) : (division x y).Faultless := by
  cases x with
  | float => rfl
  | word p =>
    cases y with
    | float => rfl
    | word q => exact words_division_faultless p q
    | big q => exact wideDivision_faultless rfl rfl
  | big p =>
    cases y with
    | float => rfl
    | word q | big q => exact wideDivision_faultless rfl rfl

theorem remainder_faultless (x y : Number) : (remainder x y).Faultless := by
  cases x with
  | float => rfl
  | word p =>
    cases y with
    | float => rfl
    | word q =>
      simp only [remainder]
      split <;> rfl
    | big q => exact wideRemainder_faultless rfl rfl
  | big p =>
    cases y with
    | float => rfl
    | word q | big q => exact wideRemainder_faultless rfl rfl

theorem order_faultless (x y : Number) : (order x y).Faultless := by
  cases x <;> cases y <;> rfl

end Calculation

end SlotTalk
