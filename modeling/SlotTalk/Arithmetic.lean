import SlotTalk.Calculation

namespace SlotTalk

/-!
# Arithmetic

Anything that meets a float becomes a float; integers stay exact.

* `Number.calculate` — a calculation with two values that may turn out not to be numbers.
* `Number.add`, `Number.sub`, `Number.mul`, `Number.div`, `Number.rem`, `Number.negate`,
  `Number.abs`, `Number.compare`, `Number.floor` — what programs calculate.
* `Value.equals` — equality as programs see it.
-/

namespace Number

/-- Calculate with the numbers that two values are. -/
def calculate {α : Type} {calculation : Number → Number → Calculation α}
    (faultless : ∀ x y, (calculation x y).Faultless) (a b : Value) : Except RuntimeError α := do
  (calculation (← ofValue a) (← ofValue b)).ending (faultless _ _)

def add : Value → Value → Except RuntimeError Value :=
  calculate (Calculation.arithmetic_faultless .add)

def sub : Value → Value → Except RuntimeError Value :=
  calculate (Calculation.arithmetic_faultless .sub)

def mul : Value → Value → Except RuntimeError Value :=
  calculate (Calculation.arithmetic_faultless .mul)

def div : Value → Value → Except RuntimeError Value := calculate Calculation.division_faultless

def rem : Value → Value → Except RuntimeError Value := calculate Calculation.remainder_faultless

def compare : Value → Value → Except RuntimeError (Option Ordering) :=
  calculate Calculation.order_faultless

/-- The number taken from zero, so that the negative of a zero float is the positive one. -/
def negate (a : Value) : Except RuntimeError Value := sub (.int 0) a

/-- A number is made positive by negation where it is below zero. -/
def abs (a : Value) : Except RuntimeError Value := do
  match ← compare a (.int 0) with
  | some .lt => negate a
  | _ => return a

/-- The greatest integer that is not above the number.  Floats beyond the word range have no
    fraction and stay as they are. -/
def floor (a : Value) : Except RuntimeError Value :=
  match a with
  | .float f =>
    match (Binary64.ofFloat f).floor? with
    | some n => if -wordLimit < n ∧ n < wordLimit then .ok (.ofInt n) else .ok a
    | none => .ok a
  | .int _ | .big .. => .ok a
  | _ => .error (.mismatch "Number" a)

end Number

/-- Equality as programs see it: numbers, texts and dates by what they denote, references by the
    cell they name. -/
def Value.equals (a b : Value) : Bool :=
  match a, b with
  | .nil, .nil => true
  | .bool x, .bool y => x == y
  | .string x, .string y => x.content == y.content
  | .date x, .date y => x == y
  | a, b =>
    if a.isNumber && b.isNumber then
      match Number.compare a b with
      | .ok (some .eq) => true
      | _ => false
    else
      a.sameReference b

end SlotTalk
