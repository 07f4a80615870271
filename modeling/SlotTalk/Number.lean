import SlotTalk.Binary64
import SlotTalk.LeadingWord
import SlotTalk.RuntimeError

namespace SlotTalk

/-!
# Numbers

Integers are exact.  They are held in sixty-four bits where they fit and as big integers where they
do not.

* `Value.ofInt` — the one canonical value of an integer, and `Value.int?` the integer of a value.
* `Binary64.toWord` — the word next to a float, which is the float itself where that is possible.
* `Number` — the values that are numbers, with their floats.
-/

/-- The first integer above the sixty-four bit range; its negative is the first in it. -/
def wordLimit : Int := 9223372036854775808

/-- The integer fits in sixty-four bits. -/
def fitsWord (n : Int) : Bool := -wordLimit ≤ n && n < wordLimit

theorem fitsWord_iff {n : Int} : fitsWord n = true ↔ -wordLimit ≤ n ∧ n < wordLimit := by
  rw [fitsWord, Bool.and_eq_true, decide_eq_true_eq, decide_eq_true_eq]

/-- The integer of a word fits. -/
theorem fitsWord_toInt (word : Int64) : fitsWord word.toInt = true :=
  fitsWord_iff.mpr ⟨word.le_toInt, word.toInt_lt⟩

/-- The integer of the word range next to the given one. -/
def clampWord (n : Int) : Int := max (-wordLimit) (min (wordLimit - 1) n)

theorem clampWord_of_fitsWord {n : Int} (fits : fitsWord n = true) : clampWord n = n := by
  obtain ⟨least, most⟩ := fitsWord_iff.mp fits
  rw [clampWord]
  omega

/-- The first float above the sixty-four bit range. -/
def wordLimitFloat : Float := Float.ofBits 0x43e0000000000000

/-- The word next to a float in the direction of zero: beyond the range the last one on that side,
    and zero for NaN. -/
def Binary64.toWord : Binary64 → Int
  | .nan => 0
  | .infinite negative => if negative then -wordLimit else wordLimit - 1
  | .finite negative mantissa exponent => clampWord (signed negative (scaleTwo mantissa exponent))

/-- A float that denotes an integer becomes the word next to that integer. -/
theorem Binary64.toWord_of_exactInt? {x : Binary64} {n : Int} (denotes : x.exactInt? = some n) :
    x.toWord = clampWord n := by
  cases x with
  | nan => cases denotes
  | infinite negative => cases denotes
  | finite negative m e =>
    obtain ⟨size, rfl, whole, part⟩ := size_of_exactInt? denotes
    have scaled : scaleTwo m e = size := by
      rw [scaleTwo]
      by_cases sign : 0 ≤ e
      · rw [if_pos sign, whole sign]
      · rw [if_neg sign, part (by omega), Nat.mul_div_cancel _ (twoTo_pos _)]
    rw [toWord, scaled]

namespace Value

/-- The canonical value of an integer.  A big one has no identity so far. -/
def ofInt (n : Int) : Value := if fitsWord n then .int (Int64.ofInt n) else .big n .unassigned

/-- The canonical value of a size or a position. -/
def ofNat (n : Nat) : Value := ofInt n

/-- The integer that the value denotes. -/
def int? : Value → Option Int
  | .int n => some n.toInt
  | .big n _ => some n
  | _ => none

end Value

/-- A value that is known to be a number. -/
inductive Number where
  | word (value : Int64)
  | big (value : Int)
  | float (value : Float)

namespace Number

/-- The value as a number. -/
def ofValue? : Value → Option Number
  | .int n => some (.word n)
  | .big n _ => some (.big n)
  | .float f => some (.float f)
  | _ => none

/-- The value as a number, or the error that it is none. -/
def ofValue (value : Value) : Except RuntimeError Number :=
  match ofValue? value with
  | some number => .ok number
  | none => .error (.mismatch "Number" value)

/-- The float of a number: the nearest one for an integer of sixty-four bits, and the one next to
    the leading word for a wider one. -/
def toFloat : Number → Float
  | .word n => LeadingWord.toFloat n.toInt
  | .big n => LeadingWord.toFloat n
  | .float f => f

/-- The order of two floats; a NaN has no place in it. -/
def compareFloats (x y : Float) : Option Ordering :=
  if x < y then some .lt
  else if y < x then some .gt
  else if x == y then some .eq
  else none

end Number

end SlotTalk
