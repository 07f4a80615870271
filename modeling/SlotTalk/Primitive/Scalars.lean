import SlotTalk.Decimal.Reading
import SlotTalk.Primitive.Invocation
import SlotTalk.Text.Blank

namespace SlotTalk

/-!
# Built-ins of numbers, texts and dates

* `NumberPrimitive.run` — arithmetic and order.
* `SequencePrimitive.run` — texts, by code points; `SequencePrimitive.numberIn` reads a number.
* `DatePrimitive.run` — instants.
-/

namespace NumberPrimitive

/-- Two numbers are in one of the accepted orders; a NaN is in none. -/
def ordered (accepted : List Ordering) (a b : Value) : Except RuntimeError Value := do
  match ← Number.compare a b with
  | some ordering => return .bool (accepted.contains ordering)
  | none => return .bool false

/-- The answer of a built-in of numbers. -/
def answer (receiver other : Value) : NumberPrimitive → Except RuntimeError Value
  | .add => Number.add receiver other
  | .subtract => Number.sub receiver other
  | .multiply => Number.mul receiver other
  | .divide => Number.div receiver other
  | .remainder => Number.rem receiver other
  | .less => ordered [.lt] receiver other
  | .lessOrEqual => ordered [.lt, .eq] receiver other
  | .greater => ordered [.gt] receiver other
  | .greaterOrEqual => ordered [.gt, .eq] receiver other
  | .negate => Number.negate receiver
  | .abs => Number.abs receiver
  | .floor => Number.floor receiver

/-- The answer of a built-in of numbers. -/
def run (use : Invocation) (primitive : NumberPrimitive) : Action Value :=
  Action.ofCalculation (primitive.answer use.receiver (use.input 0))

end NumberPrimitive

namespace SequencePrimitive

/-- The number that a text writes, blanks around it aside: an integer if it fits in a word, else a
    float; nil if the text writes no number. -/
def numberIn (text : String) : Value :=
  let digits := Text.strip text.toList
  match (Numeral.readInt? digits).filter fitsWord with
  | some n => .ofInt n
  | none =>
    match Numeral.readFloat? digits with
    | some f => .float f
    | none => .nil

/-- The code point of a character. -/
def codePoint (c : Char) : Value := .ofNat c.toNat

/-- The answer of a built-in of texts. -/
def run (use : Invocation) : SequencePrimitive → Action Value
  | .size => return .ofNat (← use.receiver.expectString).length
  | .at => do
    let text ← use.receiver.expectString
    let position ← (use.input 0).expectPosition
    let found := if position < 0 then none else text.toList[position.toNat]?
    match found with
    | some c => return codePoint c
    | none => throw (.outOfBounds position text.length)
  | .concat => do
    let text ← use.receiver.expectString
    Action.newString (text ++ (← Action.display (use.input 0)))
  | .asString => return .string (← use.receiver.expectText)
  | .asNumber => return numberIn (← use.receiver.expectString)

end SequencePrimitive

namespace DatePrimitive

/-- The instant that a value is. -/
def expectDate : Value → Action Date
  | .date date => return date
  | other => throw (.mismatch "Date" other)

/-- The answer of a built-in of dates. -/
def run (use : Invocation) : DatePrimitive → Action Value
  | .now => return .date (← get).config.now
  | .asNumber => do
    let date ← expectDate use.receiver
    return .float (Float.ofInt date.microseconds / 1000000.0)
  | .year => return .ofInt (← expectDate use.receiver).year

end DatePrimitive

end SlotTalk
