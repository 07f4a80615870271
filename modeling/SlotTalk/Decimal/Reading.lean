import SlotTalk.Binary64

namespace SlotTalk

/-!
# Numbers read from text

* `Numeral.readInt?` — a sign and digits.
* `Numeral.readFloat?` — a sign, then digits with an optional point and an optional power of ten,
  or one of the words for infinity and NaN.

A text is a number only as a whole: anything left over makes the answer `none`.
-/

namespace Numeral

/-- The number that digits denote, after what was read before them. -/
def digitsValue (before : Nat) (digits : List Char) : Nat :=
  digits.foldl (fun n c => 10 * n + (c.toNat - '0'.toNat)) before

/-- Take an optional sign off the front. -/
def takeSign : List Char → Bool × List Char
  | '-' :: rest => (true, rest)
  | '+' :: rest => (false, rest)
  | rest => (false, rest)

/-- An optional sign and at least one digit. -/
def readInt? (text : List Char) : Option Int :=
  let (negative, digits) := takeSign text
  if digits.isEmpty || !digits.all Char.isDigit then none
  else some (Binary64.signed negative (digitsValue 0 digits))

/-- The power of ten behind an `e`; no `e` means `0`. -/
def readPower? : List Char → Option Int
  | [] => some 0
  | c :: rest => if c = 'e' ∨ c = 'E' then readInt? rest else none

/-- Powers of ten beyond which every float is zero or infinite. -/
def powerLimit : Int := 400

/-- The float nearest to `digits · 10 ^ power`. -/
def nearestFloat (digits : Nat) (power : Int) : Float :=
  let point := power + (toString digits).length
  if digits = 0 ∨ point < -powerLimit then 0
  else if powerLimit < point then 1.0 / 0.0
  else if 0 ≤ power then Float.ofScientific digits false power.toNat
  else Float.ofScientific digits true (-power).toNat

/-- A number without its sign: digits before and after the point, at least one in all, and a power
    of ten. -/
def readSize? (text : List Char) : Option Float :=
  let whole := text.takeWhile Char.isDigit
  let rest := text.dropWhile Char.isDigit
  let (fraction, rest) :=
    match rest with
    | '.' :: rest => (rest.takeWhile Char.isDigit, rest.dropWhile Char.isDigit)
    | rest => ([], rest)
  if whole.isEmpty && fraction.isEmpty then none
  else
    (readPower? rest).map fun power =>
      nearestFloat (digitsValue (digitsValue 0 whole) fraction) (power - fraction.length)

/-- The words for the values that have no digits, in any case. -/
def readWord? (text : List Char) : Option Float :=
  match String.ofList (text.map Char.toLower) with
  | "inf" | "infinity" => some (1.0 / 0.0)
  | "nan" => some Binary64.nanFloat
  | _ => none

/-- A number with a point, a power of ten or neither. -/
def readFloat? (text : List Char) : Option Float :=
  let (negative, size) := takeSign text
  ((readSize? size).orElse fun _ => readWord? size).map fun value =>
    if negative then -value else value

end Numeral

end SlotTalk
