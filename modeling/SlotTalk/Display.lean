import SlotTalk.Decimal.Fixed
import SlotTalk.Decimal.Layout
import SlotTalk.Store
import SlotTalk.Text.Quoted

namespace SlotTalk

/-!
# Values as text

* `NumberFormat` — the two ways to write a float.
* `Store.display` — the text of a value as programs print it.  Lists and maps may contain one
  another, so below three of them a list or map is only named.
* `Store.inspect` — the text of a value for whoever debugs the engine; it enters nothing.
-/

/-- How floats are written; integers are written the same way in both. -/
inductive NumberFormat where
  /-- The fewest digits that read back, always with a fraction or a power of ten. -/
  | plain
  /-- At most fifteen digits, and no fraction for whole numbers. -/
  | legacy
  deriving DecidableEq, Repr

namespace NumberFormat

/-- A minus sign where it is wanted. -/
def withSign (negative : Bool) (text : String) : String := if negative then "-" ++ text else text

/-- Positional between `10 ^ -4` and `10 ^ 16`, scientific outside, and zero with its sign. -/
def plainFloat (value : Float) : String :=
  match Binary64.ofFloat value with
  | .nan => "NaN"
  | .infinite negative => withSign negative "inf"
  | .finite negative mantissa exponent =>
    withSign negative <|
      if mantissa = 0 then "0.0"
      else
        let shortest := Decimal.shortest mantissa exponent
        if -3 ≤ shortest.point ∧ shortest.point ≤ 16 then shortest.positional
        else shortest.scientific

/-- The first whole number that the legacy form does not write out. -/
def legacyWholeLimit : Int := 1000000000000000

/-- Significant digits of the legacy form. -/
def legacyDigits : Int := 15

/-- Zeros, and then a point, at the end of a fraction are dropped. -/
def trimFraction (text : String) : String :=
  if text.contains '.' then
    let reversed := text.toList.reverse.dropWhile (· == '0')
    String.ofList (if reversed.head? = some '.' then reversed.drop 1 else reversed).reverse
  else
    text

/-- The power of ten that the digits of a float start at. -/
def magnitude (value : Float) : Int := ((Binary64.ofFloat value.abs.log10).floor?).getD 0

/-- Whole numbers below `10 ^ 15` without a fraction, others with fifteen significant digits, and
    scientific where that would take more than thirty places. -/
def legacyFloat (value : Float) : String :=
  match Binary64.ofFloat value with
  | .nan => "nan"
  | .infinite negative => withSign negative "inf"
  | .finite negative mantissa exponent =>
    if mantissa = 0 then "0"
    else
      withSign negative <|
        match (Binary64.finite false mantissa exponent).exactInt? with
        | some n => if n < legacyWholeLimit then toString n else long mantissa exponent
        | none => long mantissa exponent
where
  /-- All but the short whole numbers. -/
  long (mantissa : Nat) (exponent : Int) : String :=
    let places := legacyDigits - 1 - magnitude value
    if 0 ≤ places ∧ places ≤ 30 then
      trimFraction (Decimal.fixed mantissa exponent places.toNat)
    else
      (Decimal.shortest mantissa exponent).scientific

/-- The text of a float. -/
def floatText : NumberFormat → Float → String
  | .plain => plainFloat
  | .legacy => legacyFloat

end NumberFormat

/-- Names between parentheses. -/
def parenthesized (head : String) (items : List String) : String :=
  head ++ "(" ++ ", ".intercalate items ++ ")"

/-- The number of a reference as an address. -/
def Value.address (value : Value) : String := "0x" ++ Text.hexCode (value.identity?.getD 0)

namespace Store

/-- Lists and maps that may enclose one another before they are only named. -/
def displayNesting : Nat := 3

/-- The text of a value that may still enclose `nesting` levels of lists and maps. -/
def displayWithin (store : Store) (format : NumberFormat) : Nat → Value → String
  | _, .nil => "nil"
  | _, .bool true => "true"
  | _, .bool false => "false"
  | _, .int n => toString n.toInt
  | _, .big n _ => toString n
  | _, .float f => format.floatText f
  | _, .string text => text.content
  | _, .date date => date.text
  | _, .object id => "Object_" ++ (Value.object id).address
  | _, .primitive primitive => parenthesized "Function" [primitive.name]
  | _, .function _ => parenthesized "Function" ["anonymous"]
  | _, .block id => parenthesized "block" (store.block id).code.parameterNames
  | _, .method id => parenthesized "method" (store.method id).code.parameterNames
  | 0, .list _ => "list(...)"
  | nesting + 1, .list id =>
    parenthesized "list"
      ((store.list id).toList.map fun item => store.displayWithin format nesting item)
  | 0, .map _ => "Map(...)"
  | nesting + 1, .map id =>
    parenthesized "Map"
      ((store.map id).entries.map fun (key, item) =>
        key.content ++ ": " ++ store.displayWithin format nesting item)
  | _, .message message => message.name.content
  | _, .call id => parenthesized "Call" [(store.call id).message.name.content]
  | _, .locals id => "Locals_" ++ (Value.locals id).address
  | _, .coroutine id => parenthesized "Coroutine" [(store.coroutine id).label]

/-- The text of a value as programs print it. -/
def display (store : Store) (format : NumberFormat) (value : Value) : String :=
  store.displayWithin format displayNesting value

/-- The text of a value without what it contains. -/
def inspect (store : Store) : Value → String
  | .nil => "nil"
  | .bool true => "true"
  | .bool false => "false"
  | .int n => toString n.toInt
  | .big n _ => toString n
  | .float f => NumberFormat.plainFloat f
  | .string text => Text.quote text.content
  | .date date => parenthesized "Date" [date.text]
  | .object id => "Object@" ++ (Value.object id).address
  | .primitive primitive => parenthesized "Function" [primitive.name]
  | .function _ => parenthesized "Function" ["anonymous"]
  | .block id => parenthesized "Block" (store.block id).code.parameterNames
  | .method id => parenthesized "Method" (store.method id).code.parameterNames
  | .list id => s!"List(len {(store.list id).size})"
  | .map id => s!"Map(len {(store.map id).size})"
  | .message message => parenthesized "Message" [message.name.content]
  | .call id => parenthesized "Call" [(store.call id).message.name.content]
  | .locals id => "Locals@" ++ (Value.locals id).address
  | .coroutine id => parenthesized "Coroutine" [toString (store.coroutine id).number]

end Store

end SlotTalk
