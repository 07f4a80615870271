import SlotTalk.Pattern.Reader
import SlotTalk.Pattern.Tree

namespace SlotTalk

/-!
# Repetitions

A repetition is written after what it repeats, as a sign or as counts between braces, and a question
mark after it makes it lazy.

* `Pattern.repeated` — read a repetition of a part.
-/

namespace Pattern

/-- How often something is repeated. -/
structure Counts where
  least : Nat
  most : Option Nat
  deriving DecidableEq, Repr

/-- The counts of a single sign. -/
def Counts.ofSign? : Char → Option Counts
  | '?' => some ⟨0, some 1⟩
  | '*' => some ⟨0, none⟩
  | '+' => some ⟨1, none⟩
  | _ => none

/-- A character that begins a repetition. -/
def beginsRepetition (c : Char) : Bool := c = '{' || (Counts.ofSign? c).isSome

/-- The counts are in order. -/
def Counts.ascending (counts : Counts) : Bool :=
  match counts.most with
  | some most => counts.least ≤ most
  | none => true

/-- A count has to be below this. -/
def countLimit : Nat := 4294967296

/-- Read blanks, which may always stand before and after a count. -/
def countBlanks (step : Reader Unit) : Nat → Reader Unit
  | 0 => return ()
  | steps + 1 => do
    if ((← peek).map Text.isBlank).getD false then
      step
      countBlanks step steps

/-- Read digits of base ten. -/
def countDigits : Nat → Reader (List Char)
  | 0 => return []
  | steps + 1 => do
    match ← peek with
    | none => return []
    | some c =>
      if c.isDigit then
        advanceSpaced
        return c :: (← countDigits steps)
      else return []

/-- Read a count.  Whether there is one is looked at only where it is needed. -/
def count : Reader (Except Fault Nat) := do
  countBlanks advance (← rest).length
  let start ← here
  let digits ← countDigits (← rest).length
  let span ← since start
  countBlanks advanceSpaced (← rest).length
  let value := digits.foldl (fun n c => n * 10 + (c.toNat - '0'.toNat)) 0
  if digits.isEmpty then return .error { cause := .countMissing, spans := [span] }
  else if countLimit ≤ value then return .error { cause := .countTooLarge, spans := [span] }
  else return .ok value

/-- Read the counts between braces: one count, a least count, or both ends. -/
def bracedCounts : Reader Counts := do
  let start ← here
  let demandMore : Reader Unit := do
    if ← atEnd then refuse .countUnclosed (← since start)
  advanceSpaced
  demandMore
  let least ← count
  demandMore
  let counts : Counts ←
    if (← peek) = some ',' then do
      advanceSpaced
      demandMore
      let least ← MonadExcept.ofExcept least
      if (← peek) = some '}' then pure ⟨least, none⟩
      else pure ⟨least, some (← MonadExcept.ofExcept (← count))⟩
    else do
      let least ← MonadExcept.ofExcept least
      pure ⟨least, some least⟩
  if (← peek) ≠ some '}' then refuse .countUnclosed (← since start)
  advanceSpaced
  return counts

/-- Read a repetition of the part that was read last. -/
def repeated (last : Option Tree) : Reader Tree := do
  match last with
  | none | some (.flags ..) => refuse .nothingToRepeat (← since (← here))
  | some part =>
    let start ← here
    let counts ←
      match (← peek).bind Counts.ofSign? with
      | some counts => do
        advance
        pure counts
      | none => bracedCounts
    let greedy := !(← skip "?")
    if !counts.ascending then refuse .countDescending (← since start)
    return .repetition (← since part.span.start) counts.least counts.most greedy part

end Pattern

end SlotTalk
