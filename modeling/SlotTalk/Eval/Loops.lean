import SlotTalk.Eval.Activation

namespace SlotTalk

/-!
# Loops

All loops follow one protocol: a value of the body is kept as the result so far, a `continue` keeps
the one before, a `break` ends the loop, and anything else leaves it.

* `loopPass` — one run of the body.
* `whileLoop`, `forLoop`, `forEach` — the three loops.  Each makes at most as many passes as its
  number says, and is out of fuel after that.
* `Elements` — what is left to visit.  A list is read by position on every step, so that the body
  may change it; a map is visited as it was at the start.
-/

/-- Run the body once; `last` is the result so far. -/
def loopPass (body : Node) (scope : LocalsId) (last : Value) : Script (Pass Value) := do
  match ← Script.attempt (.eval body scope) with
  | .ok value => return .proceed value
  | .error .continued => return .proceed last
  | .error (.broke value) => return .exit (value.getD last)
  | .error other => Script.unwind other

/-! ### While -/

/-- Test the condition, and run the body if it holds. -/
def whilePass (condition body : Node) (scope : LocalsId) (last : Value) :
    Script (Pass Value) := do
  if (← Script.evaluate (.eval condition scope)).isTruthy then
    loopPass body scope last
  else
    return .exit last

/-- Run the body as long as the condition holds. -/
def whileLoop (condition body : Node) (scope : LocalsId) (passes : Nat) : Script Value :=
  Script.loop (whilePass condition body scope) passes .nil

/-! ### For -/

/-- Bounds and step of a loop must be numbers; the first that is none is the error. -/
def expectNumbers : List Value → Action Unit
  | [] => return ()
  | value :: rest => if value.isNumber then expectNumbers rest else throw (.mismatch "Number" value)

/-- A header of a loop that counts. -/
structure Counting where
  counter : Text
  stop : Value
  step : Value
  ascending : Bool

namespace Counting

/-- A step points toward the end of the range.  A step of zero, or NaN, never does. -/
def pointsInside (ascending : Bool) : Option Ordering → Bool
  | some .gt => ascending
  | some .lt => !ascending
  | _ => false

/-- The counter has not passed the end of the range. -/
def within (ascending : Bool) : Option Ordering → Bool
  | some .eq => true
  | some .lt => ascending
  | some .gt => !ascending
  | none => false

/-- The present value of the counter.  The body may change it. -/
def value (counting : Counting) (scope : LocalsId) : Action Value :=
  return ((← Action.store).readVariable? scope counting.counter.content).getD .nil

/-- The counter is in the range. -/
def inRange (counting : Counting) (scope : LocalsId) : Action Bool := do
  let order ← Action.ofExcept (Number.compare (← counting.value scope) counting.stop)
  return within counting.ascending order

/-- Add the step to the counter. -/
def advance (counting : Counting) (scope : LocalsId) : Action Unit := do
  let next ← Action.ofCalculation (Number.add (← counting.value scope) counting.step)
  Action.updateVariable scope counting.counter.content next

end Counting

/-- Run the body if the counter is in the range, and advance the counter.  A `continue` advances it
    too. -/
def countingPass (counting : Counting) (body : Node) (scope : LocalsId) (last : Value) :
    Script (Pass Value) := do
  if ← counting.inRange scope then
    match ← loopPass body scope last with
    | .proceed last =>
      counting.advance scope
      return .proceed last
    | .exit value => return .exit value
  else
    return .exit last

/-- Count from start to stop, both included.  The direction is fixed before the first pass, and a
    step that points the other way, or nowhere, runs nothing; the counter is defined all the
    same. -/
def forLoop (counter : Text) (start stop step : Value) (body : Node) (scope : LocalsId)
    (passes : Nat) : Script Value := do
  Script.ofAction (expectNumbers [start, stop, step])
  let direction ← Action.ofExcept (Number.compare stop start)
  let ascending := direction == some .gt || direction == some .eq
  let heading ← Action.ofExcept (Number.compare step (.int 0))
  Action.defineVariable scope counter start
  if Counting.pointsInside ascending heading then
    Script.loop (countingPass ⟨counter, stop, step, ascending⟩ body scope) passes .nil
  else
    return .nil

/-! ### For each -/

/-- What is left to visit. -/
inductive Elements where
  /-- The characters of a text from a byte on. -/
  | characters (text : String) (position : String.Pos.Raw)
  | items (list : ListId) (position : Nat)
  | entries (rest : List (Text × Value))

namespace Elements

/-- The elements of a value, all of them still to visit. -/
def ofValue : Value → Action Elements
  | .string text => return .characters text.content 0
  | .list id => return .items id 0
  | .map id => return .entries ((← Action.store).map id).entries
  | other => throw (.mismatch "Sequence, List or Map" other)

/-- The next element and what is left after it.  A text is cut off at the position that was come
    to, and that moves on by as many bytes as the first character of the rest has.  An entry of a
    map becomes a list of key and value. -/
def next : Elements → Action (Option (Value × Elements))
  | .characters text position =>
    match position.get? text with
    | some c => return some (SequencePrimitive.codePoint c, .characters text (position + c))
    | none => return none
  | .items list position => do
    match ((← Action.store).list list)[position]? with
    | some item => return some (item, .items list (position + 1))
    | none => return none
  | .entries [] => return none
  | .entries ((key, value) :: rest) =>
    return some (← Action.newList [.string key, value], .entries rest)

end Elements

/-- Define the index, if there is one to define, and then the element. -/
def bindElement (scope : LocalsId) (index : Option Text) (element : Text) (position : Nat)
    (value : Value) : Action Unit := do
  match index with
  | some name =>
    Action.defineVariable scope name (.ofNat position)
    Action.defineVariable scope element value
  | none => Action.defineVariable scope element value

/-- How far a loop over elements has come. -/
structure Visit where
  /-- Number of elements visited. -/
  position : Nat := 0
  elements : Elements
  /-- The result so far. -/
  last : Value := .nil

/-- Run the body for the next element, if there is one. -/
def forEachPass (index : Option Text) (element : Text) (body : Node) (scope : LocalsId)
    (visit : Visit) : Script (Pass Visit) := do
  match ← visit.elements.next with
  | none => return .exit visit.last
  | some (value, rest) =>
    Script.ofAction (bindElement scope index element visit.position value)
    match ← loopPass body scope visit.last with
    | .proceed last => return .proceed ⟨visit.position + 1, rest, last⟩
    | .exit value => return .exit value

/-- Run the body for each of the elements. -/
def forEach (index : Option Text) (element : Text) (body : Node) (scope : LocalsId)
    (elements : Elements) (passes : Nat) : Script Value :=
  Script.loop (forEachPass index element body scope) passes { elements := elements }

end SlotTalk
