import SlotTalk.Host

namespace SlotTalk

/-!
# How a host sees a value

* `Value.fitsWord`, `Value.asWord` — the integer of sixty-four bits that a value is.
* `Value.fitsFloat`, `Value.asFloat` — the float that a value is.
* `Store.readMember`, `writeMember` — slots as members.
-/

namespace Value

def asBool : Value → Except RuntimeError Bool
  | .bool value => .ok value
  | other => .error (.mismatch "Boolean" other)

def asText : Value → Except RuntimeError String
  | .string text => .ok text.content
  | other => .error (.mismatch "Sequence" other)

/-- The value is an integer of sixty-four bits.  A float is one if it is whole and in range; a big
    integer never is. -/
def fitsWord : Value → Bool
  | .int _ => true
  | .float f => (Binary64.ofFloat f).exactInt?.isSome && -wordLimitFloat ≤ f && f < wordLimitFloat
  | _ => false

/-- The integer of sixty-four bits that the value is. -/
def asWord : Value → Except RuntimeError Int
  | .int n => .ok n.toInt
  | .float f =>
    if fitsWord (.float f) then .ok (Binary64.ofFloat f).toWord
    else .error (.mismatch "Integer" (.float f))
  | other => .error (.mismatch "Integer" other)

/-- The value is a float.  An integer of sixty-four bits is one if its float comes back as the
    integer; a big integer is one if its float is finite.  The float of the highest words is beyond
    them, and comes back as the highest one; that one is no float for all that. -/
def fitsFloat : Value → Bool
  | .float _ => true
  | .int n =>
    let float := (Number.word n).toFloat
    float < wordLimitFloat && (Binary64.ofFloat float).toWord = n.toInt
  | .big n _ => (Binary64.ofFloat (Number.big n).toFloat).isFinite
  | _ => false

/-- The float that the value is, or the one that stands for it in arithmetic. -/
def asFloat : Value → Except RuntimeError Float
  | .float f => .ok f
  | other =>
    if other.fitsFloat then (Number.ofValue other).map Number.toFloat
    else .error (.mismatch "Float" other)

end Value

namespace Store

/-- Read a slot along the prototypes, without activating what is found. -/
def readMember (store : Store) (value : Value) (key : String) : Except RuntimeError Value :=
  match store.lookupOn value key with
  | some found => .ok found.value
  | none => .error (.undefinedName key none)

end Store

/-- Create or overwrite a slot of the value itself. -/
def writeMember (target : Value) (key : String) (value : Value) : Action Unit := do
  let object ← target.expectObject
  writeSlot object key value

end SlotTalk
