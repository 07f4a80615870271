import SlotTalk.Scope

namespace SlotTalk

/-!
# How a built-in is invoked

* `Invocation` — the receiver, the inputs and the message of one use of a built-in.
* `padTo` — inputs that were not supplied are nil.
-/

/-- Fill up with nil to at least `size` values. -/
def padTo (size : Nat) (values : List Value) : List Value :=
  values ++ List.replicate (size - values.length) .nil

/-- One use of a built-in. -/
structure Invocation where
  receiver : Value
  /-- The supplied arguments, with nil for the declared ones that are missing. -/
  inputs : List Value
  message : Message

/-- The input at a position; beyond the last it is nil. -/
def Invocation.input (use : Invocation) (position : Nat) : Value := use.inputs.getD position .nil

end SlotTalk
