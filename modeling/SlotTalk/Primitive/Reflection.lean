import SlotTalk.Primitive.Invocation

namespace SlotTalk

/-!
# Built-ins that look at the running program

* `CallPrimitive.run`, `MessagePrimitive.run`, `LocalsPrimitive.run`, `CoroutinePrimitive.run` —
  the parts of a call, of a message, of a scope and of the thread of execution.
* `argumentNames` — the parameters of a block or function.
* `ExceptionPrimitive.run` — raising, and reading what was raised.
-/

namespace CallPrimitive

/-- The answer of a built-in of calls. -/
def run (use : Invocation) (primitive : CallPrimitive) : Action Value := do
  match use.receiver with
  | .call id =>
    let call := (← Action.store).call id
    match primitive with
    | .sender => return .locals call.sender
    | .target => return call.target
    | .message => return .message call.message
    | .slotContext => return call.slotContext
    | .activated => return call.activated.toValue
    | .coroutine => return .coroutine call.coroutine
    | .argCount => return .ofNat call.message.argumentCount
  | other => throw (.mismatch "Call" other)

end CallPrimitive

namespace MessagePrimitive

/-- The answer of a built-in of messages. -/
def run (use : Invocation) (primitive : MessagePrimitive) : Action Value :=
  match use.receiver, primitive with
  | .message message, .name => return .string message.name
  | .message message, .argCount => return .ofNat message.argumentCount
  | other, _ => throw (.mismatch "Message" other)

end MessagePrimitive

namespace LocalsPrimitive

/-- The scope that a value is. -/
def expectLocals : Value → Action LocalsId
  | .locals id => return id
  | other => throw (.mismatch "Locals" other)

/-- The answer of a built-in of scopes. -/
def run (use : Invocation) : LocalsPrimitive → Action Value
  | .self => do
    let scope ← expectLocals use.receiver
    return ((← Action.store).scope scope).self
  | .getSlot => do
    let name ← (use.input 0).expectString
    let scope ← expectLocals use.receiver
    return ((← Action.store).readVariable? scope name).getD .nil

end LocalsPrimitive

namespace CoroutinePrimitive

/-- The answer of a built-in of the thread of execution. -/
def run (use : Invocation) (primitive : CoroutinePrimitive) : Action Value := do
  match use.receiver with
  | .coroutine thread =>
    let coroutine := (← Action.store).coroutine thread
    match primitive with
    | .id => return .int coroutine.number.toInt64
    | .label => Action.newString coroutine.label
  | other => throw (.mismatch "Coroutine" other)

end CoroutinePrimitive

/-- The code that a value stands for, for built-ins of blocks and functions. -/
def expectInvokable (value : Value) : Action Invokable :=
  match value.invokable? with
  | some invokable => return invokable
  | none => throw (.mismatch "Block" value)

/-- The names of the parameters, as a list. -/
def argumentNames (use : Invocation) : Action Value := do
  let invokable ← expectInvokable use.receiver
  let names := (← Action.store).parameters invokable
  Action.newList (names.map .string)

namespace ExceptionPrimitive

/-- The wording of an exception raised with the given value. -/
def wording : Value → Action String
  | .nil => return "exception raised"
  | value => Action.display value

/-- The answer of a built-in of exceptions.  Raising makes a new object below the receiver. -/
def run (use : Invocation) : ExceptionPrimitive → Action Value
  | .raise => do
    let key ← Action.newText "message"
    let raised ← Action.newObject
      { prototype := some use.receiver.delegate
        slots := Table.empty.put key (use.input 0) }
    throw (.exception raised (← wording (use.input 0)))
  | .message => do
    match (← Action.store).lookupOn use.receiver "message" with
    | some found => return if found.value.invokable?.isSome then .nil else found.value
    | none => return .nil

end ExceptionPrimitive

end SlotTalk
