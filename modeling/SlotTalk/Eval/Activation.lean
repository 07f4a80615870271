import SlotTalk.Eval.Script

namespace SlotTalk

/-!
# Activations

An activation runs code that was found in a slot or a variable.

* `Activation.run` — count the activation, enter the code, and note the activation in the report of
  an error that leaves it.
* `Activation.enter` — the code itself, once the activation is counted.
* `Activation.openFunction`, `Activation.openBlock`, `Activation.openMethod` — the scope in which
  each kind of code runs.
-/

/-- More arguments than the code takes. -/
def Store.tooMany (store : Store) (code : Invokable) (supplied : Nat) : Bool :=
  !code.isVariadic && store.arity code < supplied

/-- Refuse more arguments than the code takes. -/
def checkArgumentCount (code : Invokable) (name : String) (supplied : Nat) : Action Unit := do
  let store ← Action.store
  if store.tooMany code supplied then
    throw (.tooManyArguments name (store.arity code) supplied)

/-! ### Bodies -/

/-- Code with the scope in which its body is to be evaluated. -/
structure Opened where
  code : Code
  scope : LocalsId

/-- A new scope whose frame holds the parameters of the code.  Missing arguments are nil. -/
def openScope (code : Code) (arguments : List Value) (self context : Value)
    (outer : Option FrameId) : Action Opened := do
  let frame ← Action.updateStore (·.addFrame
    { kind := .activation
      context := context
      vars := .ofList (code.parameters.zip (padTo code.arity arguments))
      outer := outer })
  return ⟨code, ← Action.updateStore (·.addLocals { self := self, frame := frame })⟩

/-- Evaluate a body up to its activation boundary: a return ends here, and a loop signal that finds
    no loop is an error. -/
def runBody (opened : Opened) : Script Value := do
  match ← Script.attempt (.eval opened.code.body opened.scope) with
  | .error (.returned value) => return value
  | .error (.broke _) => Script.fail (.signalOutsideLoop "break")
  | .error .continued => Script.fail (.signalOutsideLoop "continue")
  | outcome => Script.done outcome

namespace Activation

/-- The call of this activation, sent from the given scope to the given target. -/
def newCall (activation : Activation) (sender : LocalsId) (target : Value) : Action Value :=
  return .call (← Action.updateStore (·.addCall
    { sender := sender
      target := target
      message := activation.message
      slotContext := activation.slotContext
      activated := activation.code
      coroutine := World.coroutine }))

/-- A function runs with the `self` of the top level and sees the receiver only as its context. -/
def openFunction (activation : Activation) (id : FunctionId) : Action Opened := do
  let code := (← Action.store).function id
  openScope code activation.arguments (.object lobbyObject) activation.receiver none

/-- The context of a block: its call if it reads one, sent from the scope it was written in. -/
def blockContext (activation : Activation) (block : Block) : Action Value :=
  if block.code.usesCallContext then activation.newCall block.sender (.locals block.sender)
  else return activation.receiver

/-- A block runs with the `self` of the scope it was written in, whatever the receiver. -/
def openBlock (activation : Activation) (id : BlockId) : Action Opened := do
  let block := (← Action.store).block id
  let context ← activation.blockContext block
  let home := (← Action.store).scope block.sender
  openScope block.code activation.arguments home.self context (some home.frame)

/-- The context of a method: its call if it reads one, sent from the caller's frame with the
    receiver as `self`. -/
def methodContext (activation : Activation) (method : Method) : Action Value := do
  if method.code.usesCallContext then
    let frame := ((← Action.store).scope activation.caller).frame
    let sender ← Action.updateStore (·.addLocals { self := activation.receiver, frame := frame })
    activation.newCall sender activation.receiver
  else
    return activation.receiver

/-- A method runs with the receiver as `self`. -/
def openMethod (activation : Activation) (id : MethodId) : Action Opened := do
  let method := (← Action.store).method id
  let context ← activation.methodContext method
  openScope method.code activation.arguments activation.receiver context method.outer

/-- The use of a built-in that this activation is. -/
def invocation (activation : Activation) (builtIn : Primitive) : Invocation where
  receiver := activation.receiver
  inputs := padTo builtIn.signature.inputs activation.arguments
  message := activation.message

/-- Send the message named by the first input, with the other inputs as arguments. -/
def performByName (caller : LocalsId) (use : Invocation) : Script Value := do
  let name ← (use.input 0).expectString
  match ← Action.findOn use.receiver name with
  | none => Script.fail (.undefinedName name use.message.location)
  | some found =>
    match found.value.invokable? with
    | none => return found.value
    | some code =>
      let arguments := use.inputs.drop 1
      Script.evaluate <| .activate
        { caller := caller
          code := code
          receiver := use.receiver
          slotContext := .object found.holder
          message := ⟨name, arguments.length, none⟩
          arguments := arguments }

/-- Activate the receiver itself. -/
def callReceiver (caller : LocalsId) (use : Invocation) : Script Value := do
  let code ← expectInvokable use.receiver
  Script.evaluate <| .activate
    { caller := caller
      code := code
      receiver := use.receiver
      slotContext := .object use.receiver.delegate
      message := use.message
      arguments := use.inputs }

/-- The answer of a built-in. -/
def enterPrimitive (activation : Activation) (builtIn : Primitive) : Script Value :=
  let use := activation.invocation builtIn
  match builtIn with
  | .plain primitive => Script.ofAction (primitive.run use)
  | .perform => performByName activation.caller use
  | .callBlock | .callFunction => callReceiver activation.caller use

/-- Run the code. -/
def enter (activation : Activation) : Script Value :=
  match activation.code with
  | .primitive builtIn => activation.enterPrimitive builtIn
  | .function id => do runBody (← activation.openFunction id)
  | .block id => do runBody (← activation.openBlock id)
  | .method id => do runBody (← activation.openMethod id)

/-! ### Counting activations -/

/-- The line for this activation in a report: kind of the receiver, name, and place. -/
def entry (activation : Activation) : String :=
  let line := activation.receiver.type.text ++ " " ++ activation.message.name.content
  match activation.message.location with
  | some location => s!"{line} ({location.text})"
  | none => line

/-- Refuse to nest deeper than the limit, and count one more activation otherwise. -/
def descend : Action Unit := do
  let engine ← get
  if engine.config.maxDepth ≤ engine.depth then throw (.stackOverflow engine.config.maxDepth)
  else set engine.deeper

/-- Count one activation less. -/
def ascend : Action Unit := modify Engine.shallower

/-- Note the activation in the report of an error that leaves it. -/
def leave (activation : Activation) : Except Unwind Value → Except Unwind Value
  | .error (.failed report) => .error (.failed (report.push activation.entry))
  | outcome => outcome

/-- Run the code as one more nested activation. -/
def run (activation : Activation) : Script Value := do
  checkArgumentCount activation.code activation.message.name.content activation.arguments.length
  descend
  let outcome ← Script.attempt (.enter activation)
  ascend
  Script.done (activation.leave outcome)

end Activation

end SlotTalk
