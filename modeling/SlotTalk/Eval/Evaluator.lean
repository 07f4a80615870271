import SlotTalk.Eval.Loops

namespace SlotTalk

/-!
# The evaluator

* `evalNode` — evaluate one node, asking an evaluator for its parts.
* `evaluator` — the evaluator itself, tied together by fuel: each level of nesting costs one.
* `Finishes` — the job ends, with some amount of fuel, in a given way.

More fuel never changes how a job ends; without enough of it there is no answer at all.
-/

/-! ### Sends -/

/-- Evaluate the nodes from left to right.  The first that unwinds ends it. -/
def evalArguments (scope : LocalsId) : List Node → Script (List Value)
  | [] => return []
  | node :: rest => do
    let value ← Script.evaluate (.eval node scope)
    return value :: (← evalArguments scope rest)

/-- Use what was found under a name.  Plain data is the answer as it is; code gets its arguments
    evaluated, unless there are more than it takes, and runs. -/
def activate (scope : LocalsId) (receiver found slotContext : Value)
    (message : Message) (arguments : List Node) : Script Value := do
  match found.invokable? with
  | none => return found
  | some code =>
    Script.ofAction (checkArgumentCount code message.name.content message.argumentCount)
    let values ← evalArguments scope arguments
    Script.evaluate <| .activate
      { caller := scope
        code := code
        receiver := receiver
        slotContext := slotContext
        message := message
        arguments := values }

/-- Look the name up on the receiver and use what is found. -/
def send (scope : LocalsId) (receiver : Value) (message : Message)
    (arguments : List Node) : Script Value := do
  match ← Action.findOn receiver message.name.content with
  | none => Script.fail (.undefinedName message.name.content message.location)
  | some found =>
    activate scope receiver found.value (.object found.holder) message arguments

/-- Look the name up among the variables of the scope, and else send it to `self`. -/
def sendImplicit (scope : LocalsId) (message : Message)
    (arguments : List Node) : Script Value := do
  let self ← Action.selfOf scope
  match ← Action.findVariable scope message.name.content with
  | some value => activate scope self value (.locals scope) message arguments
  | none => send scope self message arguments

/-! ### Assignments -/

/-- Create or overwrite a name on a target: a slot of an object, or a variable of a scope. -/
def defineOn (target : Value) (name : Text) (value : Value) : Action Unit :=
  match target with
  | .object id => Action.modifyStore (·.putSlot id name value)
  | .locals id => Action.defineVariable id name value
  | other => throw (.mismatch "Object" other)

/-- Overwrite a name where it is defined, seen from a target. -/
def updateOn (target : Value) (name : String) (value : Value) : Action Unit := do
  match target with
  | .locals id => Action.updateVariable id name value
  | other =>
    if ← Action.updateSlot other name value then return ()
    else throw (.undefinedName name none)

/-! ### Code literals -/

/-- A method remembers the frame it was written in, unless that is a top level. -/
def methodHome (store : Store) (scope : LocalsId) : Option FrameId :=
  if store.isModule scope then none else some (store.scope scope).frame

/-- A new method written in the scope. -/
def newMethod (scope : LocalsId) (code : Code) : Action Value := do
  let outer := methodHome (← Action.store) scope
  return .method (← Action.updateStore (·.addMethod ⟨code, outer⟩))

/-- A new block written in the scope. -/
def newBlock (scope : LocalsId) (code : Code) : Action Value :=
  return .block (← Action.updateStore (·.addBlock ⟨code, scope⟩))

/-- A new function, which remembers no scope. -/
def newFunction (code : Code) : Action Value :=
  return .function (← Action.updateStore (·.addFunction code))

/-! ### Handlers -/

/-- The object that a handler gets for an error: what was raised, or a new exception that describes
    the error. -/
def exceptionOf (report : ErrorReport) : Action Value :=
  match report.error with
  | .exception value _ => return value
  | error => do
    let backtrace ← Action.newList (← report.backtrace.mapM Action.newString)
    let slots : List (Text × Value) :=
      [(← Action.newText "name", ← Action.newString error.kind),
       (← Action.newText "message", ← Action.newString error.message),
       (← Action.newText "backtrace", backtrace)]
    Action.newObject { prototype := some Prototype.exception.id, slots := .ofList slots }

/-! ### Nodes -/

/-- The call of the running activation, if it has one. -/
def currentCall (store : Store) (scope : LocalsId) : Value :=
  match (store.frame (store.scope scope).frame).context with
  | .call id => .call id
  | _ => .nil

/-- Read the call of the running activation. -/
def readCall (scope : LocalsId) : Action Value := return currentCall (← Action.store) scope

/-- Evaluate the nodes in order and answer the value of the last. -/
def evalSequence (scope : LocalsId) : List Node → Value → Script Value
  | [], last => return last
  | node :: rest, _ => do
    let value ← Script.evaluate (.eval node scope)
    evalSequence scope rest value

/-- Evaluate a node that may be missing. -/
def evalOption (scope : LocalsId) : Option Node → Script (Option Value)
  | none => return none
  | some node => return some (← Script.evaluate (.eval node scope))

/-- Evaluate one node.  Loops may take as many passes as the last number says. -/
def evalNode (passes : Nat) (scope : LocalsId) : Node → Script Value
  | .nil => return .nil
  | .bool value => return .bool value
  | .integer value => return .int value
  | .float value => return .float value
  | .string text => return .string text
  | .self => Script.ofAction (Action.selfOf scope)
  | .thisCall => Script.ofAction (readCall scope)
  | .thisLocals => return .locals scope
  | .send receiver name arguments location => do
    let message : Message := ⟨name, arguments.length, location⟩
    match receiver with
    | some receiver =>
      let target ← Script.evaluate (.eval receiver scope)
      send scope target message arguments
    | none => sendImplicit scope message arguments
  | .define target name value => do
    match ← evalOption scope target with
    | some target =>
      let value ← Script.evaluate (.eval value scope)
      Script.ofAction (defineOn target name value)
      return value
    | none =>
      let value ← Script.evaluate (.eval value scope)
      Script.ofAction (Action.defineVariable scope name value)
      return value
  | .update target name value => do
    match ← evalOption scope target with
    | some target =>
      let value ← Script.evaluate (.eval value scope)
      Script.ofAction (updateOn target name value)
      return value
    | none =>
      let value ← Script.evaluate (.eval value scope)
      Script.ofAction (Action.updateVariable scope name value)
      return value
  | .sequence nodes => evalSequence scope nodes .nil
  | .block parameters body uses => Script.ofAction (newBlock scope ⟨parameters, body, uses⟩)
  | .method parameters body uses => Script.ofAction (newMethod scope ⟨parameters, body, uses⟩)
  | .function parameters body uses => Script.ofAction (newFunction ⟨parameters, body, uses⟩)
  | .ifThenElse condition thenBranch elseBranch => do
    if (← Script.evaluate (.eval condition scope)).isTruthy then
      Script.evaluate (.eval thenBranch scope)
    else
      match elseBranch with
      | some branch => Script.evaluate (.eval branch scope)
      | none => return .nil
  | .whileLoop condition body => whileLoop condition body scope passes
  | .forLoop counter start stop step body => do
    let start ← Script.evaluate (.eval start scope)
    let stop ← Script.evaluate (.eval stop scope)
    let step ← evalOption scope step
    forLoop counter start stop (step.getD (.int 1)) body scope passes
  | .forEach source index element body => do
    let elements ← Elements.ofValue (← Script.evaluate (.eval source scope))
    forEach index element body scope elements passes
  | .breakLoop value => do
    let value ← evalOption scope value
    Script.unwind (.broke value)
  | .continueLoop => Script.unwind .continued
  | .returnFrom value => do
    let value ← evalOption scope value
    Script.unwind (.returned (value.getD .nil))
  | .tryCatch body errorName handler => do
    match ← Script.attempt (.eval body scope) with
    | .error (.failed report) =>
      let exception ← exceptionOf report
      Script.ofAction (Action.defineVariable scope errorName exception)
      Script.evaluate (.eval handler scope)
    | outcome => Script.done outcome

/-! ### Fuel -/

/-- The script of a job.  Loops may take as many passes as the number says. -/
def doJob (passes : Nat) : Job → Script Value
  | .eval node scope => evalNode passes scope node
  | .activate activation => activation.run
  | .enter activation => activation.enter

/-- The evaluator.  What a job asks for is done with one unit of fuel less, and a loop takes at most
    as many passes as there are units. -/
def evaluator : Nat → Evaluator
  | 0, _, _ => none
  | fuel + 1, job, engine => (doJob fuel job).run (evaluator fuel) engine

/-- The job ends in the given way from the given state, with some amount of fuel. -/
def Finishes (job : Job) (before : Engine) (outcome : Except Unwind Value) (after : Engine) :
    Prop :=
  ∃ fuel, evaluator fuel job before = some (outcome, after)

end SlotTalk
