import SlotTalk.Eval.Evaluator

namespace SlotTalk

/-!
# Engines and their hosts

* `Engine.new` — an engine in the state in which every engine starts.
* `Engine.run`, `Engine.eval`, `Engine.perform` — what a host can ask for.  Each takes fuel, and
  answers `none` if it is not enough.
* `newMessage`, `writeSlot`, `bindOnLobby`, `cloneObject` — what a host makes for itself.
-/

namespace Engine

/-- An engine in which nothing has happened. -/
def new (config : Config) : Engine where
  config := config
  store := World.store config.label
  nextIdentity := World.nextIdentity

/-- A program whose texts have identities that nothing had before. -/
def load (engine : Engine) (program : Node) : Node × Engine :=
  let (loaded, nextIdentity) := program.number engine.nextIdentity
  (loaded, { engine with nextIdentity := nextIdentity })

/-- The end of a whole program: a return is an answer, and a loop signal that found no loop is an
    error. -/
def finish : Except Unwind Value → Except ErrorReport Value
  | .ok value | .error (.returned value) => .ok value
  | .error (.failed report) => .error report
  | .error (.broke _) => .error { error := .signalOutsideLoop "break" }
  | .error .continued => .error { error := .signalOutsideLoop "continue" }

/-- Evaluate a node in a scope. -/
def eval (engine : Engine) (fuel : Nat) (node : Node) (scope : LocalsId) :
    Option (Except Unwind Value × Engine) :=
  let (loaded, engine) := engine.load node
  evaluator fuel (.eval loaded scope) engine

/-- Evaluate a whole program at the top level. -/
def run (engine : Engine) (fuel : Nat) (program : Node) :
    Option (Except ErrorReport Value × Engine) :=
  (engine.eval fuel program World.moduleLocals).map fun (outcome, engine) =>
    (finish outcome, engine)

/-- Send a message with evaluated arguments.  The message itself says that it has none. -/
def sendFromHost (receiver : Value) (name : String) (arguments : List Value) : Script Value := do
  match ← Action.findOn receiver name with
  | none => Script.fail (.undefinedName name none)
  | some found =>
    match found.value.invokable? with
    | none => return found.value
    | some code =>
      Script.evaluate <| .activate
        { caller := World.moduleLocals
          code := code
          receiver := receiver
          slotContext := .object found.holder
          message := ⟨name, 0, none⟩
          arguments := arguments }

/-- Send a message with evaluated arguments from the top level. -/
def perform (engine : Engine) (fuel : Nat) (receiver : Value) (name : String)
    (arguments : List Value) : Option (Except ErrorReport Value × Engine) :=
  ((sendFromHost receiver name arguments).run (evaluator fuel) engine).map
    fun (outcome, engine) => (finish outcome, engine)

/-- Take what was printed so far. -/
def takeOutput (engine : Engine) : String × Engine := (engine.output, { engine with output := "" })

end Engine

/-- A message that no send holds. -/
def newMessage (name : String) (argumentCount : Nat) (location : Option Location) :
    Action Value :=
  return .message ⟨← Action.newText name, argumentCount, location⟩

/-- Put a slot on an object, under a name that is a new text. -/
def writeSlot (object : ObjectId) (name : String) (value : Value) : Action Unit := do
  let key ← Action.newText name
  Action.modifyStore (·.putSlot object key value)

/-- Put a slot on the lobby. -/
def bindOnLobby (name : String) (value : Value) : Action Unit := writeSlot lobbyObject name value

/-- A new object below a value, or below `Object` if there is none. -/
def cloneObject (of : Option Value) : Action Value :=
  return .object (← Action.cloneOf ((of.map Value.delegate).getD objectPrototype))

end SlotTalk
