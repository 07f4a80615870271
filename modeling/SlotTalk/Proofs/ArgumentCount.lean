import SlotTalk.Proofs.Backtrace
import SlotTalk.Proofs.RunningCall
import SlotTalk.Proofs.Trace

namespace SlotTalk

/-!
# The number of arguments

A message tells the number of arguments that were written in it, or that were handed to `perform`;
the arguments themselves are evaluated and handed on apart from it.  The two are kept in step
wherever code is activated by code, so that a body can ask its call for the number of arguments that
it was given.  They are not kept in step by the host, whose messages always tell of none.

* `Activation.TellsCount` — a body that asks for the number of its arguments is told this one.
* `Activation.tellsCount_of_uses` — it is told what the message says.
* `sendingOnly` — the policy of sending certain messages with certain arguments only.
* `argument_count_is_told` — what is told to code that was activated by code, and by the host.
-/

theorem Store.argumentCount_recordMessage (id : CallId) (message : Message) :
    (recordMessage id message).argumentCount = message.argumentCount := by
  unfold recordMessage
  split <;> rfl

/-! ### Asking for the number of arguments -/

/-- The built-in that answers the number of arguments of a call. -/
def argCountOfCalls : Primitive := .plain (.call .argCount)

/-- Wherever the body of the activation, which was entered in the given state, has its call read,
    the call tells the number; and where it sends `argCount` to the call, with room for one
    activation and the built-in found under this name, the answer is the number. -/
structure Activation.TellsCount (activation : Activation) (entry : Engine) (count : Nat) :
    Prop where
  call {scope : LocalsId} {next : Except Unwind Value → Script Value} {state : Engine} :
    activation.enter.Reaches entry [] (.ask (.eval .thisCall scope) next) state →
    ∃ id, Finishes (.eval .thisCall scope) state (.ok (.call id)) state
      ∧ (state.store.call id).message.argumentCount = count
  argCount {name : Text} {location : Option Location} {scope : LocalsId}
    {next : Except Unwind Value → Script Value} {state : Engine} {holder : ObjectId} :
    activation.enter.Reaches entry []
      (.ask (.eval (.send (some .thisCall) name [] location) scope) next) state →
    name.content = "argCount" → state.depth < state.config.maxDepth →
    state.store.lookup (Prototype.ofType .call).id "argCount"
      = some ⟨holder, .primitive argCountOfCalls⟩ →
    Finishes (.eval (.send (some .thisCall) name [] location) scope) state (.ok (.ofNat count))
      state

/-- The built-in answers what the message of the call says. -/
theorem evaluator_argCount {activation : Activation} {state : Engine} {id : CallId} (fuel : Nat)
    (code : activation.code = .primitive argCountOfCalls) (on : activation.receiver = .call id)
    (noArguments : activation.arguments = []) (room : state.depth < state.config.maxDepth) :
    evaluator (fuel + 2) (.activate activation) state
      = some (.ok (.ofNat (state.store.call id).message.argumentCount), state) := by
  have accepted : activation.refusal? state = .none := by
    have fits : state.store.tooMany activation.code activation.arguments.length = false := by
      rw [code, noArguments]
      rfl
    rw [Activation.refusal?, fits, if_neg (by exact Bool.false_ne_true),
      if_neg (Nat.not_le_of_lt room)]
  have entered : evaluator (fuel + 1) (.enter activation) state.deeper
      = some (.ok (.ofNat (state.store.call id).message.argumentCount), state.deeper) := by
    show activation.enter.run _ _ = _
    rw [Activation.enter, code]
    have receiver : (activation.invocation argCountOfCalls).receiver = .call id := on
    show (Script.ofAction
      (CallPrimitive.run (activation.invocation argCountOfCalls) .argCount)).run _ _ = _
    rw [CallPrimitive.run, receiver]
    rfl
  show activation.run.run _ _ = _
  rw [Activation.run_run, accepted, entered]
  rfl

/-- A node that sends `argCount` to the running call finds the built-in, and answers the same. -/
theorem finishes_argCount {state : Engine} {scope : LocalsId} {id : CallId} {name : Text}
    {location : Option Location} {holder : ObjectId}
    (asked : currentCall state.store scope = .call id) (named : name.content = "argCount")
    (room : state.depth < state.config.maxDepth)
    (found : state.store.lookup (Prototype.ofType .call).id "argCount"
      = some ⟨holder, .primitive argCountOfCalls⟩) :
    Finishes (.eval (.send (some .thisCall) name [] location) scope) state
      (.ok (.ofNat (state.store.call id).message.argumentCount)) state := by
  have target : (Script.evaluate (.eval .thisCall scope)).run (evaluator 3) state
      = some (.ok (.call id), state) :=
    congrArg (fun value => some (Except.ok value, state)) asked
  have looked : (Action.findOn (.call id) name.content).on state
      = (.ok (some ⟨holder, .primitive argCountOfCalls⟩), state) := by
    rw [named]
    exact congrArg (fun found => (Except.ok found, state)) found
  have fits : ¬ state.store.tooMany (.primitive argCountOfCalls) 0 := Bool.false_ne_true
  refine ⟨4, ?_⟩
  show (Script.evaluate (.eval .thisCall scope) >>= fun target =>
    send scope target ⟨name, 0, location⟩ []).run (evaluator 3) state = _
  rw [Script.run_bind, target]
  show (Script.ofAction (Action.findOn (.call id) name.content) >>= _).run (evaluator 3) state = _
  rw [Script.run_bind, Script.ofAction, Script.run, looked]
  show (Script.ofAction
      (checkArgumentCount (.primitive argCountOfCalls) name.content 0) >>= fun _ =>
    Script.evaluate (.activate ⟨scope, .primitive argCountOfCalls, .call id, .object holder,
      ⟨name, 0, location⟩, []⟩)).run (evaluator 3) state = _
  rw [Script.run_bind, Script.ofAction, Script.run, checkArgumentCount_on, if_neg fits]
  exact (Script.run_evaluate ..).trans (evaluator_argCount 1 rfl rfl rfl room)

/-- Code that asks for its call is told what the message says. -/
theorem Activation.tellsCount_of_uses {activation : Activation} {entry : Engine}
    (uses : entry.store.usesCallContext activation.code = true) :
    activation.TellsCount entry activation.message.argumentCount where
  call reached := by
    obtain ⟨asked, records⟩ := answers_of_uses uses reached
    refine ⟨_, ⟨1, congrArg (fun value => some (Except.ok value, _)) asked⟩, ?_⟩
    rw [records.message, Store.argumentCount_recordMessage]
  argCount {name location scope next state holder} reached named room found := by
    obtain ⟨asked, records⟩ := answers_of_uses uses reached
    have told := @finishes_argCount _ _ _ _ location _ asked named room found
    rw [records.message, Store.argumentCount_recordMessage] at told
    exact told

/-! ### Messages and arguments -/

/-- Everything may be held and evaluated, and certain messages be sent with certain arguments. -/
def sendingOnly (sends : Message → List Value → Prop)
    (counted : ∀ message arguments, message.argumentCount = arguments.length →
      sends message arguments) : Policy :=
  { Policy.everything with
    sends := sends
    counted := counted _ _ }

section Sending

variable {sends : Message → List Value → Prop}
  {counted : ∀ message arguments, message.argumentCount = arguments.length →
    sends message arguments}

theorem sendingOnly_lenient : (sendingOnly sends counted).Lenient :=
  ⟨fun _ => trivial, fun _ => trivial⟩

theorem sendingOnly_closed (store : Store) : (sendingOnly sends counted).Closed store :=
  sendingOnly_lenient.closed_of_code (fun _ => ⟨trivial, .inl trivial⟩)
    (fun _ => ⟨⟨trivial, .inl trivial⟩, trivial⟩) fun _ => ⟨⟨trivial, .inl trivial⟩, trivial⟩

/-- An activation that is entered was sent with arguments that go with its message. -/
theorem sends_of_entered {script : Script Value} {values : Value → Prop}
    (confined : script.Confined (sendingOnly sends counted) values) {before entry : Engine}
    {inside : List Activation} {activation : Activation}
    {next : Except Unwind Value → Script Value}
    (reached : script.Reaches before inside (.ask (.enter activation) next) entry) :
    sends activation.message activation.arguments := by
  obtain ⟨post, -, required, -⟩ :=
    confined.keeps_of_reaches reached (sendingOnly_closed before.store)
  exact required.1.sent

/-- A message from the host is a send of this message with these arguments. -/
theorem sendFromHost_confined {policy : Policy} {receiver : Value} (on : policy.Holds receiver)
    (name : String) {arguments : List Value} (held : ∀ value ∈ arguments, policy.Holds value)
    (sent : policy.sends ⟨name, 0, none⟩ arguments) :
    (Engine.sendFromHost receiver name arguments).Confined policy policy.Holds := by
  refine .bind (.ofAction (.findOn on name)) fun result finds => ?_
  cases result with
  | none => exact .fail trivial
  | some found =>
    obtain ⟨holder, holds⟩ := finds found rfl
    dsimp only
    split
    next => exact holds
    next code same =>
      have runs : policy.Holds code.toValue := Value.toValue_of_invokable? same ▸ holds
      exact .evaluate ⟨policy.topScope, runs, on, holder, held, sent⟩

/-- The message and the arguments that the evaluation was started with, if it was started with
    some: for a send, there is one argument for each node. -/
def Start.Gives : Start → Message → List Value → Prop
  | .eval .., _, _ => False
  | .send _ _ given nodes, message, arguments | .sendImplicit _ given nodes, message, arguments
  | .activate _ _ _ _ given nodes, message, arguments =>
    message = given ∧ arguments.length = nodes.length
  | .invoke activation, message, arguments =>
    message = activation.message ∧ arguments = activation.arguments
  | .perform _ name given, message, arguments => message = ⟨name, 0, none⟩ ∧ arguments = given

/-- Whatever is started is confined, if what it is started with may be sent. -/
theorem Start.script_confined (start : Start)
    (given : ∀ message arguments, start.Gives message arguments → sends message arguments) :
    start.script.Confined (sendingOnly sends counted) (sendingOnly sends counted).Holds := by
  have holds : ∀ value, (sendingOnly sends counted).Holds value := sendingOnly_lenient.holds
  have written : ∀ nodes : List Node, ∀ node ∈ nodes, (sendingOnly sends counted).node node :=
    fun _ _ _ => trivial
  cases start with
  | eval node scope => exact .evaluate ⟨trivial, trivial⟩
  | send scope receiver message nodes =>
    exact send_confined trivial (written nodes) (fun _ same => given _ _ ⟨rfl, same⟩)
      (holds receiver)
  | sendImplicit scope message nodes =>
    exact sendImplicit_confined trivial (written nodes) fun _ same => given _ _ ⟨rfl, same⟩
  | activate scope receiver found slotContext message nodes =>
    exact activate_confined trivial (written nodes) (fun _ same => given _ _ ⟨rfl, same⟩)
      (holds receiver) (holds found) (holds slotContext)
  | invoke activation =>
    exact .evaluate ⟨trivial, holds _, holds _, holds _, fun value _ => holds value,
      given _ _ ⟨rfl, rfl⟩⟩
  | perform receiver name arguments =>
    exact sendFromHost_confined (holds receiver) name (fun value _ => holds value)
      (given _ _ ⟨rfl, rfl⟩)

end Sending

/-- **Argument counts.**  In any evaluation, from any state, the body of a block or method that asks
    for its call is told what the message of its activation says.  This is the number of the
    arguments that were handed to it, by whichever sends, by `call` or by `perform` the activation
    came about, except for the very message and arguments that the evaluation was started with: in
    the evaluation of a node there are none, and a message of the host says that it has no
    arguments, whatever is handed on. -/
theorem argument_count_is_told {start : Start} {before entry : Engine} {inside : List Activation}
    {activation : Activation} {next : Except Unwind Value → Script Value}
    (reached : start.script.Reaches before inside (.ask (.enter activation) next) entry)
    (uses : entry.store.usesCallContext activation.code = true) :
    activation.TellsCount entry activation.message.argumentCount
      ∧ (activation.message.argumentCount = activation.arguments.length
        ∨ start.Gives activation.message activation.arguments) := by
  let policy := sendingOnly (fun message arguments => message.argumentCount = arguments.length
    ∨ start.Gives message arguments) fun _ _ => .inl
  have confined : start.script.Confined policy policy.Holds :=
    start.script_confined fun _ _ => .inr
  exact ⟨Activation.tellsCount_of_uses uses, sends_of_entered confined reached⟩

/-- Sends `argCount` to the running call. -/
def askCount : Node := .send (some .thisCall) "argCount" [] none

/-- A new engine with a method on the lobby that takes one argument and answers how many it got. -/
def countingEngine : Engine :=
  { Engine.new {} with
    store :=
      ((Engine.new {}).store.addMethod ⟨⟨[("x" : Text)], askCount, true⟩, none⟩).2.putSlot
        lobbyObject "m" (.method ⟨0⟩) }

/-- Sends the message with one argument. -/
def countingSend : Node := .send none "m" [.integer 1] none

/-- The activation of the method with one argument, by a message that tells of so many. -/
def countingActivation (told : Nat) : Activation where
  caller := World.moduleLocals
  code := .method ⟨0⟩
  receiver := .object lobbyObject
  slotContext := .object lobbyObject
  message := ⟨"m", told, none⟩
  arguments := [.int 1]

/-- The state in which the body of the method starts. -/
def countingBody (told : Nat) : Engine :=
  (((countingActivation told).openMethod ⟨0⟩).on countingEngine.deeper).2

theorem countingActivation_enters (told : Nat) :
    ∃ next, (doJob 0 (.activate (countingActivation told))).Reaches countingEngine []
      (.ask (.enter (countingActivation told)) next) countingEngine.deeper :=
  ⟨_, .afterAct rfl (.afterAct rfl .here)⟩

theorem countingActivation_asks (told : Nat) :
    ∃ next, (countingActivation told).enter.Reaches countingEngine.deeper []
      (.ask (.eval askCount ⟨2⟩) next) (countingBody told) :=
  ⟨_, .afterAct rfl .here⟩

/-- A send with one argument is told of one; a message of the host with one argument of none. -/
theorem arguments_counted_by_a_method :
    Finishes (.eval askCount ⟨2⟩) (countingBody 1) (.ok (.int 1)) (countingBody 1)
      ∧ Finishes (.eval askCount ⟨2⟩) (countingBody 0) (.ok (.int 0)) (countingBody 0) := by
  have looked : (Action.findOn (.object lobbyObject) "m").on countingEngine
      = (.ok (some ⟨lobbyObject, .method ⟨0⟩⟩), countingEngine) := by
    have found : countingEngine.store.lookupOn (.object lobbyObject) "m"
        = some ⟨lobbyObject, .method ⟨0⟩⟩ := Store.lookup_eq_of_code rfl (by decide +kernel)
    exact congrArg (fun found => (Except.ok found, _)) found
  have one : Value.ofNat 1 = .int 1 := by
    rw [Value.ofNat, Value.ofInt, if_pos (by decide)]
    rfl
  have zero : Value.ofNat 0 = .int 0 := by
    rw [Value.ofNat, Value.ofInt, if_pos (by decide)]
    rfl
  have named : (Text.content "argCount") = "argCount" := rfl
  constructor
  · obtain ⟨next, enters⟩ := countingActivation_enters 1
    have sent : (doJob 1 (.eval countingSend World.moduleLocals)).Reaches countingEngine []
        (.ask (.enter (countingActivation 1)) next) countingEngine.deeper :=
      .afterAct rfl (.afterAct rfl (.afterAct looked (.afterAct rfl
        (.afterAsk ⟨1, rfl⟩ (.within enters)))))
    have reached : (Start.eval countingSend World.moduleLocals).script.Reaches countingEngine []
        (.ask (.enter (countingActivation 1)) next) countingEngine.deeper := .within sent
    obtain ⟨told, -⟩ := argument_count_is_told reached rfl
    obtain ⟨rest, asked⟩ := countingActivation_asks 1
    have found : (countingBody 1).store.lookup (Prototype.ofType .call).id "argCount"
        = some ⟨(Prototype.ofType .call).id, .primitive argCountOfCalls⟩ :=
      Store.lookup_eq_of_code rfl (by decide +kernel)
    exact one ▸ told.argCount asked named (by decide) found
  · obtain ⟨next, enters⟩ := countingActivation_enters 0
    have reached : (Start.perform (.object lobbyObject) "m" [.int 1]).script.Reaches countingEngine
        [] (.ask (.enter (countingActivation 0)) next) countingEngine.deeper :=
      .afterAct looked (.within enters)
    obtain ⟨told, -⟩ := argument_count_is_told reached rfl
    obtain ⟨rest, asked⟩ := countingActivation_asks 0
    have found : (countingBody 0).store.lookup (Prototype.ofType .call).id "argCount"
        = some ⟨(Prototype.ofType .call).id, .primitive argCountOfCalls⟩ :=
      Store.lookup_eq_of_code rfl (by decide +kernel)
    exact zero ▸ told.argCount asked named (by decide) found

end SlotTalk
