import SlotTalk.Proofs.BlockAnchor
import SlotTalk.Proofs.Session
import SlotTalk.Proofs.WrittenCode

namespace SlotTalk

/-!
# The running call

A body that asks for its call gets the one that was made when its activation was entered.  A frame
keeps either that call or the receiver, and what it keeps is told apart by its kind alone: so a
function, which never has a call of its own, is given its receiver where that is a call.

* `Store.OpenedWith`, `Store.Records` — a scope opened on a context, and the call of an activation.
* `Activation.Answers` — what an activation answers when its body asks for the call.
* `Activation.answers_of_uses`, `Activation.answers_of_function` — what is asked for in a body.
* `callDiscipline` — the policy of evaluating only code with the flag that its body asks for.
* `thisCall_is_the_running_call` — what is asked for anywhere in a session.
-/

/-! ### What a scope is opened with -/

/-- The value as a call; nil if it is none. -/
def Value.asCall : Value → Value
  | .call id => .call id
  | _ => .nil

theorem currentCall_eq (store : Store) (scope : LocalsId) :
    currentCall store scope = (store.frame (store.scope scope).frame).context.asCall := rfl

namespace Store

/-- The scope was opened last, on a frame with the context. -/
def OpenedWith (store : Store) (scope : LocalsId) (context : Value) : Prop :=
  ∃ (before : Store) (self : Value) (frame : Frame), store = before.opened self frame
    ∧ scope = ⟨before.locals.size⟩ ∧ frame.context = context

/-- However the store grows, the context of the frame stays what it was. -/
theorem OpenedWith.currentCall {store after : Store} {scope : LocalsId} {context : Value}
    (opened : store.OpenedWith scope context) (grown : store.Grows after) :
    currentCall after scope = context.asCall := by
  obtain ⟨before, self, frame, rfl, rfl, rfl⟩ := opened
  have scopeExists : before.locals.size < (before.opened self frame).locals.size := by
    simp [Store.opened, addLocals, addFrame]
  have frameExists : before.frames.size < (before.opened self frame).frames.size := by
    rw [size_frames_opened]
    exact Nat.lt_succ_self _
  have sameScope := grown.scope ⟨before.locals.size⟩ scopeExists
  have sameContext := grown.context ⟨before.frames.size⟩ frameExists
  rw [currentCall_eq, sameScope, scope_opened, sameContext, frame_opened, if_pos rfl]

/-- The call with the number is the one that was made for the activation. -/
structure Records (store : Store) (activation : Activation) (id : CallId) : Prop where
  inCalls : id.index < store.calls.size
  message : (store.call id).message = recordMessage id activation.message
  slotContext : (store.call id).slotContext = activation.slotContext
  activated : (store.call id).activated = activation.code

/-- Calls stay what they are. -/
theorem Records.grows {store after : Store} {activation : Activation} {id : CallId}
    (records : store.Records activation id) (grown : store.Grows after) :
    after.Records activation id := by
  have same := grown.call id records.inCalls
  constructor
  · exact Nat.lt_of_lt_of_le records.inCalls grown.calls
  · rw [same, records.message]
  · rw [same, records.slotContext]
  · rw [same, records.activated]

theorem records_addCall (store : Store) (activation : Activation) (sender : LocalsId)
    (target : Value) :
    (store.addCall
      { sender := sender
        target := target
        message := activation.message
        slotContext := activation.slotContext
        activated := activation.code
        coroutine := World.coroutine }).2.Records activation ⟨store.calls.size⟩ := by
  constructor
  · exact Nat.lt_of_lt_of_eq (Nat.lt_succ_self _) (Array.size_push ..).symm
  all_goals rw [call_addCall, if_pos rfl]

end Store

/-! ### Opening the scope of a body -/

theorem openScope_openedWith {code : Code} {arguments : List Value} {self context : Value}
    {outer : Option FrameId} {before after : Engine} {opened : Opened}
    (opens : (openScope code arguments self context outer).on before = (.ok opened, after)) :
    opened.code = code ∧ after.store.OpenedWith opened.scope context := by
  obtain ⟨same, rfl⟩ := Prod.mk.inj opens
  obtain rfl := Except.ok.inj same
  exact ⟨rfl, before.store, self, _, rfl, rfl, rfl⟩

namespace Activation

variable {activation : Activation} {before after : Engine} {opened : Opened}

theorem openFunction_openedWith {id : FunctionId}
    (opens : (activation.openFunction id).on before = (.ok opened, after)) :
    opened.code = before.store.function id
      ∧ after.store.OpenedWith opened.scope activation.receiver :=
  openScope_openedWith opens

theorem openBlock_code {id : BlockId}
    (opens : (activation.openBlock id).on before = (.ok opened, after)) :
    opened.code = (before.store.block id).code := by
  obtain ⟨other, state, opens', code, -⟩ := @openBlock_anchored activation id before
  rw [opens'] at opens
  obtain rfl := Except.ok.inj (Prod.mk.inj opens).1
  exact code

theorem openMethod_code {id : MethodId}
    (opens : (activation.openMethod id).on before = (.ok opened, after)) :
    opened.code = (before.store.method id).code := by
  change (activation.methodContext (before.store.method id) >>= _ : Action Opened).on before = _
    at opens
  rw [Action.on_bind] at opens
  split at opens
  next context between made => exact (openScope_openedWith opens).1
  next => exact nomatch opens

/-- The frame of a block that asks for its call has the call that is made for it. -/
theorem openBlock_openedWith {id : BlockId}
    (uses : (before.store.block id).code.usesCallContext = true)
    (opens : (activation.openBlock id).on before = (.ok opened, after)) :
    after.store.OpenedWith opened.scope (.call ⟨before.store.calls.size⟩)
      ∧ after.store.Records activation ⟨before.store.calls.size⟩ := by
  rw [activation.openBlock_on_of_uses uses] at opens
  obtain ⟨same, rfl⟩ := Prod.mk.inj opens
  obtain rfl := Except.ok.inj same
  have records := before.store.records_addCall activation (before.store.block id).sender
    (.locals (before.store.block id).sender)
  exact ⟨⟨_, _, _, rfl, rfl, rfl⟩, records.inCalls, records.message, records.slotContext,
    records.activated⟩

/-- The frame of a method that asks for its call has the call that is made for it. -/
theorem openMethod_openedWith {id : MethodId}
    (uses : (before.store.method id).code.usesCallContext = true)
    (opens : (activation.openMethod id).on before = (.ok opened, after)) :
    after.store.OpenedWith opened.scope (.call ⟨before.store.calls.size⟩)
      ∧ after.store.Records activation ⟨before.store.calls.size⟩ := by
  change (activation.methodContext (before.store.method id) >>= _ : Action Opened).on before = _
    at opens
  rw [methodContext, if_pos uses] at opens
  obtain ⟨same, rfl⟩ := Prod.mk.inj opens
  obtain rfl := Except.ok.inj same
  -- The call is made after the scope that it is sent from.
  have records := (before.store.addLocals
      { self := activation.receiver, frame := (before.store.scope activation.caller).frame }).2
    |>.records_addCall activation ⟨before.store.locals.size⟩ activation.receiver
  exact ⟨⟨_, _, _, rfl, rfl, rfl⟩, records.inCalls, records.message, records.slotContext,
    records.activated⟩

/-! ### Asking in a body -/

variable {entry state : Engine} {node : Node} {scope : LocalsId}
  {next : Except Unwind Value → Script Value}

/-- Code that asks for its call gets the one that is made for its activation, wherever in its body
    it asks. -/
theorem answers_of_uses (uses : entry.store.usesCallContext activation.code = true)
    (reached : activation.enter.Reaches entry [] (.ask (.eval node scope) next) state) :
    currentCall state.store scope = .call ⟨entry.store.calls.size⟩
      ∧ state.store.Records activation ⟨entry.store.calls.size⟩ := by
  cases code : activation.code with
  | primitive builtIn | function id =>
    rw [code] at uses
    exact nomatch uses
  | block id =>
    rw [code] at uses
    rw [enter_of_block code] at reached
    obtain ⟨opened, between, opens, -, rfl, grown⟩ := reached.body
    obtain ⟨context, records⟩ := openBlock_openedWith uses opens
    exact ⟨context.currentCall grown, records.grows grown⟩
  | method id =>
    rw [code] at uses
    rw [enter_of_method code] at reached
    obtain ⟨opened, between, opens, -, rfl, grown⟩ := reached.body
    obtain ⟨context, records⟩ := openMethod_openedWith uses opens
    exact ⟨context.currentCall grown, records.grows grown⟩

/-- A function gets its receiver if that is a call, and nil otherwise. -/
theorem answers_of_function {id : FunctionId} (code : activation.code = .function id)
    (reached : activation.enter.Reaches entry [] (.ask (.eval node scope) next) state) :
    currentCall state.store scope = activation.receiver.asCall := by
  rw [enter_of_function code] at reached
  obtain ⟨opened, between, opens, -, rfl, grown⟩ := reached.body
  exact (openFunction_openedWith opens).2.currentCall grown

/-- A built-in has no nodes evaluated. -/
theorem not_reaches_of_primitive {builtIn : Primitive}
    (code : activation.code = .primitive builtIn) :
    ¬ activation.enter.Reaches entry [] (.ask (.eval .thisCall scope) next) state := by
  intro reached
  have script : activation.enter = activation.enterPrimitive builtIn := by rw [enter, code]
  have fits : activation.enter.Fits (.own .nil activation.caller) := by
    rw [script]
    exact activation.enterPrimitive_fits builtIn
      ⟨fun _ => trivial, List.forall_mem_nil _, fun _ => ⟨trivial, fun _ => trivial⟩⟩
      fun _ _ => trivial
  obtain ⟨⟨own, -⟩, -⟩ := reached.fits_own rfl fits
  exact Node.not_quiet_thisCall (own.quiet rfl)

end Activation

/-! ### Flags -/

/-- All cells may be held, and what is evaluated has the flags that its bodies ask for. -/
def callDiscipline : Policy :=
  { Policy.everything with
    node := Node.Flagged
    closure := Code.Exact
    empty := .of_parts nofun nofun nofun nofun
    part := fun flagged mem inner code within => flagged inner code (.part mem within)
    body := fun flagged loop inner code within => flagged inner code (.body loop within)
    literal := fun flagged written =>
      ⟨fun inner other within => flagged inner other (.literal written within), .inl trivial⟩
    closes := fun flagged written => flagged _ _ .here written }

namespace callDiscipline

theorem lenient : callDiscipline.Lenient := ⟨fun _ => trivial, fun _ => trivial⟩

theorem runs_default : callDiscipline.Runs default := ⟨callDiscipline.empty, .inl trivial⟩

theorem closed_new (label : String) : callDiscipline.Closed (World.store label) :=
  lenient.closed_of_code (fun _ => runs_default) (fun _ => ⟨runs_default, rfl⟩)
    fun _ => ⟨runs_default, rfl⟩

end callDiscipline

/-- What an activation that was entered in the first store answers in the second when its body asks
    for the call: the call that was made for it on entry, or for a function the receiver if that is
    a call. -/
def Activation.Answers (activation : Activation) (entry state : Store) (value : Value) : Prop :=
  match activation.code with
  | .primitive _ => False
  | .function _ => value = activation.receiver.asCall
  | .block _ | .method _ =>
    value = .call ⟨entry.calls.size⟩ ∧ state.Records activation ⟨entry.calls.size⟩

/-- Where all flags are exact, a body that asks for the call gets an answer of its activation. -/
theorem Activation.answers {activation : Activation} {entry state : Engine} {scope : LocalsId}
    {next : Except Unwind Value → Script Value} (closed : callDiscipline.Closed entry.store)
    (reached : activation.enter.Reaches entry [] (.ask (.eval .thisCall scope) next) state) :
    activation.Answers entry.store state.store (currentCall state.store scope) := by
  -- A body without the flag would be quiet, and so would not ask.
  have asks : ∀ {opened : Opened}, opened.code.body.Own .thisCall → opened.code.Exact →
      opened.code.usesCallContext = true := by
    intro opened own isExact
    refine Bool.not_eq_false _ |>.mp fun off => ?_
    exact Node.not_quiet_thisCall (own.quiet (isExact.symm.trans off))
  have uses : ∀ {code : Invokable}, activation.code = code →
      entry.store.usesCallContext code = true →
      currentCall state.store scope = .call ⟨entry.store.calls.size⟩
        ∧ state.store.Records activation ⟨entry.store.calls.size⟩ :=
    fun same uses => answers_of_uses (same ▸ uses) reached
  unfold Answers
  cases code : activation.code with
  | primitive builtIn => exact not_reaches_of_primitive code reached
  | function id => exact answers_of_function code reached
  | block id =>
    refine uses code ?_
    rw [enter_of_block code] at reached
    obtain ⟨opened, between, opens, own, -, -⟩ := reached.body
    have same := openBlock_code opens
    exact (congrArg Code.usesCallContext same).symm.trans
      (asks own (same ▸ (closed.block trivial).closure))
  | method id =>
    refine uses code ?_
    rw [enter_of_method code] at reached
    obtain ⟨opened, between, opens, own, -, -⟩ := reached.body
    have same := openMethod_code opens
    exact (congrArg Code.usesCallContext same).symm.trans
      (asks own (same ▸ (closed.method trivial).closure))

/-! ### Asking in a session -/

/-- Outside of activations there is no call. -/
theorem currentCall_of_topScope {store : Store} {label : String}
    (grown : (World.store label).Grows store) :
    currentCall store World.moduleLocals = .nil := by
  have scope := grown.scope World.moduleLocals (Nat.succ_pos 0)
  have context := grown.context World.moduleFrame (Nat.succ_pos 0)
  rw [currentCall_eq, scope]
  exact congrArg Value.asCall context

/-- **The running call.**  Whenever the node that reads the call is evaluated in a session of
    programs that carry exact flags, it answers at once.  Outside of activations the answer is nil.
    Inside, it is the answer of the innermost activation: a block or method gets the call that was
    made when this very activation was entered, with its own message, and a function gets its
    receiver if that is a call, and nil otherwise. -/
theorem thisCall_is_the_running_call {config : Config} {programs : List Node} {engine : Engine}
    (session : Engine.Session config programs engine)
    (earlier : ∀ program ∈ programs, program.Flagged) {program : Node} (flagged : program.Flagged)
    {inside : List Activation} {scope : LocalsId} {next : Except Unwind Value → Script Value}
    {state : Engine}
    (reached : (Script.evaluate (engine.jobOf program)).Reaches (engine.load program).2 inside
      (.ask (.eval .thisCall scope) next) state) :
    ∃ value, Finishes (.eval .thisCall scope) state (.ok value) state
      ∧ (inside = [] → value = .nil)
      ∧ ∀ activation outer, inside = activation :: outer → ∃ entry rest,
          (Script.evaluate (engine.jobOf program)).Reaches (engine.load program).2 outer
            (.ask (.enter activation) rest) entry
          ∧ activation.Answers entry.store state.store value := by
  refine ⟨currentCall state.store scope, ⟨1, rfl⟩, ?outside, ?inside⟩
  case outside =>
    rintro rfl
    have any : (Script.evaluate (engine.jobOf program)).Fits Shape.any :=
      .evaluate ⟨trivial, fun _ => trivial⟩
    have own : (Script.evaluate (engine.jobOf program)).Fits
        (.own (engine.load program).1 World.moduleLocals) :=
      .evaluate ⟨⟨.root, rfl⟩, fun _ => trivial⟩
    have kept := Store.kept_grows (World.store config.label)
    have grown : (World.store config.label).Grows engine.store := kept.session session (.refl _)
    obtain ⟨⟨-, rfl⟩, -⟩ := reached.fits_own rfl own
    exact currentCall_of_topScope (kept.reaches reached any grown)
  case inside =>
    rintro activation outer rfl
    obtain ⟨rest, entry, entered, inner⟩ := reached.entered
    have closed := Policy.closed_of_session session (callDiscipline.closed_new _)
      fun program mem engine => flagged_load engine (earlier program mem)
    -- Where the activation is entered, all code in the store has exact flags.
    obtain ⟨post, keeps⟩ := Policy.keeps_of_reaches closed (flagged_load engine flagged) entered
    exact ⟨entry, rest, entered, Activation.answers keeps.1.closed inner⟩

/-- A method that answers its call. -/
def askingMethod : Node := .define none "m" (.methodOf [] .thisCall)

/-- The method is used. -/
def askingSend : Node := .send none "m" [] none

/-- A new engine on which the method was defined. -/
def askingEngine : Engine :=
  { Engine.new {} with
    store := ((Engine.new {}).store.addMethod ⟨⟨[], .thisCall, true⟩, none⟩).2.putSlot lobbyObject
      (.numbered "m" World.nextIdentity) (.method ⟨0⟩)
    nextIdentity := World.nextIdentity + 1 }

/-- The activation that this comes to. -/
def askingActivation : Activation where
  caller := World.moduleLocals
  code := .method ⟨0⟩
  receiver := .object lobbyObject
  slotContext := .object lobbyObject
  message := ⟨.numbered "m" (World.nextIdentity + 1), 0, none⟩
  arguments := []

theorem flagged_askingMethod : askingMethod.Flagged := by
  have asks : Node.thisCall.Flagged := .of_parts nofun nofun nofun nofun
  have method : (Node.methodOf [] .thisCall).Flagged :=
    .of_parts nofun nofun (fun _ same => Option.some.inj same ▸ asks)
      fun _ same => Option.some.inj same ▸ rfl
  exact .of_parts (List.forall_mem_singleton.mpr method) nofun nofun nofun

theorem flagged_askingSend : askingSend.Flagged := .of_parts nofun nofun nofun nofun

/-- The method answers the call that was made for its activation. -/
theorem running_call_of_a_method :
    ∃ next state, (Script.evaluate (askingEngine.jobOf askingSend)).Reaches
        (askingEngine.load askingSend).2 [askingActivation] (.ask (.eval .thisCall ⟨2⟩) next) state
      ∧ Finishes (.eval .thisCall ⟨2⟩) state (.ok (.call ⟨0⟩)) state
      ∧ (state.store.call ⟨0⟩).activated = .method ⟨0⟩ := by
  have ended : (Engine.new {}).run 3 askingMethod = some (.ok (.method ⟨0⟩), askingEngine) := rfl
  have session : Engine.Session {} [askingMethod] askingEngine := .run .fresh ended
  have found : askingEngine.store.lookupOn (.object lobbyObject) "m"
      = some ⟨lobbyObject, .method ⟨0⟩⟩ := Store.lookup_eq_of_code rfl (by decide +kernel)
  -- The moment lies in the body, which is entered in the activation that the send comes to.
  generalize start : (askingEngine.load askingSend).2 = before
  have looked : (Action.findOn (.object lobbyObject) "m").on before
      = (.ok (some ⟨lobbyObject, .method ⟨0⟩⟩), before) := by
    subst start
    exact congrArg (fun found => (Except.ok found, _)) found
  obtain ⟨next, state, body, ends⟩ : ∃ next state, (doJob 0 (.enter askingActivation)).Reaches
        before.deeper [] (.ask (.eval .thisCall ⟨2⟩) next) state
      ∧ Finishes (.eval .thisCall ⟨2⟩) state (.ok (.call ⟨0⟩)) state := by
    subst start
    exact ⟨_, _, .afterAct rfl .here, 1, rfl⟩
  have run : (doJob 0 (.activate askingActivation)).Reaches before [askingActivation]
      (.ask (.eval .thisCall ⟨2⟩) next) state := by
    subst start
    exact .afterAct rfl (.afterAct rfl (.within body))
  have sent : (doJob 1 (askingEngine.jobOf askingSend)).Reaches before [askingActivation]
      (.ask (.eval .thisCall ⟨2⟩) next) state := by
    subst start
    exact .afterAct rfl (.afterAct rfl (.afterAct looked (.afterAct rfl (.within run))))
  subst start
  obtain ⟨value, answered, -, inner⟩ := thisCall_is_the_running_call session
    (List.forall_mem_singleton.mpr flagged_askingMethod) flagged_askingSend (.within sent)
  obtain ⟨entry, -, -, same, records⟩ := inner askingActivation [] rfl
  have first : (⟨0⟩ : CallId) = ⟨entry.store.calls.size⟩ :=
    Value.call.inj ((Except.ok.inj (ends.unique answered).1).trans same)
  exact ⟨next, state, .within sent, ends, first ▸ records.activated⟩

end SlotTalk
