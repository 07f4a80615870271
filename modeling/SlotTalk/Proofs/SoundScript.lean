import SlotTalk.Proofs.ConfinedScript
import SlotTalk.Proofs.SoundStep

namespace SlotTalk

/-!
# Evaluations on sound stores

Every evaluation that is about what exists leads from a sound store to a sound store, to its end and
at each moment on the way, and what comes out of it exists.

* `Job.Known` — what a job is about exists.
* `soundness` — the contract: all actions and jobs lead from one sound store to another.
* `Script.Preserves` — scripts that keep to it, with what is known of their values.
* `evalNode_preserves`, `Activation.enter_preserves` — the scripts of nodes and code.
* `soundness_kept` — the scripts of all jobs keep to the contract.
-/

attribute [local irreducible] Value.ofInt

variable {α β : Type} {base : Store} {before : Engine}

/-! ### The contract -/

/-- What the job is about exists. -/
def Job.Known (store : Store) : Job → Prop
  | .eval _ scope => store.known.ref scope
  | .activate activation | .enter activation => activation.Known store

/-- From the base on, every action and every job leads from a sound store to a sound store.  Jobs
    are about what exists, and so is what comes out of them. -/
def soundness (base : Store) : Contract where
  always engine := base.Leads engine.store
  allows action before := before.store.Leads (action.on before).2.store
  requires job before := base.Leads before.store ∧ job.Known before.store
  ensures _ before outcome after :=
    before.store.Leads after.store ∧ after.store.known.Outcome after.store.known.Holds outcome

/-- The script keeps to the contract, and its values have the property in the store it leaves. -/
def Script.Preserves (base : Store) (script : Script α) (before : Engine)
    (values : Store → α → Prop) : Prop :=
  base.Leads before.store → script.Keeps (soundness base) before fun outcome after =>
    before.store.Leads after.store ∧ after.store.known.Outcome (values after.store) outcome

namespace Script.Preserves

variable {values : Store → α → Prop}

/-- A value that exists is an answer, and nothing changes. -/
theorem answer {value : α} (h : values before.store value) :
    (pure value : Script α).Preserves base before values :=
  fun start => ⟨start, .refl start.sound, h⟩

/-- An evaluation may be unwound with what exists. -/
theorem unwind {unwind : Unwind} (h : before.store.known.Unwinds unwind) :
    (Script.unwind unwind : Script α).Preserves base before values :=
  fun start => ⟨start, .refl start.sound, h⟩

/-- One script after another: what exists where the first one ends is there for all of the second.
    -/
theorem bind {x : Script α} {f : α → Script β} {values' : Store → β → Prop}
    (first : x.Preserves base before values)
    (rest : ∀ value after, before.store.Leads after.store → values after.store value →
      (f value).Preserves base after values') : (x >>= f).Preserves base before values' := by
  intro start
  refine (first start).bind (fun value after ended => ?_) fun unwind after ended => ended
  obtain ⟨leads, holds⟩ := ended
  refine (rest value after leads holds (start.trans leads)).mono fun outcome last ended => ?_
  exact ⟨leads.trans ended.1, ended.2⟩

/-- An action that leads from one sound store to another is a script that does. -/
theorem ofAction {action : Action α} (h : action.Preserves before values) :
    (ofAction action).Preserves base before values := by
  intro start
  obtain ⟨leads, ended⟩ := h
  refine ⟨start, leads, fun answer after acted => ?_, fun error after failed => ?_⟩
  · rw [acted] at leads ended
    exact ⟨start.trans leads, leads, ended⟩
  · rw [failed] at leads ended
    exact ⟨start.trans leads, leads, ended⟩

/-- An error of the evaluator itself carries no value. -/
theorem fail {error : RuntimeError} (plain : error.Plain) :
    (Script.fail error : Script α).Preserves base before values :=
  fun start => ofAction (.fail start.sound (before.store.raises_of_plain plain)) start

/-- A job about what exists is done, and whatever comes out of it exists in what follows. -/
theorem attempt {job : Job} {f : Except Unwind Value → Script α}
    (known : job.Known before.store)
    (rest : ∀ outcome after, before.store.Leads after.store →
      after.store.known.Outcome after.store.known.Holds outcome →
      (f outcome).Preserves base after values) :
    (Script.attempt job >>= f).Preserves base before values := by
  refine fun start => ⟨start, ⟨start, known⟩, fun outcome after ensured => ?_⟩
  obtain ⟨leads, holds⟩ := ensured
  refine (rest outcome after leads holds (start.trans leads)).mono fun _ last ended => ?_
  exact ⟨leads.trans ended.1, ended.2⟩

/-- The value of a job about what exists exists. -/
theorem evaluate {job : Job} (known : job.Known before.store) :
    (evaluate job).Preserves base before fun store => store.known.Holds :=
  fun start => ⟨start, ⟨start, known⟩, fun _ _ ensured => ⟨start.trans ensured.1, ensured⟩⟩

/-- What is known of the state of a loop must go on being true as the store evolves. -/
theorem loop {σ : Type} {pass : σ → Script (Pass σ)} (states : Store → σ → Prop)
    (h : ∀ state engine, before.store.Leads engine.store → states engine.store state →
      (pass state).Preserves base engine fun store => Pass.Held store.known (states store))
    (passes : Nat) {state : σ} (start : states before.store state) :
    (Script.loop pass passes state).Preserves base before fun store => store.known.Holds := by
  -- Runs begin in states that have evolved from the first one, so all of them are considered.
  suffices later : ∀ (engine : Engine) (state : σ), before.store.Leads engine.store →
      states engine.store state → (Script.loop pass passes state).Preserves base engine
        fun store => store.known.Holds from
    fun begun => later before state (.refl begun.sound) start begun
  intro engine state leads holds
  induction passes generalizing engine state with
  | zero => exact fun begun => begun
  | succ passes ih =>
    refine bind (h state engine leads holds) fun result after leads' held => ?_
    cases result with
    | proceed state => exact ih after state (leads.trans leads') held
    | exit value => exact answer held

end Script.Preserves

open Script (Preserves)
open SlotTalk.Action (Looks)

/-! ### Sends -/

section Nodes

variable {scope : LocalsId} (ref : before.store.known.ref scope)
include ref

section Sends

variable (sound : before.store.Sound) {nodes : List Node}
include sound

omit sound in
/-- All values of a list of nodes exist where the last of them has been evaluated. -/
theorem evalArguments_preserves :
    (evalArguments scope nodes).Preserves base before fun store values =>
      ∀ value ∈ values, store.known.Holds value := by
  induction nodes generalizing before with
  | nil => exact .answer nofun
  | cons node rest ih =>
    refine .bind (.evaluate ref) fun value after leads held => ?_
    refine .bind (ih (leads.evolves.ref ref)) fun values last leads' others => ?_
    -- The first value was there before the others were evaluated, so it is there afterwards.
    exact .answer (List.forall_mem_cons.mpr ⟨leads'.evolves.holds held, others⟩)

/-- What a slot holds is answered as it is, or run as code.  The slot was found in a place, an
    object or a frame, which becomes the context of the code. -/
theorem activate_preserves {receiver found slotContext : Value} {message : Message}
    (on : before.store.known.Holds receiver) (held : before.store.known.Holds found)
    (context : before.store.known.Holds slotContext) (place : slotContext.IsPlace) :
    (activate scope receiver found slotContext message nodes).Preserves base before
      fun store => store.known.Holds := by
  unfold activate
  split
  next => exact .answer held
  next code same =>
    have runs : before.store.known.Holds code.toValue := Value.toValue_of_invokable? same ▸ held
    refine .bind (.ofAction (checkArgumentCount_preserves sound code _ _))
      fun _ between leads _ => ?_
    refine .bind (evalArguments_preserves (leads.evolves.ref ref)) fun values after leads' all => ?_
    have evolves := leads.evolves.trans leads'.evolves
    exact .evaluate ⟨⟨evolves.ref ref, evolves.holds runs, evolves.holds on,
      evolves.holds context, all, trivial⟩, place⟩

/-- A message to a value that exists.  The slot was found on an object. -/
theorem send_preserves {receiver : Value} {message : Message}
    (on : before.store.known.Holds receiver) :
    (send scope receiver message nodes).Preserves base before fun store => store.known.Holds := by
  refine .bind (.ofAction (.findOn sound on _)) fun result after leads finds => ?_
  cases result with
  | none => exact .fail nofun
  | some found =>
    obtain ⟨holder, held⟩ := finds found rfl
    exact activate_preserves (leads.evolves.ref ref) leads.sound (leads.evolves.holds on) held
      holder trivial

/-- A message without a receiver.  A variable of the scope comes first, and its context is the
    scope; if there is none, the message goes to what the scope is about. -/
theorem sendImplicit_preserves {message : Message} :
    (sendImplicit scope message nodes).Preserves base before fun store => store.known.Holds := by
  refine .bind (.ofAction (.selfOf sound ref)) fun self between leads on => ?_
  have ref' := leads.evolves.ref ref
  refine .bind (.ofAction (.findVariable leads.sound ref' _)) fun result after leads' finds => ?_
  have ref'' := leads'.evolves.ref ref'
  cases result with
  | none => exact send_preserves ref'' leads'.sound (leads'.evolves.holds on)
  | some value =>
    exact activate_preserves ref'' leads'.sound (leads'.evolves.holds on) (finds value rfl) ref''
      trivial

omit sound in
/-- The value of a sequence exists: it is that of the last node, or the one that was there before.
    -/
theorem evalSequence_preserves {last : Value} (held : before.store.known.Holds last) :
    (evalSequence scope nodes last).Preserves base before fun store => store.known.Holds := by
  induction nodes generalizing before last with
  | nil => exact .answer held
  | cons node rest ih =>
    exact .bind (.evaluate ref) fun value after leads held => ih (leads.evolves.ref ref) held

omit sound in
/-- If there is a node, its value exists. -/
theorem evalOption_preserves (node : Option Node) :
    (evalOption scope node).Preserves base before fun store => store.known.HoldsOption := by
  cases node with
  | none => exact .answer nofun
  | some node =>
    refine .bind (.evaluate ref) fun value after leads held => .answer fun other same => ?_
    exact Option.some.inj same ▸ held

end Sends

/-! ### Loops -/

section Loops

variable {body : Node}

/-- One run of a body.  A loop goes on with a value that exists, or ends with one. -/
theorem loopPass_preserves {last : Value} (held : before.store.known.Holds last) :
    (loopPass body scope last).Preserves base before fun store =>
      Pass.Held store.known store.known.Holds := by
  refine .attempt ref fun outcome after leads holds => ?_
  match outcome with
  | .ok value => exact .answer holds
  -- A loop that is continued or broken without a value keeps its result so far.
  | .error .continued => exact .answer (leads.evolves.holds held)
  | .error (.broke value) =>
    exact .answer (Policy.HoldsOption.getD holds (leads.evolves.holds held))
  | .error (.failed report) => exact .unwind holds
  | .error (.returned value) => exact .unwind holds

/-- The result of a loop exists at each of its passes, however many there are. -/
theorem whileLoop_preserves (condition : Node) (passes : Nat) :
    (whileLoop condition body scope passes).Preserves base before fun store =>
      store.known.Holds := by
  refine .loop (fun store => store.known.Holds) (fun last engine leads held => ?_) passes trivial
  have ref' := leads.evolves.ref ref
  refine .bind (.evaluate ref') fun value after leads' _ => ?_
  split
  · exact loopPass_preserves (leads'.evolves.ref ref') (leads'.evolves.holds held)
  · exact .answer (leads'.evolves.holds held)

/-- One pass of a counting loop, which reads the counter, runs the body and advances the counter. -/
theorem countingPass_preserves (sound : before.store.Sound) (counting : Counting) {last : Value}
    (held : before.store.known.Holds last) :
    (countingPass counting body scope last).Preserves base before fun store =>
      Pass.Held store.known store.known.Holds := by
  refine .bind (.ofAction (counting.inRange_preserves sound ref)) fun inside between leads _ => ?_
  have ref' := leads.evolves.ref ref
  split
  · refine .bind (loopPass_preserves ref' (leads.evolves.holds held))
      fun result after leads' next => ?_
    have ref'' := leads'.evolves.ref ref'
    cases result with
    | proceed last =>
      exact .bind (.ofAction (counting.advance_preserves leads'.sound ref''))
        fun _ _ leads _ => .answer (leads.evolves.holds next)
    | exit value => exact .answer next
  · exact .answer (leads.evolves.holds held)

/-- A counting loop checks its numbers and defines its counter before its first pass. -/
theorem forLoop_preserves (sound : before.store.Sound) (counter : Text) {start : Value}
    (stop step : Value) (held : before.store.known.Holds start) (passes : Nat) :
    (forLoop counter start stop step body scope passes).Preserves base before fun store =>
      store.known.Holds := by
  refine .bind (.ofAction (expectNumbers_preserves sound _)) fun _ first leads _ => ?_
  refine .bind (.ofAction (.ofExcept leads.sound (Number.compare_calculates _ _)))
    fun _ second leads' _ => ?_
  refine .bind (.ofAction (.ofExcept leads'.sound (Number.compare_calculates _ _)))
    fun _ third leads'' _ => ?_
  have evolves := leads.evolves.trans (leads'.evolves.trans leads''.evolves)
  refine .bind (.ofAction (.defineVariable leads''.sound (evolves.ref ref) counter
    (evolves.holds held))) fun _ last leads _ => ?_
  split
  · refine .loop (fun store => store.known.Holds) (fun last engine leads' held => ?_) passes trivial
    exact countingPass_preserves (leads'.evolves.ref (leads.evolves.ref (evolves.ref ref)))
      leads'.sound _ held
  · exact .answer trivial

/-- One pass of a loop over elements.  Both the result so far and what is left to visit go on
    existing while the element is bound and the body runs. -/
theorem forEachPass_preserves (sound : before.store.Sound) (index : Option Text) (element : Text)
    {visit : Visit} (held : visit.Held before.store.known) :
    (forEachPass index element body scope visit).Preserves base before fun store =>
      Pass.Held store.known (Visit.Held store.known) := by
  obtain ⟨remaining, last⟩ := held
  refine .bind (.ofAction (Elements.next_preserves sound remaining)) fun result s₁ leads₁ next => ?_
  match result with
  | none => exact .answer (leads₁.evolves.holds last)
  | some (value, rest) =>
    obtain ⟨holds, remaining⟩ := next value rest rfl
    have ref₁ := leads₁.evolves.ref ref
    refine .bind (.ofAction (bindElement_preserves leads₁.sound ref₁ index element _ holds))
      fun _ s₂ leads₂ _ => ?_
    have ref₂ := leads₂.evolves.ref ref₁
    have last₂ := (leads₁.evolves.trans leads₂.evolves).holds last
    refine .bind (loopPass_preserves ref₂ last₂) fun result s₃ leads₃ onward => ?_
    have remaining₃ := (leads₂.evolves.trans leads₃.evolves).elements remaining
    cases result with
    | proceed last => exact .answer ⟨remaining₃, onward⟩
    | exit value => exact .answer onward

/-- The state of a loop over elements is what is left to visit together with the result so far. -/
theorem forEach_preserves (index : Option Text) (element : Text) {elements : Elements}
    (held : elements.Held before.store.known) (passes : Nat) :
    (forEach index element body scope elements passes).Preserves base before fun store =>
      store.known.Holds := by
  refine .loop (fun store => Visit.Held store.known) (fun visit engine leads held => ?_) passes
    ⟨held, trivial⟩
  exact forEachPass_preserves (leads.evolves.ref ref) leads.sound index element held

end Loops

/-! ### Nodes and code -/

/-- **Nodes.** The script of a node keeps the store sound, in any scope that exists. -/
theorem evalNode_preserves (sound : before.store.Sound) (passes : Nat) (node : Node) :
    (evalNode passes scope node).Preserves base before fun store => store.known.Holds := by
  -- One case for each kind of node, in the order of its script.
  cases node with
  | nil | bool | integer | float | string => exact .answer trivial
  | self => exact .ofAction (.selfOf sound ref)
  | thisCall => exact .ofAction (.readCall sound ref)
  | thisLocals => exact .answer ref
  | send receiver name arguments location =>
    cases receiver with
    | some receiver =>
      exact .bind (.evaluate ref) fun target after leads on =>
        send_preserves (leads.evolves.ref ref) leads.sound on
    | none => exact sendImplicit_preserves ref sound
  -- The value is assigned after the target and itself were evaluated, and both still exist then.
  | define target name value =>
    refine .bind (evalOption_preserves ref target) fun target between leads on => ?_
    have ref' := leads.evolves.ref ref
    cases target with
    | some target =>
      refine .bind (.evaluate ref') fun value after leads' held => ?_
      exact .bind (.ofAction (.defineOn leads'.sound (leads'.evolves.holds (on target rfl)) name
        held)) fun _ _ leads _ => .answer (leads.evolves.holds held)
    | none =>
      refine .bind (.evaluate ref') fun value after leads' held => ?_
      exact .bind (.ofAction (.defineVariable leads'.sound (leads'.evolves.ref ref') name held))
        fun _ _ leads _ => .answer (leads.evolves.holds held)
  | update target name value =>
    refine .bind (evalOption_preserves ref target) fun target between leads on => ?_
    have ref' := leads.evolves.ref ref
    cases target with
    | some target =>
      refine .bind (.evaluate ref') fun value after leads' held => ?_
      exact .bind (.ofAction (.updateOn leads'.sound target name held))
        fun _ _ leads _ => .answer (leads.evolves.holds held)
    | none =>
      refine .bind (.evaluate ref') fun value after leads' held => ?_
      exact .bind (.ofAction (.updateVariable leads'.sound scope name held))
        fun _ _ leads _ => .answer (leads.evolves.holds held)
  | sequence nodes => exact evalSequence_preserves ref trivial
  | block parameters body uses => exact .ofAction (.newBlock sound ref _)
  | method parameters body uses => exact .ofAction (.newMethod sound ref _)
  | function parameters body uses => exact .ofAction (.newFunction sound _)
  | ifThenElse condition thenBranch elseBranch =>
    refine .bind (.evaluate ref) fun value after leads _ => ?_
    have ref' := leads.evolves.ref ref
    split
    · exact .evaluate ref'
    · cases elseBranch with
      | some branch => exact .evaluate ref'
      | none => exact .answer trivial
  | whileLoop condition run => exact whileLoop_preserves ref condition passes
  | forLoop counter start stop step run =>
    refine .bind (.evaluate ref) fun start s₁ leads₁ held => ?_
    have ref₁ := leads₁.evolves.ref ref
    refine .bind (.evaluate ref₁) fun stop s₂ leads₂ _ => ?_
    have ref₂ := leads₂.evolves.ref ref₁
    refine .bind (evalOption_preserves ref₂ step) fun step s₃ leads₃ _ => ?_
    exact forLoop_preserves (leads₃.evolves.ref ref₂) leads₃.sound counter _ _
      ((leads₂.evolves.trans leads₃.evolves).holds held) passes
  | forEach source index element run =>
    refine .bind (.evaluate ref) fun value s₁ leads₁ held => ?_
    have ref₁ := leads₁.evolves.ref ref
    refine .bind (.ofAction (Elements.ofValue_preserves leads₁.sound held))
      fun elements s₂ leads₂ remaining => ?_
    exact forEach_preserves (leads₂.evolves.ref ref₁) index element remaining passes
  | breakLoop value =>
    exact .bind (evalOption_preserves ref value) fun value _ _ held => .unwind held
  | continueLoop => exact .unwind trivial
  | returnFrom value =>
    exact .bind (evalOption_preserves ref value) fun value _ _ held =>
      .unwind (held.getD trivial)
  | tryCatch tried errorName handler =>
    refine .attempt ref fun outcome after leads holds => ?_
    have ref' := leads.evolves.ref ref
    match outcome with
    | .ok value => exact .answer holds
    | .error (.failed report) =>
      refine .bind (.ofAction (exceptionOf_preserves leads.sound holds))
        fun exception made leads' held => ?_
      have ref'' := leads'.evolves.ref ref'
      refine .bind (.ofAction (.defineVariable leads'.sound ref'' errorName held))
        fun _ last leads'' _ => ?_
      exact .evaluate (leads''.evolves.ref ref'')
    | .error (.broke value) | .error .continued | .error (.returned value) =>
      exact .unwind holds

end Nodes

/-- A body ends in what exists, or in an error that carries what exists. -/
theorem runBody_preserves {opened : Opened} (ref : before.store.known.ref opened.scope) :
    (runBody opened).Preserves base before fun store => store.known.Holds := by
  refine .attempt ref fun outcome after leads holds => ?_
  match outcome with
  | .ok value => exact .answer holds
  | .error (.returned value) => exact .answer holds
  | .error (.failed report) => exact .unwind holds
  | .error (.broke value) => exact .fail nofun
  | .error .continued => exact .fail nofun

namespace Activation

variable (sound : before.store.Sound)
include sound

/-- A send by name runs what it finds on the receiver, with the inputs after the name. -/
theorem performByName_preserves {caller : LocalsId} (ref : before.store.known.ref caller)
    {use : Invocation} (held : use.Held before.store.known) :
    (performByName caller use).Preserves base before fun store => store.known.Holds := by
  refine .bind (.ofAction (.of_looks sound Looks.expectString fun _ => id))
    fun name between leads _ => ?_
  have receiver := leads.evolves.holds held.receiver
  refine .bind (.ofAction (.findOn leads.sound receiver name)) fun result after leads' finds => ?_
  cases result with
  | none => exact .fail nofun
  | some found =>
    obtain ⟨holder, holds⟩ := finds found rfl
    have evolves := leads.evolves.trans leads'.evolves
    -- The first of the inputs is the name; the others are handed on.
    have rest : ∀ value ∈ use.inputs.drop 1, after.store.known.Holds value := fun value mem =>
      evolves.holds (held.inputs value (List.mem_of_mem_drop mem))
    dsimp only
    split
    next => exact .answer holds
    next code same =>
      have runs : after.store.known.Holds code.toValue := Value.toValue_of_invokable? same ▸ holds
      exact .evaluate ⟨⟨evolves.ref ref, runs, evolves.holds held.receiver, holder, rest, trivial⟩,
        trivial⟩

/-- A call of a block or of a function runs the receiver itself, with all inputs. -/
theorem callReceiver_preserves {caller : LocalsId} (ref : before.store.known.ref caller)
    {use : Invocation} (held : use.Held before.store.known) :
    (callReceiver caller use).Preserves base before fun store => store.known.Holds := by
  refine .bind (.ofAction (.of_looks sound Looks.expectInvokable fun _ => id))
    fun code after leads same => ?_
  have receiver := leads.evolves.holds held.receiver
  have runs : after.store.known.Holds code.toValue := same ▸ receiver
  exact .evaluate ⟨⟨leads.evolves.ref ref, runs, receiver, Policy.ref_delegate receiver,
    leads.evolves.holdsList held.inputs, trivial⟩, trivial⟩

/-- **Code.** The script of code that exists, with arguments that exist, keeps the store sound. -/
theorem enter_preserves {activation : Activation} (known : activation.Known before.store) :
    activation.enter.Preserves base before fun store => store.known.Holds := by
  have use := fun builtIn => invocation_held known.held builtIn
  unfold enter
  split
  next builtIn same =>
    cases builtIn with
    | plain primitive => exact .ofAction (primitive.run_preserves sound (use _))
    | perform => exact performByName_preserves sound known.held.caller (use _)
    | callBlock | callFunction => exact callReceiver_preserves sound known.held.caller (use _)
  next id same =>
    exact .bind (.ofAction (openFunction_preserves sound known id)) fun _ _ _ ref =>
      runBody_preserves ref
  next id same =>
    exact .bind (.ofAction (openBlock_preserves sound known same)) fun _ _ _ ref =>
      runBody_preserves ref
  next id same =>
    exact .bind (.ofAction (openMethod_preserves sound known same)) fun _ _ _ ref =>
      runBody_preserves ref

end Activation

/-! ### Jobs -/

/-- **Soundness.** The scripts of all jobs keep to the contract. -/
theorem soundness_kept (base : Store) : (soundness base).Valid := by
  intro passes job before required
  obtain ⟨start, known⟩ := required
  cases job with
  | eval node scope => exact evalNode_preserves known start.sound passes node start
  | enter activation => exact Activation.enter_preserves start.sound known start
  | activate activation =>
    have checks := checkArgumentCount_preserves start.sound activation.code
      activation.message.name.content activation.arguments.length
    refine activation.run_keeps start checks.1 ?descends ?refused fun room =>
      ⟨start, ⟨start, known⟩, fun outcome after ensured => ?left⟩
    case descends =>
      show before.store.Leads (Activation.descend.on before).2.store
      rw [Activation.descend_on]
      split <;> exact .refl start.sound
    case refused =>
      intro error refuses
      refine ⟨.refl start.sound, ?_⟩
      cases refuses <;> trivial
    case left =>
      obtain ⟨leads, holds⟩ := ensured
      exact ⟨start.trans leads, .refl leads.sound, start.trans leads, leads,
        Activation.outcome_leave holds⟩

end SlotTalk
