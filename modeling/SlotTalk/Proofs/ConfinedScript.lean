import SlotTalk.Proofs.ConfinedStep

namespace SlotTalk

/-!
# Evaluations are confined

The scripts of nodes and code are confined: they take confined actions, and ask for jobs that are
made of what may be held.  So every evaluation keeps the policy.

* `Script.Confined` — the scripts, with what is known of their values.
* `evalNode_confined`, `Activation.enter_confined` — the scripts of nodes and code.
* `Policy.contract`, `confinement_kept` — the contract, which the scripts of all jobs keep to.
-/

attribute [local irreducible] Value.ofInt

variable {policy : Policy} {α β : Type}

/-! ### Confined scripts -/

/-- What the job is about may be held and evaluated. -/
def Job.Held (policy : Policy) : Job → Prop
  | .eval node scope => policy.node node ∧ policy.ref scope
  | .activate activation | .enter activation => activation.Held policy

/-- The signals that a job may end with. -/
def Job.Gives (outcome : Except Unwind Value) : Job → Prop
  | .eval node _ => ∀ signal, signalOf outcome = some signal → node.Free signal
  | .activate _ | .enter _ => signalOf outcome = none

/-- The script keeps the policy, and its values have the property. -/
def Script.Confined (policy : Policy) : Script α → (α → Prop) → Prop
  | done outcome, values => policy.Outcome values outcome
  | outOfFuel, _ => True
  | act action next, values =>
    ∃ answers, action.Confined policy answers
      ∧ ∀ answer, answers answer → (next answer).Confined policy values
  | ask job next, values =>
    job.Held policy ∧ ∀ outcome, policy.Outcome policy.Holds outcome → job.Gives outcome →
      (next outcome).Confined policy values

/-- What is known of a state holds where a loop goes on, and its value may be held where it ends. -/
def Pass.Held {σ : Type} (policy : Policy) (states : σ → Prop) : Pass σ → Prop
  | .proceed state => states state
  | .exit value => policy.Holds value

/-- What is left to visit and the result so far may be held. -/
def Visit.Held (policy : Policy) (visit : Visit) : Prop :=
  visit.elements.Held policy ∧ policy.Holds visit.last

namespace Script.Confined

variable {values : α → Prop}

/-- One script after another is confined if the second is so for every value that the first may
    have. -/
theorem bind {x : Script α} {f : α → Script β} {values' : β → Prop}
    (first : x.Confined policy values)
    (rest : ∀ value, values value → (f value).Confined policy values') :
    (x >>= f).Confined policy values' := by
  show (x.bind f).Confined policy values'
  induction x with
  | done outcome =>
    cases outcome with
    | ok value => exact rest value first
    | error unwind => exact first
  | outOfFuel => trivial
  | act action next ih =>
    obtain ⟨answers, confined, onward⟩ := first
    exact ⟨answers, confined, fun answer holds => ih answer (onward answer holds)⟩
  | ask job next ih =>
    obtain ⟨held, onward⟩ := first
    exact ⟨held, fun outcome holds given => ih outcome (onward outcome holds given)⟩

/-- A confined action is a confined script. -/
theorem ofAction {action : Action α} (h : action.Confined policy values) :
    (ofAction action).Confined policy values :=
  ⟨values, h, fun _ holds => holds⟩

/-- An error may be raised if the policy allows it. -/
theorem fail {error : RuntimeError} (raises : policy.Raises error) :
    (Script.fail error : Script α).Confined policy values := ofAction (.fail raises)

/-- The value of a job that is made of what may be held may be held. -/
theorem evaluate {job : Job} (held : job.Held policy) :
    (evaluate job).Confined policy policy.Holds :=
  ⟨held, fun _ holds _ => holds⟩

/-- A job that is done, and something done with its outcome. -/
theorem attempt {job : Job} {f : Except Unwind Value → Script α} (held : job.Held policy)
    (rest : ∀ outcome, policy.Outcome policy.Holds outcome → job.Gives outcome →
      (f outcome).Confined policy values) :
    (Script.attempt job >>= f).Confined policy values :=
  ⟨held, rest⟩

/-- What is known of the state of a loop where it starts, and where a pass goes on, is known at all
    passes. -/
theorem loop {σ : Type} {pass : σ → Script (Pass σ)} {states : σ → Prop}
    (h : ∀ state, states state → (pass state).Confined policy (Pass.Held policy states))
    (passes : Nat) {state : σ} (start : states state) :
    (loop pass passes state).Confined policy policy.Holds := by
  induction passes generalizing state with
  | zero => trivial
  | succ passes ih =>
    refine bind (h state start) fun result held => ?_
    cases result with
    | proceed state => exact ih held
    | exit value => exact held

end Script.Confined

open Script

/-! ### Sends -/

section Nodes

variable {scope : LocalsId} (ref : policy.ref scope)
include ref

section Sends

variable {nodes : List Node} (written : ∀ node ∈ nodes, policy.node node)
include written

/-- There is one value for each of the nodes. -/
theorem evalArguments_confined : (evalArguments scope nodes).Confined policy
    fun values => (∀ value ∈ values, policy.Holds value) ∧ values.length = nodes.length := by
  induction nodes with
  | nil => exact ⟨nofun, rfl⟩
  | cons node rest ih =>
    obtain ⟨first, others⟩ := List.forall_mem_cons.mp written
    refine .bind (.evaluate ⟨first, ref⟩) fun value held => .bind (ih others) fun values all => ?_
    exact ⟨List.forall_mem_cons.mpr ⟨held, all.1⟩, congrArg (· + 1) all.2⟩

section Messages

variable {message : Message}
  (sent : ∀ values : List Value, values.length = nodes.length → policy.sends message values)
include sent

/-- What a slot holds is answered as it is, or run as code on a receiver and in a context that may
    be held. -/
theorem activate_confined {receiver found slotContext : Value}
    (on : policy.Holds receiver) (held : policy.Holds found)
    (context : policy.Holds slotContext) :
    (activate scope receiver found slotContext message nodes).Confined policy policy.Holds := by
  unfold activate
  split
  next => exact held
  next code same =>
    have runs : policy.Holds code.toValue := Value.toValue_of_invokable? same ▸ held
    refine .bind (.ofAction (checkArgumentCount_confined code _ _)) fun _ _ => ?_
    refine .bind (evalArguments_confined ref written) fun values all => ?_
    exact .evaluate ⟨ref, runs, on, context, all.1, sent values all.2⟩

/-- A message to a value that may be held: the holder of the slot may be held like the value in it.
    -/
theorem send_confined {receiver : Value} (on : policy.Holds receiver) :
    (send scope receiver message nodes).Confined policy policy.Holds := by
  refine .bind (.ofAction (.findOn on _)) fun result finds => ?_
  cases result with
  | none => exact .fail trivial
  | some found =>
    obtain ⟨holder, held⟩ := finds found rfl
    have context : policy.Holds (.object found.holder) := holder
    exact activate_confined ref written sent on held context

/-- A message without a receiver goes to a variable, or to what the scope is about. -/
theorem sendImplicit_confined :
    (sendImplicit scope message nodes).Confined policy policy.Holds := by
  refine .bind (.ofAction (.selfOf ref)) fun self on => ?_
  refine .bind (.ofAction (.findVariable ref _)) fun result finds => ?_
  cases result with
  | none => exact send_confined ref written sent on
  | some value =>
    have context : policy.Holds (.locals scope) := ref
    exact activate_confined ref written sent on (finds value rfl) context

end Messages

/-- The value of a sequence is that of its last node, or the one that was there before. -/
theorem evalSequence_confined {last : Value} (held : policy.Holds last) :
    (evalSequence scope nodes last).Confined policy policy.Holds := by
  induction nodes generalizing last with
  | nil => exact held
  | cons node rest ih =>
    obtain ⟨first, others⟩ := List.forall_mem_cons.mp written
    exact .bind (.evaluate ⟨first, ref⟩) fun value held => ih others held

end Sends

/-- If there is a node, its value may be held. -/
theorem evalOption_confined {node : Option Node}
    (written : ∀ child ∈ node.toList, policy.node child) :
    (evalOption scope node).Confined policy policy.HoldsOption := by
  cases node with
  | none => exact nofun
  | some node =>
    refine .bind (.evaluate ⟨written node (by simp), ref⟩) fun value held => ?_
    exact fun other same => Option.some.inj same ▸ held

/-! ### Loops -/

section Loops

variable {body : Node} (written : policy.node body)
include written

/-- One run of a body.  Errors and returns are passed on; all else is taken by the loop. -/
theorem loopPass_confined {last : Value} (held : policy.Holds last) :
    (loopPass body scope last).Confined policy (Pass.Held policy policy.Holds) := by
  refine .attempt ⟨written, ref⟩ fun outcome holds _ => ?_
  match outcome with
  | .ok value => exact holds
  -- A loop that is continued or broken without a value keeps its result so far.
  | .error .continued => exact held
  | .error (.broke value) => exact Policy.HoldsOption.getD holds held
  | .error (.failed report) => exact holds
  | .error (.returned value) => exact holds

/-- The result of a loop may be held at each of its passes, however many there are. -/
theorem whileLoop_confined {condition : Node} (tested : policy.node condition) (passes : Nat) :
    (whileLoop condition body scope passes).Confined policy policy.Holds := by
  refine .loop (fun last held => ?_) passes (show policy.Holds .nil from trivial)
  refine .bind (.evaluate ⟨tested, ref⟩) fun value _ => ?_
  split
  · exact loopPass_confined ref written held
  · exact held

/-- One pass of a counting loop: the counter is a variable of the scope, which is read and written.
    -/
theorem countingPass_confined (counting : Counting) {last : Value} (held : policy.Holds last) :
    (countingPass counting body scope last).Confined policy (Pass.Held policy policy.Holds) := by
  refine .bind (.ofAction (counting.inRange_confined ref)) fun inside _ => ?_
  split
  · refine .bind (loopPass_confined ref written held) fun result next => ?_
    cases result with
    | proceed last => exact .bind (.ofAction (counting.advance_confined ref)) fun _ _ => next
    | exit value => exact next
  · exact held

/-- A counting loop defines its counter in the scope before its first pass. -/
theorem forLoop_confined (counter : Text) {start stop step : Value} (held : policy.Holds start)
    (passes : Nat) :
    (forLoop counter start stop step body scope passes).Confined policy policy.Holds := by
  refine .bind (.ofAction (expectNumbers_confined _)) fun _ _ => ?_
  refine .bind (.ofAction (.ofExcept (Number.compare_calculates _ _))) fun _ _ => ?_
  refine .bind (.ofAction (.ofExcept (Number.compare_calculates _ _))) fun _ _ => ?_
  refine .bind (.ofAction (.defineVariable ref counter held)) fun _ _ => ?_
  split
  · exact .loop (fun last => countingPass_confined ref written _) passes
      (show policy.Holds .nil from trivial)
  · trivial

/-- One pass of a loop over elements: an element of what may be held may be held. -/
theorem forEachPass_confined (index : Option Text) (element : Text) {visit : Visit}
    (held : visit.Held policy) :
    (forEachPass index element body scope visit).Confined policy
      (Pass.Held policy (Visit.Held policy)) := by
  obtain ⟨remaining, last⟩ := held
  refine .bind (.ofAction (Elements.next_confined remaining)) fun result next => ?_
  match result with
  | none => exact last
  | some (value, rest) =>
    obtain ⟨holds, remaining⟩ := next value rest rfl
    refine .bind (.ofAction (bindElement_confined ref index element _ holds)) fun _ _ => ?_
    refine .bind (loopPass_confined ref written last) fun result onward => ?_
    cases result with
    | proceed last => exact ⟨remaining, onward⟩
    | exit value => exact onward

/-- The state of a loop over elements is what is left to visit together with the result so far. -/
theorem forEach_confined (index : Option Text) (element : Text) {elements : Elements}
    (held : elements.Held policy) (passes : Nat) :
    (forEach index element body scope elements passes).Confined policy policy.Holds :=
  .loop (fun _ => forEachPass_confined ref written index element) passes
    (show Visit.Held policy { elements := elements } from ⟨held, trivial⟩)

end Loops

/-! ### Nodes and code -/

/-- **Nodes.** The script of a node that may be evaluated, in a scope that may be held, is
    confined. -/
theorem evalNode_confined (passes : Nat) {node : Node} (written : policy.node node) :
    (evalNode passes scope node).Confined policy policy.Holds := by
  have part : ∀ {child}, child ∈ node.parts → policy.node child := policy.part written
  have evaluated : ∀ {child}, child ∈ node.parts →
      (Script.evaluate (.eval child scope)).Confined policy policy.Holds :=
    fun mem => .evaluate ⟨part mem, ref⟩
  have body : ∀ {child}, node.loopBody? = some child → policy.node child := policy.body written
  have runs : ∀ {code}, node.literalCode? = some code → policy.Runs code := policy.literal written
  have closes : ∀ {code}, node.closureCode? = some code → policy.closure code :=
    policy.closes written
  -- One case for each kind of node, in the order of its script.
  cases node with
  | nil | bool | integer | float | string => trivial
  | self => exact .ofAction (.selfOf ref)
  | thisCall => exact .ofAction (readCall_confined ref)
  | thisLocals => exact ref
  | send receiver name arguments location =>
    have handed : ∀ node ∈ arguments, policy.node node := fun node mem =>
      part (List.mem_append_right _ mem)
    have sent : ∀ values : List Value, values.length = arguments.length →
        policy.sends ⟨name, arguments.length, location⟩ values := fun _ same =>
      policy.counted same.symm
    cases receiver with
    | some receiver =>
      exact .bind (evaluated List.mem_cons_self) fun target on => send_confined ref handed sent on
    | none => exact sendImplicit_confined ref handed sent
  -- The target comes before the value among the parts of an assignment.
  | define target name value =>
    have assigned := @evaluated value (List.mem_append_right _ List.mem_cons_self)
    refine .bind (evalOption_confined ref fun _ mem => part (List.mem_append_left _ mem))
      fun target on => ?_
    cases target with
    | some target =>
      exact .bind assigned fun value held =>
        .bind (.ofAction (defineOn_confined (on target rfl) name held)) fun _ _ => held
    | none =>
      exact .bind assigned fun value held =>
        .bind (.ofAction (.defineVariable ref name held)) fun _ _ => held
  | update target name value =>
    have assigned := @evaluated value (List.mem_append_right _ List.mem_cons_self)
    refine .bind (evalOption_confined ref fun _ mem => part (List.mem_append_left _ mem))
      fun target on => ?_
    cases target with
    | some target =>
      exact .bind assigned fun value held =>
        .bind (.ofAction (updateOn_confined (on target rfl) name held)) fun _ _ => held
    | none =>
      exact .bind assigned fun value held =>
        .bind (.ofAction (.updateVariable ref name held)) fun _ _ => held
  | sequence nodes =>
    exact evalSequence_confined ref (fun _ mem => part mem) (show policy.Holds .nil from trivial)
  | block parameters body uses => exact .ofAction (newBlock_confined ref (runs rfl) (closes rfl))
  | method parameters body uses => exact .ofAction (newMethod_confined ref (runs rfl) (closes rfl))
  | function parameters body uses => exact .ofAction (newFunction_confined (runs rfl))
  | ifThenElse condition thenBranch elseBranch =>
    refine .bind (evaluated List.mem_cons_self) fun value _ => ?_
    split
    · exact evaluated (List.mem_cons_of_mem _ List.mem_cons_self)
    · cases elseBranch with
      | some branch => exact evaluated (by simp [Node.parts])
      | none => trivial
  | whileLoop condition run =>
    exact whileLoop_confined ref (body rfl) (part List.mem_cons_self) passes
  | forLoop counter start stop step run =>
    refine .bind (evaluated List.mem_cons_self) fun start held => ?_
    refine .bind (evaluated (List.mem_cons_of_mem _ List.mem_cons_self)) fun stop _ => ?_
    refine .bind (evalOption_confined ref fun _ mem => part (List.mem_append_right _ mem))
      fun step _ => ?_
    exact forLoop_confined ref (body rfl) counter held passes
  | forEach source index element run =>
    refine .bind (evaluated List.mem_cons_self) fun value held => ?_
    refine .bind (.ofAction (Elements.ofValue_confined held)) fun elements remaining => ?_
    exact forEach_confined ref (body rfl) index element remaining passes
  | breakLoop value =>
    exact .bind (evalOption_confined ref fun _ => part) fun value held => held
  | continueLoop => trivial
  | returnFrom value =>
    exact .bind (evalOption_confined ref fun _ => part) fun value held => held.getD trivial
  -- Of all that can come out of what is tried, the handler takes the errors alone.
  | tryCatch tried errorName handler =>
    refine .attempt ⟨part List.mem_cons_self, ref⟩ fun outcome holds _ => ?_
    cases outcome with
    | ok value => exact holds
    | error unwind =>
      cases unwind with
      | failed report =>
        refine .bind (.ofAction (exceptionOf_confined holds)) fun exception held => ?_
        refine .bind (.ofAction (.defineVariable ref errorName held)) fun _ _ => ?_
        exact evaluated (List.mem_cons_of_mem _ List.mem_cons_self)
      | broke value | continued | returned value => exact holds

end Nodes

/-- A signal that comes out of a body is free in it, and then it may come to the end. -/
theorem runBody_confined {opened : Opened} (held : opened.Held policy) :
    (runBody opened).Confined policy policy.Holds := by
  obtain ⟨⟨written, enclosed⟩, ref⟩ := held
  refine .attempt ⟨written, ref⟩ fun outcome holds given => ?_
  match outcome with
  | .ok value => exact holds
  | .error (.returned value) => exact holds
  | .error (.failed report) => exact holds
  | .error (.broke value) =>
    have stray : policy.stray := enclosed.resolve_right fun kept => kept.1 (given .breaks rfl)
    exact .fail stray
  | .error .continued =>
    have stray : policy.stray := enclosed.resolve_right fun kept => kept.2 (given .continues rfl)
    exact .fail stray

namespace Activation

/-- A send by name runs what it finds on the receiver, with the inputs after the name. -/
theorem performByName_confined {caller : LocalsId} (ref : policy.ref caller) {use : Invocation}
    (held : use.Held policy) : (performByName caller use).Confined policy policy.Holds := by
  have rest : ∀ value ∈ use.inputs.drop 1, policy.Holds value := fun value mem =>
    held.inputs value (List.mem_of_mem_drop mem)
  refine .bind (.ofAction (.expectString _)) fun name _ => ?_
  refine .bind (.ofAction (.findOn held.receiver name)) fun result finds => ?_
  cases result with
  | none => exact .fail trivial
  | some found =>
    obtain ⟨holder, holds⟩ := finds found rfl
    dsimp only
    split
    next => exact holds
    next code same =>
      have runs : policy.Holds code.toValue := Value.toValue_of_invokable? same ▸ holds
      exact .evaluate ⟨ref, runs, held.receiver, holder, rest, policy.counted rfl⟩

/-- A call of a block or of a function runs the receiver itself, with the message as it came. -/
theorem callReceiver_confined {caller : LocalsId} (ref : policy.ref caller) {use : Invocation}
    (held : use.Held policy) (sent : policy.sends use.message use.inputs) :
    (callReceiver caller use).Confined policy policy.Holds := by
  refine .bind (.ofAction (.expectInvokable held.receiver)) fun code runs => ?_
  exact .evaluate ⟨ref, runs, held.receiver, Policy.ref_delegate held.receiver, held.inputs, sent⟩

/-- Noting an activation in a report does not change the error. -/
theorem outcome_leave {activation : Activation} {outcome : Except Unwind Value}
    (holds : policy.Outcome policy.Holds outcome) :
    policy.Outcome policy.Holds (activation.leave outcome) := by
  match outcome with
  | .error (.failed report) => exact holds
  | .ok _ | .error (.broke _) | .error .continued | .error (.returned _) => exact holds

/-- **Code.** The script of code that may be held, with arguments that may be held, is confined. -/
theorem enter_confined {activation : Activation} (held : activation.Held policy) :
    activation.enter.Confined policy policy.Holds := by
  have code := held.code
  have use := fun builtIn => invocation_held held builtIn
  -- A call of the receiver hands on just the arguments that it got.
  have sent : policy.sends activation.message (padTo 0 activation.arguments) :=
    (padTo_zero activation.arguments).symm ▸ held.sent
  unfold enter
  split
  next builtIn same =>
    cases builtIn with
    | plain primitive => exact .ofAction (primitive.run_confined (use _))
    | perform => exact performByName_confined held.caller (use _)
    | callBlock | callFunction => exact callReceiver_confined held.caller (use _) sent
  next id same =>
    rw [same] at code
    exact .bind (.ofAction (openFunction_confined held code)) fun _ => runBody_confined
  next id same =>
    rw [same] at code
    exact .bind (.ofAction (openBlock_confined held code)) fun _ => runBody_confined
  next id same =>
    rw [same] at code
    exact .bind (.ofAction (openMethod_confined held code)) fun _ => runBody_confined

end Activation

/-! ### The contract -/

/-- From the base on, the policy is kept; jobs are about what may be held, and so are their
    outcomes. -/
def Policy.contract (policy : Policy) (base : Store) : Contract where
  always engine := policy.Step base engine.store
  allows action engine := ∀ error after, action.on engine = (.error error, after) →
    policy.Raises error
  requires job engine := job.Held policy ∧ policy.Step base engine.store
  ensures job _ outcome after :=
    job.Gives outcome ∧ policy.Outcome policy.Holds outcome ∧ policy.Step base after.store

/-- A confined script keeps to the contract. -/
theorem Script.Confined.keeps {x : Script α} {values : α → Prop} (h : x.Confined policy values)
    {base : Store} {before : Engine} (start : policy.Step base before.store) :
    x.Keeps (policy.contract base) before fun outcome after =>
      policy.Outcome values outcome ∧ policy.Step base after.store := by
  induction x generalizing before with
  | done outcome => exact ⟨start, h, start⟩
  | outOfFuel => exact start
  | act action next ih =>
    obtain ⟨answers, confined, onward⟩ := h
    obtain ⟨step, ended⟩ := confined before start.closed
    refine ⟨start, fun error after failed => ?_, fun answer after acted => ?_,
      fun error after failed => ?_⟩
    -- What the action leaves behind is closed again, which is what the rest starts from.
    · rw [failed] at ended
      exact ended
    · rw [acted] at step ended
      exact ih answer (onward answer ended) (start.trans step)
    · rw [failed] at step ended
      exact ⟨start.trans step, ended, start.trans step⟩
  | ask job next ih =>
    obtain ⟨held, onward⟩ := h
    refine ⟨start, ⟨held, start⟩, fun outcome after ensured => ?_⟩
    obtain ⟨given, holds, step⟩ := ensured
    exact ih outcome (onward outcome holds given) step

/-- What the contract of signals says about a job does not depend on the states. -/
theorem Job.gives_iff (job : Job) (before after : Engine) (outcome : Except Unwind Value) :
    signalContract.ensures job before outcome after ↔ job.Gives outcome := by
  cases job <;> exact Iff.rfl

/-- **Confinement.** The scripts of all jobs keep to the contract. -/
theorem confinement_kept (policy : Policy) (base : Store) : (policy.contract base).Valid := by
  intro passes job before required
  obtain ⟨held, start⟩ := required
  -- That a job gives only its own signals is known already.
  have combined : ∀ {values : Script Value}, values.Confined policy policy.Holds →
      values.Keeps signalContract before (signalContract.ensures job before) →
      values.Keeps (policy.contract base) before ((policy.contract base).ensures job before) := by
    intro values confined signals
    refine ((confined.keeps start).and signals ?_).mono fun outcome after ended => ?_
    · exact fun job before outcome after ensured => (job.gives_iff ..).mpr ensured.1
    · obtain ⟨⟨holds, step⟩, given⟩ := ended
      exact ⟨(job.gives_iff ..).mp given, holds, step⟩
  have signals := signals_kept passes job before trivial
  cases job with
  | eval node scope =>
    obtain ⟨written, ref⟩ := held
    exact combined (evalNode_confined ref passes written) signals
  | enter activation => exact combined (Activation.enter_confined held) signals
  | activate activation =>
    refine activation.run_keeps start ?checks ?descends ?refused fun room =>
      ⟨start, ⟨held, start⟩, fun outcome after ensured => ?left⟩
    case checks =>
      intro error after failed
      obtain ⟨-, -, rfl⟩ := checkArgumentCount_error failed
      trivial
    case descends =>
      intro error after failed
      obtain ⟨-, -, rfl⟩ := Activation.descend_error failed
      trivial
    case refused =>
      intro error refuses
      refine ⟨rfl, ?_, start⟩
      cases refuses <;> trivial
    case left =>
      obtain ⟨given, holds, step⟩ := ensured
      refine ⟨step, fun error last failed => ?_, step, ?_, Activation.outcome_leave holds, step⟩
      · exact absurd failed (Activation.ascend_ne_error after error last)
      · exact (signalOf_leave activation outcome).trans given

/-- At each moment of a confined script, what is left of it keeps to the contract. -/
theorem Script.Confined.keeps_of_reaches {script rest : Script Value} {values : Value → Prop}
    (confined : script.Confined policy values) {before state : Engine} {inside : List Activation}
    (reached : script.Reaches before inside rest state) (closed : policy.Closed before.store) :
    ∃ post, rest.Keeps (policy.contract before.store) state post :=
  (confinement_kept _ _).reaches reached (confined.keeps (.refl closed))

end SlotTalk
