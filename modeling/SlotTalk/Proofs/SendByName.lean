import SlotTalk.Proofs.ArgumentProtocol
import SlotTalk.Proofs.DepthLimit
import SlotTalk.Proofs.RunningCall

namespace SlotTalk

/-!
# Sends by name

A message can be sent under a name that is written in the program, or by `perform` under one that is
handed to it.  The latter looks the name up once its arguments are evaluated, and runs what it finds
one activation deeper.  Code that does not ask for its call sees nothing of this.

* `Node.IsLiteral` — arguments that only tell their value.
* `Activation.finishes_withMessage` — code runs alike under messages with the same name and place.
* `Activation.finishes_deeper_iff` — and one activation deeper, unless it is refused there.
* `perform_agrees_with_send` — both ways end alike, but for one more line in a report.
-/

/-! ### Literals -/

/-- The node tells its value: nil, a truth value, a number or a text. -/
inductive Node.IsLiteral : Node → Prop where
  | nil : IsLiteral .nil
  | bool (value : Bool) : IsLiteral (.bool value)
  | integer (value : Int64) : IsLiteral (.integer value)
  | float (value : Float) : IsLiteral (.float value)
  | string (text : Text) : IsLiteral (.string text)

/-- A literal has its value in every scope and state. -/
theorem Node.IsLiteral.finishes {node : Node} (literal : node.IsLiteral) :
    ∃ value, ∀ scope before, Finishes (.eval node scope) before (.ok value) before := by
  cases literal <;> exact ⟨_, fun _ _ => ⟨1, rfl⟩⟩

theorem Node.exists_allEvaluated {nodes : List Node} (literal : ∀ node ∈ nodes, node.IsLiteral) :
    ∃ values, ∀ scope before, ∃ asked, AllEvaluated scope nodes before asked values before := by
  induction nodes with
  | nil => exact ⟨[], fun _ before => ⟨[], .none before⟩⟩
  | cons node rest ih =>
    obtain ⟨first, others⟩ := List.forall_mem_cons.mp literal
    obtain ⟨value, finishes⟩ := first.finishes
    obtain ⟨values, all⟩ := ih others
    refine ⟨value :: values, fun scope before => ?_⟩
    obtain ⟨asked, evaluated⟩ := all scope before
    exact ⟨_, .next (finishes scope before) evaluated⟩

/-- After some jobs there is no moment without room either. -/
theorem Script.NeverFull.after {α : Type} {x : Script α} {f : α → Script Value}
    {before between : Engine} {asked : List Answered} {value : α}
    (never : (x >>= f).NeverFull before) (first : x.Trace before asked (.ok value) between) :
    (f value).NeverFull between :=
  fun _ _ _ reached => never _ _ _ (first.reaches_bind reached)

/-! ### How activations end -/

namespace Activation

variable {activation : Activation} {before after : Engine} {outcome : Except Unwind Value}

theorem finishes_iff_run :
    Finishes (.activate activation) before outcome after
      ↔ ∃ fuel, activation.run.run (evaluator fuel) before = some (outcome, after) :=
  finishes_iff_ends fun _ => rfl

/-- An activation that is refused ends with the error of that. -/
theorem finishes_of_refused {error : RuntimeError}
    (refused : activation.refusal? before = some error) :
    Finishes (.activate activation) before outcome after
      ↔ .error (.ofError error) = outcome ∧ before = after := by
  simp only [finishes_iff_run, run_run, refused, Option.some.injEq, Prod.mk.injEq, exists_const]

/-- An activation that is let in ends as its code does, one deeper. -/
theorem finishes_of_accepted (accepted : activation.refusal? before = none) :
    Finishes (.activate activation) before outcome after
      ↔ ∃ inner between, Finishes (.enter activation) before.deeper inner between
        ∧ activation.leave inner = outcome ∧ between.shallower = after := by
  simp only [finishes_iff_run, run_run, accepted, Option.map_eq_some_iff, Prod.mk.injEq,
    Prod.exists]
  constructor
  · rintro ⟨fuel, inner, between, ends, left⟩
    exact ⟨inner, between, ⟨fuel, ends⟩, left⟩
  · rintro ⟨inner, between, ⟨fuel, ends⟩, left⟩
    exact ⟨fuel, inner, between, ends, left⟩

/-- Where it is never refused for want of depth, an activation ends alike one activation further
    out. -/
theorem finishes_deeper_iff (never : activation.run.NeverFull before.deeper) :
    Finishes (.activate activation) before outcome after
      ↔ ∃ below, Finishes (.activate activation) before.deeper outcome below
        ∧ below.shallower = after := by
  have may : before.deeper.MayLeave before.config.maxDepth 1 :=
    ⟨Nat.le_add_left 1 before.depth, Nat.le_succ _⟩
  have alike := fun fuel =>
    jobsAlike fuel before.config.maxDepth 1 (.activate activation) before.deeper may fun _ => never
  have same : ∀ fuel, evaluator fuel (.activate activation) before
      = (evaluator fuel (.activate activation) before.deeper).map fun ending =>
        (ending.1, ending.2.withRoom before.config.maxDepth 1) := fun fuel => (alike fuel).same
  -- The settings are the same at the end, the limit among them.
  have shallower : ∀ {fuel outcome below},
      evaluator fuel (.activate activation) before.deeper = some (outcome, below) →
      below.withRoom before.config.maxDepth 1 = below.shallower := by
    intro fuel outcome below ends
    obtain ⟨config, -⟩ := (alike fuel).level ends
    have limit : before.config.maxDepth = below.config.maxDepth :=
      congrArg Config.maxDepth config.symm
    rw [limit]
    rfl
  constructor
  · rintro ⟨fuel, ends⟩
    obtain ⟨⟨inner, below⟩, ranBelow, eq⟩ := Option.map_eq_some_iff.mp ((same fuel).symm.trans ends)
    obtain ⟨rfl, rfl⟩ := Prod.mk.inj eq
    exact ⟨below, ⟨fuel, ranBelow⟩, (shallower ranBelow).symm⟩
  · rintro ⟨below, ⟨fuel, ends⟩, rfl⟩
    refine ⟨fuel, ?_⟩
    rw [same, ends, ← shallower ends]
    rfl

end Activation

/-! ### Other messages -/

/-- A built-in looks at nothing of its message but the place. -/
theorem PlainPrimitive.run_withMessage (primitive : PlainPrimitive) (use : Invocation)
    {message : Message} (place : message.location = use.message.location) :
    primitive.run { use with message := message } = primitive.run use := by
  cases primitive with
  | object primitive =>
    cases primitive with
    | updateSlot =>
      show (do
        let name ← (use.input 0).expectString
        if ← Action.updateSlot use.receiver name (use.input 1) then return use.input 1
        else throw (.undefinedName name message.location) : Action Value) = _
      rw [place]
      rfl
    | _ => rfl
  | _ => rfl

namespace Activation

variable {activation : Activation} {message : Message}

/-- The same activation by another message. -/
def withMessage (activation : Activation) (message : Message) : Activation :=
  { activation with message := message }

/-- The code sees nothing of its message but the place: it has no call made, and does not hand the
    message on. -/
structure SeesOnlyPlace (activation : Activation) (store : Store) : Prop where
  uncalled : store.usesCallContext activation.code = false
  notBlock : activation.code ≠ .primitive .callBlock
  notFunction : activation.code ≠ .primitive .callFunction

theorem performByName_withMessage (caller : LocalsId) (use : Invocation)
    (place : message.location = use.message.location) :
    performByName caller { use with message := message } = performByName caller use := by
  simp only [performByName, place]
  rfl

/-- A body without a call is opened alike. -/
theorem openBlock_withMessage (activation : Activation) (message : Message) {id : BlockId}
    {before : Engine}
    (uncalled : ¬ (before.store.block id).code.usesCallContext = true) :
    ((activation.withMessage message).openBlock id).on before
      = (activation.openBlock id).on before := by
  rw [openBlock_on_of_not_uses _ uncalled, openBlock_on_of_not_uses _ uncalled]
  rfl

theorem openMethod_withMessage (activation : Activation) (message : Message) {id : MethodId}
    {before : Engine}
    (uncalled : ¬ (before.store.method id).code.usesCallContext = true) :
    ((activation.withMessage message).openMethod id).on before
      = (activation.openMethod id).on before := by
  have contexts : ∀ activation : Activation,
      activation.methodContext (before.store.method id) = pure activation.receiver :=
    fun activation => if_neg uncalled
  rw [openMethod, openMethod, Action.on_store_bind, Action.on_store_bind]
  dsimp only
  rw [contexts, contexts]
  rfl

/-- What opens alike runs alike. -/
theorem run_opening_congr {first second : Action Opened} {before : Engine}
    (same : first.on before = second.on before) (evaluate : Evaluator) :
    (Script.ofAction first >>= runBody).run evaluate before
      = (Script.ofAction second >>= runBody).run evaluate before := by
  rw [Script.run_bind, Script.run_bind, Script.ofAction, Script.ofAction, Script.run, Script.run,
    same]

section Place

variable (place : message.location = activation.message.location)
include place

/-- Such code runs alike by messages from the same place. -/
theorem enter_withMessage {before : Engine} (sees : activation.SeesOnlyPlace before.store)
    (evaluate : Evaluator) :
    (activation.withMessage message).enter.run evaluate before
      = activation.enter.run evaluate before := by
  obtain ⟨uncalled, notBlock, notFunction⟩ := sees
  have sameCode : (activation.withMessage message).code = activation.code := rfl
  cases code : activation.code with
  | primitive builtIn =>
    have use : (activation.withMessage message).invocation builtIn
        = { activation.invocation builtIn with message := message } := rfl
    rw [enter, enter, sameCode, code]
    cases builtIn with
    | plain primitive =>
      have same := primitive.run_withMessage (activation.invocation (.plain primitive)) place
      simp only [enterPrimitive, use, same]
    | perform =>
      have same :=
        performByName_withMessage activation.caller (activation.invocation .perform) place
      simp only [enterPrimitive, use, ← same]
      rfl
    | callBlock => exact absurd code notBlock
    | callFunction => exact absurd code notFunction
  | function id =>
    rw [enter_of_function (sameCode.trans code), enter_of_function code]
    rfl
  | block id =>
    rw [code] at uncalled
    have same := activation.openBlock_withMessage message (Bool.eq_false_iff.mp uncalled)
    rw [enter_of_block (sameCode.trans code), enter_of_block code]
    exact run_opening_congr same evaluate
  | method id =>
    rw [code] at uncalled
    have same := activation.openMethod_withMessage message (Bool.eq_false_iff.mp uncalled)
    rw [enter_of_method (sameCode.trans code), enter_of_method code]
    exact run_opening_congr same evaluate

/-- An activation of such code ends alike by messages of the same name from the same place. -/
theorem finishes_withMessage {before after : Engine} {outcome : Except Unwind Value}
    (sees : activation.SeesOnlyPlace before.store)
    (name : message.name.content = activation.message.name.content) :
    Finishes (.activate (activation.withMessage message)) before outcome after
      ↔ Finishes (.activate activation) before outcome after := by
  have code : ∀ fuel, evaluator fuel (.enter (activation.withMessage message)) before.deeper
      = evaluator fuel (.enter activation) before.deeper := by
    intro fuel
    cases fuel with
    | zero => rfl
    | succ fuel => exact @enter_withMessage _ _ place before.deeper sees (evaluator fuel)
  have entry : (activation.withMessage message).entry = activation.entry := by
    simp only [Activation.entry, withMessage, name, place]
  have leave : ∀ outcome, (activation.withMessage message).leave outcome
      = activation.leave outcome := by
    intro outcome
    unfold Activation.leave
    split <;> simp only [entry]
  have refusal : (activation.withMessage message).refusal? before = activation.refusal? before := by
    simp only [refusal?, withMessage, name]
  have same : ∀ fuel, evaluator fuel (.activate (activation.withMessage message)) before
      = evaluator fuel (.activate activation) before := by
    intro fuel
    cases fuel with
    | zero => rfl
    | succ fuel =>
      show (activation.withMessage message).run.run _ _ = activation.run.run _ _
      rw [run_run, run_run, refusal, code]
      simp only [leave]
  simp only [Finishes, same]

/-- The same one activation deeper, if none is refused there. -/
theorem finishes_withMessage_deeper_iff {before after : Engine} {outcome : Except Unwind Value}
    (sees : activation.SeesOnlyPlace before.store)
    (name : message.name.content = activation.message.name.content)
    (never : (activation.withMessage message).run.NeverFull before.deeper) :
    Finishes (.activate activation) before outcome after
      ↔ ∃ below, Finishes (.activate (activation.withMessage message)) before.deeper outcome below
        ∧ below.shallower = after :=
  (finishes_withMessage place sees name).symm.trans (finishes_deeper_iff never)

end Place

end Activation

/-! ### Sends with literal arguments -/

/-- A name that leads to nothing ends a send. -/
theorem send_ends_of_missing {scope : LocalsId} {receiver : Value} {message : Message}
    {nodes : List Node} {before after : Engine} {outcome : Except Unwind Value}
    (missing : before.store.lookupOn receiver message.name.content = none) :
    (send scope receiver message nodes).Ends before outcome after
      ↔ .error (.ofError (.undefinedName message.name.content message.location)) = outcome
        ∧ before = after := by
  have looked : (Action.findOn receiver message.name.content).on before = (.ok none, before) :=
    congrArg (fun found => (Except.ok found, before)) missing
  exact (Script.ends_act_iff looked).trans Script.ends_fail_iff

/-- What a name leads to is used. -/
theorem send_ends_of_found {scope : LocalsId} {receiver : Value} {message : Message}
    {nodes : List Node} {before after : Engine} {outcome : Except Unwind Value} {found : Found}
    (finds : before.store.lookupOn receiver message.name.content = some found) :
    (send scope receiver message nodes).Ends before outcome after
      ↔ (activate scope receiver found.value (.object found.holder) message nodes).Ends before
          outcome after := by
  have looked : (Action.findOn receiver message.name.content).on before
      = (.ok (some found), before) := congrArg (fun found => (Except.ok found, before)) finds
  exact Script.ends_act_iff looked

section Literals

variable {scope : LocalsId} {receiver found slotContext : Value} {name : Text}
  {location : Option Location} {nodes : List Node} {before after : Engine}
  {outcome : Except Unwind Value} {values : List Value} {asked : List Answered}

/-- Data is the answer. -/
theorem writtenSend_ends_of_data (plain : found.invokable? = none) :
    (writtenSend scope receiver found slotContext name location nodes).Ends before outcome after
      ↔ .ok found = outcome ∧ before = after := by
  rw [writtenSend, activate, plain]
  exact Script.ends_done_iff

/-- Where the arguments change nothing, they are no less refused after they are evaluated: a send
    comes to the activation in any case. -/
theorem writtenSend_ends_of_code {code : Invokable} (runs : found.invokable? = some code)
    (all : Node.AllEvaluated scope nodes before asked values before) :
    (writtenSend scope receiver found slotContext name location nodes).Ends before outcome after
      ↔ Finishes
          (.activate (activationOf scope receiver slotContext name location nodes code values))
          before outcome after := by
  let activation := activationOf scope receiver slotContext name location nodes code values
  rw [writtenSend_of_code runs]
  cases many : before.store.tooMany code nodes.length with
  | false =>
    rw [Script.ends_act_iff (checkArgumentCount_of_takes (Store.takes_iff.mpr many)),
      all.trace.ends_bind_iff, Script.ends_evaluate_iff]
  | true =>
    have refused : activation.refusal? before
        = some (.tooManyArguments name.content (before.store.arity code) nodes.length) := by
      have tooMany : before.store.tooMany code values.length = true := all.length_eq ▸ many
      show (if before.store.tooMany code values.length = true then _ else _) = _
      rw [if_pos tooMany, ← all.length_eq]
      rfl
    have checked : (checkArgumentCount code name.content nodes.length).on before
        = (.error (.tooManyArguments name.content (before.store.arity code) nodes.length),
          before) := by
      rw [checkArgumentCount_on, if_pos many]
    rw [Script.ends_act_iff_of_error checked, Activation.finishes_of_refused refused]

end Literals

/-! ### Performing -/

/-- The outcome, with one more line at the end of a report. -/
def afterLine (line : String) : Except Unwind Value → Except Unwind Value
  | .error (.failed report) => .error (.failed (report.push line))
  | outcome => outcome

theorem Activation.leave_eq (activation : Activation) (outcome : Except Unwind Value) :
    activation.leave outcome = afterLine activation.entry outcome := by
  rcases outcome with (_ | _ | _ | _) | _ <;> rfl

section Perform

variable {scope : LocalsId} {receiver : Value} {name text : Text} {literals : List Node}
  {before after : Engine} {outcome : Except Unwind Value} {holder : ObjectId}
  {values : List Value} {asked : List Answered}

/-- A send of `perform` with a name, and literals as arguments. -/
def performing (scope : LocalsId) (receiver : Value) (perform text : Text)
    (literals : List Node) : Script Value :=
  send scope receiver ⟨perform, literals.length + 1, none⟩ (.string text :: literals)

/-- The same arguments sent under the name itself. -/
def sending (scope : LocalsId) (receiver : Value) (name : Text) (literals : List Node) :
    Script Value :=
  send scope receiver ⟨name, literals.length, none⟩ literals

/-- What the name leads to sees nothing of a message but the place. -/
def Store.LeadsToQuiet (store : Store) (receiver : Value) (name : String) : Prop :=
  ∀ found code, store.lookupOn receiver name = some found → found.value.invokable? = some code →
    store.usesCallContext code = false ∧ code ≠ .primitive .callBlock
      ∧ code ≠ .primitive .callFunction

/-- The use of `perform` that the sends come to. -/
def performUse (receiver : Value) (perform text : Text) (literals : List Node)
    (values : List Value) : Invocation where
  receiver := receiver
  inputs := .string text :: values
  message := ⟨perform, literals.length + 1, none⟩

/-- What `perform` does with what the name leads to. -/
def performFound (caller : LocalsId) (use : Invocation) (name : String) (found : Found) :
    Script Value :=
  match found.value.invokable? with
  | none => .done (.ok found.value)
  | some code =>
    Script.evaluate <| .activate
      { caller := caller
        code := code
        receiver := use.receiver
        slotContext := .object found.holder
        message := ⟨name, (use.inputs.drop 1).length, none⟩
        arguments := use.inputs.drop 1 }

/-- `perform` looks up the name in its first input. -/
theorem performByName_eq (caller : LocalsId) (use : Invocation) :
    Activation.performByName caller use = .act (use.input 0).expectString fun name =>
      .act (Action.findOn use.receiver name) fun found? =>
        match found? with
        | none => .fail (.undefinedName name use.message.location)
        | some found => performFound caller use name found := by
  rw [Activation.performByName]
  rfl

/-- What ends at once ends alike one activation deeper. -/
theorem ended_deeper_iff {result : Except Unwind Value} :
    (result = outcome ∧ before = after)
      ↔ ∃ below, (result = outcome ∧ before.deeper = below) ∧ below.shallower = after := by
  constructor
  · rintro ⟨rfl, rfl⟩
    exact ⟨before.deeper, ⟨rfl, rfl⟩, rfl⟩
  · rintro ⟨below, ⟨rfl, rfl⟩, rfl⟩
    exact ⟨rfl, rfl⟩

section Agreement

variable {perform : Text} (quiet : before.store.LeadsToQuiet receiver name.content)
include quiet

/-- Code is activated with a message of its own, which tells no more than the one that was sent. -/
theorem performFound_agrees {found : Found} {code : Invokable}
    (finds : before.store.lookupOn receiver name.content = some found)
    (runs : found.value.invokable? = some code)
    (never : (performFound scope (performUse receiver perform text literals values) name.content
      found).NeverFull before.deeper) :
    Finishes (.activate
        (activationOf scope receiver (.object found.holder) name none literals code values))
        before outcome after
      ↔ ∃ below, (performFound scope (performUse receiver perform text literals values)
            name.content found).Ends before.deeper outcome below
          ∧ below.shallower = after := by
  let activation := activationOf scope receiver (.object found.holder) name none literals code
    values
  let message : Message := ⟨name.content, values.length, none⟩
  have performs : performFound scope (performUse receiver perform text literals values)
        name.content found
      = Script.evaluate (.activate (activation.withMessage message)) := by
    rw [performFound, runs]
    rfl
  obtain ⟨uncalled, notBlock, notFunction⟩ := quiet found code finds runs
  have sees : activation.SeesOnlyPlace before.store := ⟨uncalled, notBlock, notFunction⟩
  have place : message.location = activation.message.location := rfl
  have content : message.name.content = activation.message.name.content := rfl
  rw [performs] at never ⊢
  have activates : (activation.withMessage message).run.NeverFull before.deeper :=
    (Script.neverFull_ask_iff.mp never).1 0
  simp only [Script.ends_evaluate_iff]
  exact Activation.finishes_withMessage_deeper_iff place sees content activates

/-- One activation deeper, `perform` does what the plain send does. -/
theorem performByName_agrees (same : text.content = name.content)
    (all : Node.AllEvaluated scope literals before asked values before)
    (never : (Activation.performByName scope
      (performUse receiver perform text literals values)).NeverFull before.deeper) :
    (sending scope receiver name literals).Ends before outcome after
      ↔ ∃ below, (Activation.performByName scope
            (performUse receiver perform text literals values)).Ends before.deeper outcome below
          ∧ below.shallower = after := by
  have named : ((performUse receiver perform text literals values).input 0).expectString.on
      before.deeper = (.ok name.content, before.deeper) := same ▸ rfl
  -- The name is looked up in a state with the same store.
  have looked : (Action.findOn (performUse receiver perform text literals values).receiver
      name.content).on before.deeper
      = (.ok (before.store.lookupOn receiver name.content), before.deeper) := rfl
  rw [performByName_eq] at never ⊢
  rw [sending]
  simp only [Script.ends_act_iff named, Script.ends_act_iff looked]
  have onward := (Script.neverFull_act_iff.mp ((Script.neverFull_act_iff.mp never).2 _ _ named)).2
    _ _ looked
  cases finds : before.store.lookupOn receiver name.content with
  | none =>
    rw [send_ends_of_missing finds]
    simp only [Script.ends_fail_iff]
    exact ended_deeper_iff
  | some found =>
    rw [finds] at onward
    rw [send_ends_of_found finds]
    cases runs : found.value.invokable? with
    | none =>
      refine (writtenSend_ends_of_data runs).trans ?_
      simp only [performFound, runs, Script.ends_done_iff]
      exact ended_deeper_iff
    | some code =>
      exact (writtenSend_ends_of_code runs all).trans (performFound_agrees quiet finds runs onward)

end Agreement

/-- The activation that a performing comes to. -/
def performActivation (scope : LocalsId) (receiver : Value) (holder : ObjectId)
    (perform text : Text) (literals : List Node) (values : List Value) : Activation :=
  activationOf scope receiver (.object holder) perform none (.string text :: literals)
    (.primitive .perform) (.string text :: values)

theorem performActivation_enter {perform : Text} :
    (performActivation scope receiver holder perform text literals values).enter
      = Activation.performByName scope (performUse receiver perform text literals values) := by
  have inputs : padTo 1 (.string text :: values) = .string text :: values := by simp [padTo]
  have use : (performActivation scope receiver holder perform text literals values).invocation
      .perform = performUse receiver perform text literals values :=
    congrArg (fun inputs => { performUse receiver perform text literals values with inputs }) inputs
  exact congrArg (Activation.performByName scope) use

theorem performActivation_accepted {perform : Text} (room : before.depth < before.config.maxDepth) :
    (performActivation scope receiver holder perform text literals values).refusal? before
      = none := by
  have takes : before.store.tooMany (.primitive .perform) (values.length + 1) = false :=
    Store.takes_iff.mp (.inl rfl)
  show (if before.store.tooMany (.primitive .perform) (values.length + 1) = true then _
    else if before.config.maxDepth ≤ before.depth then _ else _) = _
  rw [takes, if_neg Bool.false_ne_true, if_neg (Nat.not_le_of_lt room)]

/-- A performing that is never refused for want of depth comes to its activation with room, and to
    nothing below that is refused. -/
theorem performing_enters {perform : Text}
    (builtIn : before.store.lookupOn receiver perform.content
      = some ⟨holder, .primitive .perform⟩)
    (all : Node.AllEvaluated scope (.string text :: literals) before asked (.string text :: values)
      before)
    (never : (performing scope receiver perform text literals).NeverFull before) :
    before.depth < before.config.maxDepth
      ∧ (Activation.performByName scope
          (performUse receiver perform text literals values)).NeverFull before.deeper := by
  have looked : (Action.findOn receiver perform.content).on before
      = (.ok (some ⟨holder, .primitive .perform⟩), before) :=
    congrArg (fun found => (Except.ok found, before)) builtIn
  have runs : Value.invokable? (.primitive .perform) = some (.primitive .perform) := rfl
  have takes : before.store.Takes (.primitive .perform) (.string text :: literals).length :=
    .inl rfl
  have used : (writtenSend scope receiver (.primitive .perform) (.object holder) perform none
      (.string text :: literals)).NeverFull before :=
    (Script.neverFull_act_iff.mp never).2 _ _ looked
  rw [writtenSend_of_code runs] at used
  have evaluates := (Script.neverFull_act_iff.mp used).2 _ _ (checkArgumentCount_of_takes takes)
  have activates := (Script.neverFull_ask_iff.mp (evaluates.after all.trace)).1 0
  obtain ⟨room, enters⟩ := Activation.enters_of_neverFull (Store.takes_iff.mp (.inl rfl)) activates
  exact ⟨room, performActivation_enter ▸ enters 0⟩

/-- Where there is room, performing ends as `perform` does one activation deeper. -/
theorem performing_ends_iff {perform : Text}
    (builtIn : before.store.lookupOn receiver perform.content
      = some ⟨holder, .primitive .perform⟩)
    (all : Node.AllEvaluated scope (.string text :: literals) before asked (.string text :: values)
      before)
    (room : before.depth < before.config.maxDepth) :
    (performing scope receiver perform text literals).Ends before outcome after
      ↔ ∃ inner, outcome = afterLine (receiver.type.text ++ " " ++ perform.content) inner
        ∧ ∃ below, (Activation.performByName scope
            (performUse receiver perform text literals values)).Ends before.deeper inner below
          ∧ below.shallower = after := by
  let activation := performActivation scope receiver holder perform text literals values
  have runs : Value.invokable? (.primitive .perform) = some (.primitive .perform) := rfl
  have used : (performing scope receiver perform text literals).Ends before outcome after
      ↔ (writtenSend scope receiver (.primitive .perform) (.object holder) perform none
          (.string text :: literals)).Ends before outcome after := by
    rw [performing, send_ends_of_found builtIn]
    rfl
  have accepted : activation.refusal? before = none := performActivation_accepted room
  have script : ∀ passes, doJob passes (.enter activation)
      = Activation.performByName scope (performUse receiver perform text literals values) :=
    fun _ => performActivation_enter
  have entry : activation.entry = receiver.type.text ++ " " ++ perform.content := rfl
  rw [used, writtenSend_ends_of_code runs all]
  change Finishes (.activate activation) before outcome after ↔ _
  simp only [Activation.finishes_of_accepted accepted, finishes_iff_ends script,
    Activation.leave_eq, entry]
  constructor
  · rintro ⟨inner, below, ends, rfl, rfl⟩
    exact ⟨inner, rfl, below, ends, rfl⟩
  · rintro ⟨inner, rfl, below, ends, rfl⟩
    exact ⟨inner, below, ends, rfl, rfl⟩

/-- **Sends by name.**  Let `perform` be the built-in on the receiver, and let the name lead to
    nothing, to data, or to code that neither has its call made nor is `call` itself.  If no
    activation is refused for want of depth, then to perform the name with literals as arguments and
    to send it with them end alike, or do not end: in the same state with the same value, or with
    the same error, whose report has one more line at the end, the one for `perform`. -/
theorem perform_agrees_with_send {perform : Text}
    (builtIn : before.store.lookupOn receiver perform.content
      = some ⟨holder, .primitive .perform⟩)
    (same : text.content = name.content) (literal : ∀ node ∈ literals, node.IsLiteral)
    (quiet : before.store.LeadsToQuiet receiver name.content)
    (never : (performing scope receiver perform text literals).NeverFull before) :
    (performing scope receiver perform text literals).Ends before outcome after
      ↔ ∃ inner, outcome = afterLine (receiver.type.text ++ " " ++ perform.content) inner
        ∧ (sending scope receiver name literals).Ends before inner after := by
  obtain ⟨values, evaluated⟩ := Node.exists_allEvaluated literal
  obtain ⟨asked, all⟩ := evaluated scope before
  have nodes : Node.AllEvaluated scope (.string text :: literals) before _ (.string text :: values)
      before := .next ⟨1, rfl⟩ all
  obtain ⟨room, below⟩ := performing_enters builtIn nodes never
  refine (performing_ends_iff builtIn nodes room).trans ?_
  exact exists_congr fun inner =>
    and_congr_right fun _ => (performByName_agrees quiet same all below).symm

end Perform

/-- With room for one activation inside another, performing the test for nil with an argument is
    nowhere refused for want of depth. -/
theorem neverFull_performing {before : Engine} (room : before.depth + 1 < before.config.maxDepth)
    (builtIn : before.store.lookupOn (.int 1) "perform"
      = some ⟨objectPrototype, .primitive .perform⟩)
    (finds : before.store.lookupOn (.int 1) "isNil" = some nilTestFound) :
    (performing World.moduleLocals (.int 1) "perform" "isNil" [.integer 2]).NeverFull before := by
  have here : before.depth < before.config.maxDepth := Nat.lt_of_succ_lt room
  -- `perform` is found, and both arguments are evaluated.
  refine .act here fun _ _ found => ?_
  obtain ⟨same, rfl⟩ := Prod.mk.inj found
  obtain rfl := Except.ok.inj (same.symm.trans (congrArg Except.ok builtIn))
  refine .act here fun _ _ checked => ?_
  obtain ⟨-, rfl⟩ := Prod.mk.inj checked
  refine Script.neverFull_ask_iff.mpr ⟨fun _ => Script.neverFull_done _ _, fun _ _ ends => ?_⟩
  obtain ⟨rfl, rfl⟩ := ends.unique ⟨1, rfl⟩
  refine Script.neverFull_ask_iff.mpr ⟨fun _ => Script.neverFull_done _ _, fun _ _ ends => ?_⟩
  obtain ⟨rfl, rfl⟩ := ends.unique ⟨1, rfl⟩
  -- It runs one deeper.
  refine .evaluate fun passes => .act here fun _ _ checked => ?_
  obtain ⟨-, rfl⟩ := Prod.mk.inj checked
  refine .act here fun _ _ descended => ?_
  obtain ⟨rfl, -⟩ := Activation.descend_ok descended
  refine Script.neverFull_ask_iff.mpr ⟨fun _ => ?_, fun _ _ ends => ?_⟩
  · refine .act room fun _ _ named => ?_
    obtain ⟨same, rfl⟩ := Prod.mk.inj named
    obtain rfl := Except.ok.inj same
    refine .act room fun _ _ found => ?_
    obtain ⟨same, rfl⟩ := Prod.mk.inj found
    obtain rfl := Except.ok.inj (same.symm.trans (congrArg Except.ok finds))
    -- The activation of the test is refused for its argument.
    exact .evaluate fun passes => .act room fun _ _ checked => nomatch (Prod.mk.inj checked).1
  · obtain ⟨settings, level⟩ := depth_of_finishes ends
    refine .act ?_ fun _ _ _ => Script.neverFull_done _ _
    rw [settings, level]
    exact room

/-- A test that takes no argument, performed with one: it is refused as the plain send is. -/
theorem performed_test_is_refused :
    (performing World.moduleLocals (.int 1) "perform" "isNil" [.integer 2]).Ends (Engine.new {})
      (.error (.failed ⟨.tooManyArguments "isNil" 0 1, ["Number perform"]⟩)) (Engine.new {}) := by
  have builtIn : (Engine.new {}).store.lookupOn (.int 1) "perform"
      = some ⟨objectPrototype, .primitive .perform⟩ :=
    Store.lookup_eq_of_code rfl (by decide +kernel)
  have finds : (Engine.new {}).store.lookupOn (.int 1) "isNil" = some nilTestFound :=
    Store.lookup_eq_of_code rfl (by decide +kernel)
  have quiet : (Engine.new {}).store.LeadsToQuiet (.int 1) "isNil" := by
    intro found code finds' runs
    obtain rfl := Option.some.inj (finds.symm.trans finds')
    obtain rfl := Option.some.inj runs
    exact ⟨rfl, nofun, nofun⟩
  have literal : ∀ node ∈ [Node.integer 2], node.IsLiteral := by
    intro node among
    obtain rfl := List.mem_singleton.mp among
    exact .integer 2
  have refused : (sending World.moduleLocals (.int 1) "isNil" [.integer 2]).Ends (Engine.new {})
      (.error (.ofError (.tooManyArguments "isNil" 0 1))) (Engine.new {}) := by
    have runs : nilTestFound.value.invokable? = some (.primitive (.plain (.object .isNil))) := rfl
    rw [sending, send_ends_of_found finds]
    exact (writtenSend_trace_iff.mpr (.tooMany runs rfl (by decide))).ends
  have never := neverFull_performing (by decide) builtIn finds
  exact (perform_agrees_with_send builtIn rfl literal quiet never).mpr ⟨_, rfl, refused⟩

end SlotTalk
