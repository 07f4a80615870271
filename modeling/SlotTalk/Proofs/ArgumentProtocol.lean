import SlotTalk.Proofs.BlockAnchor
import SlotTalk.Proofs.Definitions
import SlotTalk.Proofs.Depth
import SlotTalk.Proofs.Trace

namespace SlotTalk

/-!
# The argument protocol

Too many arguments are refused before any of them is evaluated, and missing ones are nil.  In
between the arguments are evaluated from left to right, once each, and then bound to the parameters
in their order.

* `Node.AllEvaluated` — arguments that were evaluated one after the other, each to a value.
* `SendOf`, `activate_trace_iff` — all that can become of a value that was found, for arguments that
  are written in the message.
* `argumentVector`, `Activation.openingByPosition?` — the arguments of an activation as a vector
  that is read by position, and the scope that is opened from it.
* `Activation.readInRange` — no position is out of range, and the scope is the same.
* `Activation.Starts` — the moment at which the code of an activation starts.
* `arguments_follow_one_protocol` — the whole protocol.
-/

/-! ### Arguments from left to right -/

/-- The nodes were evaluated in the scope from left to right, once each, and each gave a value. -/
inductive Node.AllEvaluated (scope : LocalsId) :
    List Node → Engine → List Answered → List Value → Engine → Prop where
  | none (before : Engine) : AllEvaluated scope [] before [] [] before
  | next {node : Node} {rest : List Node} {before between after : Engine} {value : Value}
    {asked : List Answered} {values : List Value}
    (first : Finishes (.eval node scope) before (.ok value) between)
    (others : AllEvaluated scope rest between asked values after) :
    AllEvaluated scope (node :: rest) before
      (⟨.eval node scope, before, .ok value, between⟩ :: asked) (value :: values) after

/-- The nodes were evaluated in the same way up to one that unwound, and no further. -/
inductive Node.OneUnwound (scope : LocalsId) :
    List Node → Engine → List Answered → Unwind → Engine → Prop where
  | here {node : Node} {rest : List Node} {before after : Engine} {unwind : Unwind}
    (first : Finishes (.eval node scope) before (.error unwind) after) :
    OneUnwound scope (node :: rest) before [⟨.eval node scope, before, .error unwind, after⟩] unwind
      after
  | later {node : Node} {rest : List Node} {before between after : Engine} {value : Value}
    {asked : List Answered} {unwind : Unwind}
    (first : Finishes (.eval node scope) before (.ok value) between)
    (others : OneUnwound scope rest between asked unwind after) :
    OneUnwound scope (node :: rest) before
      (⟨.eval node scope, before, .ok value, between⟩ :: asked) unwind after

namespace Node.AllEvaluated

variable {scope : LocalsId} {nodes : List Node} {before after : Engine} {asked : List Answered}
  {values : List Value}

/-- There is one value for each node. -/
theorem length_eq (all : AllEvaluated scope nodes before asked values after) :
    values.length = nodes.length := by
  induction all with
  | none => rfl
  | next first others ih => simp only [List.length_cons, ih]

theorem trace (all : AllEvaluated scope nodes before asked values after) :
    (evalArguments scope nodes).Trace before asked (.ok values) after := by
  induction all with
  | none before => exact .done _ before
  | @next _ rest _ _ after value _ values first others ih =>
    have both : (evalArguments scope rest >>= fun values => pure (value :: values)).Trace _ _ _ _ :=
      ih.bind (.done (.ok (value :: values)) after)
    rw [List.append_nil] at both
    exact .bind (.evaluated first) both

/-- Cells stay what they are in the meantime. -/
theorem evolves (all : AllEvaluated scope nodes before asked values after) :
    before.store.Evolves after.store := by
  induction all with
  | none before => exact .refl before.store
  | @next _ _ before _ _ _ _ _ first others ih =>
    exact ((Store.kept_evolves before.store).finishes first (.refl _)).trans ih

/-- There is as much room for activations as before. -/
theorem depth (all : AllEvaluated scope nodes before asked values after) :
    after.config = before.config ∧ after.depth = before.depth := by
  induction all with
  | none => exact ⟨rfl, rfl⟩
  | next first others ih =>
    obtain ⟨settings, level⟩ := depth_of_finishes first
    obtain ⟨settings', level'⟩ := ih
    exact ⟨settings'.trans settings, level'.trans level⟩

end Node.AllEvaluated

theorem Node.OneUnwound.trace {scope : LocalsId} {nodes : List Node} {before after : Engine}
    {asked : List Answered} {unwind : Unwind}
    (one : OneUnwound scope nodes before asked unwind after) :
    (evalArguments scope nodes).Trace before asked (.error unwind) after := by
  induction one with
  | here first => exact .bind_error _ (.evaluated first)
  | later first others ih => exact .bind (.evaluated first) (ih.bind_error _)

/-- There is no other way for the evaluation of arguments to end. -/
theorem evalArguments_traced {scope : LocalsId} {nodes : List Node} {before after : Engine}
    {asked : List Answered} {outcome : Except Unwind (List Value)}
    (trace : (evalArguments scope nodes).Trace before asked outcome after) :
    (∃ values, outcome = .ok values ∧ Node.AllEvaluated scope nodes before asked values after)
      ∨ ∃ unwind, outcome = .error unwind
        ∧ Node.OneUnwound scope nodes before asked unwind after := by
  induction nodes generalizing before after asked outcome with
  | nil =>
    cases trace with
    | done => exact .inl ⟨[], rfl, .none _⟩
  | cons node rest ih =>
    rw [evalArguments] at trace
    obtain ⟨answer, between, others, rfl, first, later⟩ := Script.Trace.of_answered trace
    cases answer with
    | error unwind =>
      cases later with
      | done => exact .inr ⟨unwind, rfl, .here first⟩
    | ok value =>
      change (evalArguments scope rest >>= fun values => pure (value :: values)).Trace between
        others outcome after at later
      rcases Script.Trace.of_bind later with
        ⟨values, state, asked, none, rfl, trace', ended⟩ | ⟨unwind, rfl, trace'⟩
      · obtain ⟨_, same, all⟩ | ⟨_, same, -⟩ := ih trace'
        · obtain rfl := Except.ok.inj same
          cases ended with
          | done =>
            rw [List.append_nil]
            exact .inl ⟨_, rfl, .next first all⟩
        · exact nomatch same
      · obtain ⟨_, same, -⟩ | ⟨_, same, one⟩ := ih trace'
        · exact nomatch same
        · obtain rfl := Except.error.inj same
          exact .inr ⟨_, rfl, .later first one⟩

/-! ### What is done with a value that was found -/

section Sends

variable (scope : LocalsId) (receiver found slotContext : Value) (name : Text)
  (location : Option Location) (nodes : List Node)

/-- The code takes so many arguments. -/
def Store.Takes (store : Store) (code : Invokable) (supplied : Nat) : Prop :=
  code.isVariadic = true ∨ supplied ≤ store.arity code

/-- The activation of the code that was found, with the values of the arguments. -/
def activationOf (code : Invokable) (values : List Value) : Activation where
  caller := scope
  code := code
  receiver := receiver
  slotContext := slotContext
  message := ⟨name, nodes.length, location⟩
  arguments := values

/-- What becomes of a value that was found under the name, with the jobs that are done for it. -/
inductive SendOf (before : Engine) :
    List Answered → Except Unwind Value → Engine → Prop where
  /-- Plain data is the answer, whatever the arguments are. -/
  | data (plain : found.invokable? = none) : SendOf before [] (.ok found) before
  /-- More arguments than the code takes are refused before any of them is evaluated. -/
  | tooMany {code : Invokable} (runs : found.invokable? = some code)
    (notVariadic : code.isVariadic = false) (more : before.store.arity code < nodes.length) :
    SendOf before []
      (.error (.ofError
        (.tooManyArguments name.content (before.store.arity code) nodes.length))) before
  /-- The first argument that unwinds ends the send, and nothing is activated. -/
  | unwound {code : Invokable} {asked : List Answered} {unwind : Unwind} {after : Engine}
    (runs : found.invokable? = some code) (takes : before.store.Takes code nodes.length)
    (one : Node.OneUnwound scope nodes before asked unwind after) :
    SendOf before asked (.error unwind) after
  /-- The code is activated with the values of all arguments, and the send ends like that. -/
  | activated {code : Invokable} {asked : List Answered} {values : List Value}
    {between after : Engine} {outcome : Except Unwind Value}
    (runs : found.invokable? = some code) (takes : before.store.Takes code nodes.length)
    (all : Node.AllEvaluated scope nodes before asked values between)
    (ends : Finishes
      (.activate (activationOf scope receiver slotContext name location nodes code values)) between
      outcome after) :
    SendOf before
      (asked ++ [⟨
        .activate (activationOf scope receiver slotContext name location nodes code values),
        between, outcome, after⟩]) outcome after

/-- A value that was found, used with arguments that are written in the message. -/
def writtenSend : Script Value :=
  activate scope receiver found slotContext ⟨name, nodes.length, location⟩ nodes

variable {scope receiver found slotContext name location nodes}

theorem Store.takes_iff {store : Store} {code : Invokable} {supplied : Nat} :
    store.Takes code supplied ↔ store.tooMany code supplied = false := by
  rw [Takes, tooMany]
  cases code.isVariadic <;> simp

theorem writtenSend_of_code {code : Invokable} (runs : found.invokable? = some code) :
    writtenSend scope receiver found slotContext name location nodes
      = .act (checkArgumentCount code name.content nodes.length) fun _ =>
          evalArguments scope nodes >>= fun values =>
          Script.evaluate (.activate
            (activationOf scope receiver slotContext name location nodes code values)) := by
  rw [writtenSend, activate, runs]
  rfl

theorem checkArgumentCount_of_takes {before : Engine} {code : Invokable}
    (takes : before.store.Takes code nodes.length) :
    (checkArgumentCount code name.content nodes.length).on before = (.ok (), before) := by
  rw [checkArgumentCount_on, Store.takes_iff.mp takes]
  rfl

/-- From what it has done the script of a send can be told what became of it. -/
theorem SendOf.of_trace {before after : Engine} {asked : List Answered}
    {outcome : Except Unwind Value}
    (trace : (writtenSend scope receiver found slotContext name location nodes).Trace before asked
      outcome after) :
    SendOf scope receiver found slotContext name location nodes before asked outcome after := by
  cases runs : found.invokable? with
  | none =>
    rw [writtenSend, activate, runs] at trace
    cases trace with
    | done => exact .data runs
  | some code =>
    rw [writtenSend_of_code runs] at trace
    rcases Script.Trace.of_act trace with
      ⟨_, between, checked, later⟩ | ⟨error, refused, rfl, rfl⟩
    case inr =>
      obtain ⟨rfl, many, rfl⟩ := checkArgumentCount_error refused
      simp only [Store.tooMany, Bool.and_eq_true, Bool.not_eq_true', decide_eq_true_eq] at many
      exact .tooMany runs many.1 many.2
    obtain ⟨rfl, fits⟩ := checkArgumentCount_ok checked
    have takes := Store.takes_iff.mpr (Bool.eq_false_iff.mpr fits)
    rcases Script.Trace.of_bind later with
      ⟨values, between', asked, rest, rfl, first, last⟩ | ⟨unwind, rfl, first⟩
    · obtain ⟨_, same, all⟩ | ⟨_, same, -⟩ := evalArguments_traced first
      · obtain rfl := Except.ok.inj same
        obtain ⟨answer, between, rest, rfl, ends, done⟩ := Script.Trace.of_answered last
        cases done with
        | done => exact .activated runs takes all ends
      · cases same
    · obtain ⟨_, same, -⟩ | ⟨_, same, one⟩ := evalArguments_traced first
      · cases same
      · obtain rfl := Except.error.inj same
        exact .unwound runs takes one

/-- Whatever becomes of a send, its script does just that. -/
theorem SendOf.trace {before after : Engine} {asked : List Answered}
    {outcome : Except Unwind Value}
    (send : SendOf scope receiver found slotContext name location nodes before asked outcome
      after) :
    (writtenSend scope receiver found slotContext name location nodes).Trace before asked outcome
      after := by
  cases send with
  | data plain =>
    rw [writtenSend, activate, plain]
    exact .done _ before
  | @tooMany code runs notVariadic more =>
    rw [writtenSend_of_code runs]
    refine .failed ?_
    have many : before.store.tooMany code nodes.length = true := by
      simp [Store.tooMany, notVariadic, more]
    rw [checkArgumentCount_on, if_pos many]
  | unwound runs takes one =>
    rw [writtenSend_of_code runs]
    exact .act (checkArgumentCount_of_takes takes) (.bind_error _ one.trace)
  | activated runs takes all ends =>
    rw [writtenSend_of_code runs]
    exact .act (checkArgumentCount_of_takes takes) (.bind all.trace (.evaluated ends))

/-- **Sends with written arguments.**  Exactly this becomes of a value that was found. -/
theorem writtenSend_trace_iff {before after : Engine} {asked : List Answered}
    {outcome : Except Unwind Value} :
    (writtenSend scope receiver found slotContext name location nodes).Trace before asked outcome
        after
      ↔ SendOf scope receiver found slotContext name location nodes before asked outcome after :=
  ⟨.of_trace, fun send => send.trace⟩

end Sends

/-! ### Reading arguments by position -/

/-- The context, and after it the arguments, with nil for the declared ones that are missing.  There
    are as many as declared, unless the code takes more. -/
def argumentVector (context : Value) (arity : Nat) (variadic : Bool) (arguments : List Value) :
    List Value :=
  let size := if variadic then max arity arguments.length else arity
  context :: (arguments ++ List.replicate (size - arguments.length) .nil)

/-- The rest of a vector from a position on; `none` if that is beyond its end. -/
def sliceFrom? (vector : List Value) (start : Nat) : Option (List Value) :=
  if start ≤ vector.length then some (vector.drop start) else none

/-- A new scope whose frame holds the parameters of the code, with context and arguments read out of
    a vector by position; `none` if a position is out of range. -/
def openVector? (code : Code) (vector : List Value) (self : Value) (outer : Option FrameId) :
    Action (Option Opened) := do
  match vector[0]?, sliceFrom? vector 1 with
  | some context, some rest =>
    let frame ← Action.updateStore (·.addFrame
      { kind := .activation
        context := context
        vars := .ofList (code.parameters.zip rest)
        outer := outer })
    return some ⟨code, ← Action.updateStore (·.addLocals { self := self, frame := frame })⟩
  | _, _ => return none

/-- The vector is the context and the inputs. -/
theorem argumentVector_eq (context : Value) (arity : Nat) (variadic : Bool)
    (arguments : List Value) :
    argumentVector context arity variadic arguments = context :: padTo arity arguments := by
  have size : (if variadic then max arity arguments.length else arity) - arguments.length
      = arity - arguments.length := by
    split <;> omega
  rw [argumentVector, padTo, size]

/-- Neither the position of the context nor the start of the arguments is out of range. -/
theorem openVector?_eq (code : Code) (context : Value) (variadic : Bool) (arguments : List Value)
    (self : Value) (outer : Option FrameId) :
    openVector? code (argumentVector context code.arity variadic arguments) self outer
      = some <$> openScope code arguments self context outer := by
  rw [argumentVector_eq, openVector?, openScope]
  have first : (context :: padTo code.arity arguments)[0]? = some context := rfl
  have rest : sliceFrom? (context :: padTo code.arity arguments) 1
      = some (padTo code.arity arguments) := if_pos (by simp)
  rw [first, rest]
  simp only [map_bind, map_pure]

namespace Activation

/-- The opening of the scope for code with a body. -/
def opening? (activation : Activation) : Option (Action Opened) :=
  match activation.code with
  | .primitive _ => none
  | .function id => some (activation.openFunction id)
  | .block id => some (activation.openBlock id)
  | .method id => some (activation.openMethod id)

/-- The same, with the arguments put into a vector and read by position; the answer is `none` if a
    position is out of range. -/
def openingByPosition? (activation : Activation) : Option (Action (Option Opened)) :=
  match activation.code with
  | .primitive _ => none
  | .function id => some do
    let code := (← Action.store).function id
    let vector := argumentVector activation.receiver code.arity false activation.arguments
    openVector? code vector (.object lobbyObject) none
  | .block id => some do
    let block := (← Action.store).block id
    let context ← activation.blockContext block
    let vector := argumentVector context block.code.arity false activation.arguments
    let home := (← Action.store).scope block.sender
    openVector? block.code vector home.self (some home.frame)
  | .method id => some do
    let method := (← Action.store).method id
    let context ← activation.methodContext method
    let vector := argumentVector context method.code.arity false activation.arguments
    openVector? method.code vector activation.receiver method.outer

/-- No position is out of range, and what is opened is the same; a built-in gets the vector. -/
structure ReadInRange (activation : Activation) : Prop where
  opening : activation.openingByPosition? = activation.opening?.map (some <$> ·)
  invocation (builtIn : Primitive) :
    argumentVector activation.receiver builtIn.signature.inputs builtIn.signature.variadic
        activation.arguments
      = (activation.invocation builtIn).receiver :: (activation.invocation builtIn).inputs

theorem readInRange (activation : Activation) : activation.ReadInRange where
  opening := by
    rw [openingByPosition?, opening?]
    cases activation.code with
    | primitive builtIn => rfl
    | function id | block id | method id =>
      simp only [openVector?_eq, Option.map_some, openFunction, openBlock, openMethod, map_bind]
  invocation builtIn := argumentVector_eq ..

theorem enter_of_opening {activation : Activation} {action : Action Opened}
    (opens : activation.opening? = some action) :
    activation.enter = Script.ofAction action >>= runBody := by
  rw [opening?] at opens
  rw [enter]
  cases code : activation.code with
  | primitive builtIn =>
    rw [code] at opens
    cases opens
  | function id | block id | method id =>
    rw [code] at opens
    obtain rfl := Option.some.inj opens
    rfl

end Activation

/-! ### The scope of a body -/

namespace Store

/-- What code with a body is made of. -/
def codeOf? (store : Store) : Invokable → Option Code
  | .primitive _ => none
  | .function id => some (store.function id)
  | .block id => some (store.block id).code
  | .method id => some (store.method id).code

/-- The reference leads to code. -/
def HasCode (store : Store) : Invokable → Prop
  | .primitive _ => True
  | .function id => id.index < store.functions.size
  | .block id => id.index < store.blocks.size
  | .method id => id.index < store.methods.size

variable {store after : Store} {code : Invokable}

/-- Code stays what it is. -/
theorem Evolves.same_code (evolves : store.Evolves after) (hasCode : store.HasCode code) :
    after.codeOf? code = store.codeOf? code ∧ after.arity code = store.arity code := by
  cases code with
  | primitive => exact ⟨rfl, rfl⟩
  | function id => simp only [codeOf?, arity, evolves.function hasCode, and_self]
  | block id => simp only [codeOf?, arity, evolves.block hasCode, and_self]
  | method id => simp only [codeOf?, arity, evolves.method hasCode, and_self]

/-- The scope was opened for a body of the code: its frame is new, and has the parameters of the
    code for variables. -/
structure OpenedFor (before after : Store) (scope : LocalsId) (code : Code)
    (arguments : List Value) : Prop where
  frame : (after.scope scope).frame = ⟨before.frames.size⟩
  count : after.frames.size = before.frames.size + 1
  vars : (after.frame ⟨before.frames.size⟩).vars
    = .ofList (code.parameters.zip (padTo code.arity arguments))

end Store

/-- A scope is opened at a moment with the same frames. -/
theorem openScope_openedFor {code : Code} {arguments : List Value} {self context : Value}
    {outer : Option FrameId} {before between : Engine}
    (frames : between.store.frames = before.store.frames) :
    ∃ scope after,
      (openScope code arguments self context outer).on between = (.ok ⟨code, scope⟩, after)
        ∧ before.store.OpenedFor after.store scope code arguments := by
  let frame : Frame :=
    { kind := .activation
      context := context
      vars := .ofList (code.parameters.zip (padTo code.arity arguments))
      outer := outer }
  have size := congrArg Array.size frames
  refine ⟨⟨between.store.locals.size⟩, { between with store := between.store.opened self frame },
    rfl, ?_, ?_, ?_⟩
  · show ((between.store.opened self frame).scope ⟨between.store.locals.size⟩).frame = _
    rw [Store.scope_opened, size]
  · show (between.store.opened self frame).frames.size = _
    rw [Store.size_frames_opened, size]
  · show ((between.store.opened self frame).frame ⟨before.store.frames.size⟩).vars = _
    rw [Store.frame_opened, if_pos size.symm]

namespace Activation

variable {activation : Activation} {before : Engine}

/-- The context of a block is made without making frames. -/
theorem blockContext_on (block : Block) (before : Engine) :
    ∃ context between, (activation.blockContext block).on before = (.ok context, between)
      ∧ between.store.frames = before.store.frames := by
  rw [blockContext]
  split
  · exact ⟨_, _, rfl, rfl⟩
  · exact ⟨_, _, rfl, rfl⟩

/-- The context of a method is made without making frames. -/
theorem methodContext_on (method : Method) (before : Engine) :
    ∃ context between, (activation.methodContext method).on before = (.ok context, between)
      ∧ between.store.frames = before.store.frames := by
  rw [methodContext]
  split
  · exact ⟨_, _, rfl, rfl⟩
  · exact ⟨_, _, rfl, rfl⟩

/-- Code with a body opens a scope for it. -/
theorem opens_body {written : Code} (same : before.store.codeOf? activation.code = some written) :
    ∃ action scope after, activation.opening? = some action
      ∧ action.on before = (.ok ⟨written, scope⟩, after)
      ∧ before.store.OpenedFor after.store scope written activation.arguments := by
  rw [opening?]
  cases code : activation.code with
  | primitive builtIn => exact nomatch code ▸ same
  | function id =>
    rw [code] at same
    obtain rfl := Option.some.inj same
    obtain ⟨scope, after, opens, facts⟩ := openScope_openedFor rfl
    exact ⟨_, scope, after, rfl, opens, facts⟩
  | block id =>
    rw [code] at same
    obtain rfl := Option.some.inj same
    obtain ⟨context, between, makes, frames⟩ :=
      activation.blockContext_on (before.store.block id) before
    obtain ⟨scope, after, opens, facts⟩ := openScope_openedFor frames
    refine ⟨_, scope, after, rfl, ?_, facts⟩
    rw [openBlock, Action.on_store_bind, Action.on_bind, makes]
    dsimp only
    rw [Action.on_store_bind]
    exact opens
  | method id =>
    rw [code] at same
    obtain rfl := Option.some.inj same
    obtain ⟨context, between, makes, frames⟩ :=
      activation.methodContext_on (before.store.method id) before
    obtain ⟨scope, after, opens, facts⟩ := openScope_openedFor frames
    refine ⟨_, scope, after, rfl, ?_, facts⟩
    rw [openMethod, Action.on_store_bind, Action.on_bind, makes]
    exact opens

end Activation

/-! ### Parameters -/

/-- Each parameter has the argument in its place for its value, or nil if there is none. -/
theorem zip_padTo (parameters : List Text) (values : List Value) :
    parameters.zip (padTo parameters.length values)
      = parameters.mapIdx fun position parameter => (parameter, values.getD position .nil) := by
  refine List.ext_getElem (by simp [padTo]; omega) fun position inside inside' => ?_
  rw [List.getElem_zip, List.getElem_mapIdx]
  congr 1
  by_cases given : position < values.length
  · simp [padTo, given]
  · simp [padTo, List.getElem_append, given]

/-- A body of code with different parameters starts with these for its variables. -/
theorem Store.OpenedFor.entries {before after : Store} {scope : LocalsId} {code : Code}
    {arguments : List Value} (opened : before.OpenedFor after scope code arguments)
    (distinct : code.parameterNames.Nodup) :
    (after.frame ⟨before.frames.size⟩).vars.entries
      = code.parameters.mapIdx fun position parameter =>
          (parameter, arguments.getD position .nil) := by
  have names : ((code.parameters.zip (padTo code.arity arguments)).map
      fun entry => entry.1.content) = code.parameterNames := by
    show (code.parameters.zip (padTo code.arity arguments)).map (Text.content ∘ Prod.fst) = _
    rw [← List.map_map, List.map_fst_zip (by simp [padTo, Code.arity]; omega)]
    rfl
  rw [opened.vars, Table.entries_ofList (names ▸ distinct), Code.arity, zip_padTo]

/-! ### The start of a body -/

namespace Activation

variable {activation : Activation} {before : Engine}

/-- The moment at which the body of the code starts. -/
theorem enter_reaches_body {written : Code}
    (same : before.store.codeOf? activation.code = some written) :
    ∃ scope next start,
      activation.enter.Reaches before [] (.ask (.eval written.body scope) next) start
      ∧ before.store.OpenedFor start.store scope written activation.arguments := by
  obtain ⟨action, scope, start, opens, opened, facts⟩ := opens_body same
  rw [enter_of_opening opens]
  exact ⟨scope, _, start, .afterAct opened .here, facts⟩

end Activation

section Starts

variable {scope : LocalsId} {receiver found slotContext : Value} {name : Text}
  {location : Option Location} {nodes : List Node} {before between : Engine} {code : Invokable}
  {asked : List Answered} {values : List Value}

/-- Where all arguments have values, the code is entered. -/
theorem writtenSend_reaches (runs : found.invokable? = some code)
    (hasCode : before.store.HasCode code) (takes : before.store.Takes code nodes.length)
    (all : Node.AllEvaluated scope nodes before asked values between)
    (room : before.depth < before.config.maxDepth) {rest : Script Value} {state : Engine}
    (inner : (activationOf scope receiver slotContext name location nodes code values).enter.Reaches
      between.deeper [] rest state) :
    (writtenSend scope receiver found slotContext name location nodes).Reaches before
      [activationOf scope receiver slotContext name location nodes code values] rest state := by
  let activation := activationOf scope receiver slotContext name location nodes code values
  -- The arguments have changed neither the code nor the room for it.
  have takesThen : between.store.Takes code values.length := by
    rw [Store.Takes, (all.evolves.same_code hasCode).2, all.length_eq]
    exact takes
  have roomThen : between.depth < between.config.maxDepth := by
    obtain ⟨settings, level⟩ := all.depth
    rw [settings, level]
    exact room
  have letIn : activation.refusal? between = none :=
    Activation.refusal?_eq_none_iff.mpr
      ⟨Bool.eq_false_iff.mp (Store.takes_iff.mp takesThen), roomThen⟩
  have entered : (doJob 0 (.enter activation)).Reaches between.deeper [] rest state := inner
  have run : (doJob 0 (.activate activation)).Reaches between [activation] rest state :=
    Activation.run_reaches letIn entered
  rw [writtenSend_of_code runs]
  exact .afterAct (checkArgumentCount_of_takes takes) (all.trace.reaches_bind (.within run))

end Starts

/-- What a built-in does with one use of it. -/
inductive Primitive.Answers (caller : LocalsId) (use : Invocation) :
    Primitive → Script Value → Prop where
  | plain (primitive : PlainPrimitive) :
    Answers caller use (.plain primitive) (Script.ofAction (primitive.run use))
  | perform : Answers caller use .perform (Activation.performByName caller use)
  | callBlock : Answers caller use .callBlock (Activation.callReceiver caller use)
  | callFunction : Answers caller use .callFunction (Activation.callReceiver caller use)

/-- A built-in gets the receiver and the arguments, with nil for the declared ones that are
    missing. -/
theorem Activation.enterPrimitive_answers (activation : Activation) (builtIn : Primitive) :
    builtIn.Answers activation.caller
      { receiver := activation.receiver
        inputs := activation.arguments
          ++ List.replicate (builtIn.signature.inputs - activation.arguments.length) .nil
        message := activation.message }
      (activation.enterPrimitive builtIn) := by
  cases builtIn with
  | plain primitive => exact .plain primitive
  | perform => exact .perform
  | callBlock => exact .callBlock
  | callFunction => exact .callFunction

/-- The script comes to the start of the code of the activation, after the arguments were evaluated.
    A body with different parameters starts in a new frame, which has them for its variables, each
    with the argument in its place, or nil if there is none.  A built-in starts with the receiver
    and the arguments, with nil for the declared ones that are missing. -/
structure Activation.Starts (activation : Activation) (script : Script Value)
    (before between : Engine) : Prop where
  body {written : Code} : before.store.codeOf? activation.code = some written →
    written.parameterNames.Nodup → ∃ scope next start,
      script.Reaches before [activation] (.ask (.eval written.body scope) next) start
        ∧ (start.store.scope scope).frame = ⟨between.store.frames.size⟩
        ∧ (start.store.frame ⟨between.store.frames.size⟩).vars.entries
          = written.parameters.mapIdx fun position parameter =>
              (parameter, activation.arguments.getD position .nil)
  builtIn {builtIn : Primitive} : activation.code = .primitive builtIn → ∃ answering,
    builtIn.Answers activation.caller
        { receiver := activation.receiver
          inputs := activation.arguments
            ++ List.replicate (builtIn.signature.inputs - activation.arguments.length) .nil
          message := activation.message }
        answering
      ∧ script.Reaches before [activation] answering between.deeper

/-- **Arguments.**  What becomes of a value that was found under a name is told by `SendOf`: data is
    the answer; too many arguments are refused, and nothing is evaluated or changed; else the
    arguments are evaluated from left to right, once each, up to the first that unwinds, and if none
    does the code is activated with their values.  Where the limit on the depth allows it, the code
    starts with these values.  No position is out of range where the arguments are read from a
    vector. -/
theorem arguments_follow_one_protocol (scope : LocalsId) (receiver found slotContext : Value)
    (name : Text) (location : Option Location) (nodes : List Node) (before : Engine) :
    (∀ asked outcome after,
        (writtenSend scope receiver found slotContext name location nodes).Trace before asked
            outcome after
          ↔ SendOf scope receiver found slotContext name location nodes before asked outcome after)
      ∧ (∀ code asked values between, found.invokable? = some code → before.store.HasCode code →
        before.store.Takes code nodes.length →
        Node.AllEvaluated scope nodes before asked values between →
        before.depth < before.config.maxDepth →
        (activationOf scope receiver slotContext name location nodes code values).Starts
          (writtenSend scope receiver found slotContext name location nodes) before between)
      ∧ ∀ activation : Activation, activation.ReadInRange := by
  refine ⟨fun _ _ _ => writtenSend_trace_iff, ?_, Activation.readInRange⟩
  intro code asked values between runs hasCode takes all room
  let activation := activationOf scope receiver slotContext name location nodes code values
  constructor
  case body =>
    intro written same distinct
    have same' : between.deeper.store.codeOf? code = some written :=
      (all.evolves.same_code hasCode).1.trans same
    obtain ⟨body, next, start, reached, opened⟩ := activation.enter_reaches_body same'
    exact ⟨body, next, start, writtenSend_reaches runs hasCode takes all room reached, opened.frame,
      opened.entries distinct⟩
  case builtIn =>
    intro builtIn same
    refine ⟨activation.enterPrimitive builtIn, activation.enterPrimitive_answers builtIn,
      writtenSend_reaches runs hasCode takes all room ?_⟩
    rw [Activation.enter, same]
    exact .here

/-- A method that takes two arguments. -/
def pairMethod : Engine :=
  { Engine.new {} with
    store :=
      ((Engine.new {}).store.addMethod ⟨⟨[("x" : Text), ("y" : Text)], .nil, false⟩, none⟩).2 }

/-- Sent with one argument, it starts with nil for the other one; sent with three, none of them is
    evaluated.  A built-in that takes an argument and is sent with none gets nil for it. -/
theorem missing_argument_is_nil :
    (∃ inside scope next start,
        (writtenSend World.moduleLocals .nil (.method ⟨0⟩) .nil "m" none [.integer 1]).Reaches
          pairMethod inside (.ask (.eval .nil scope) next) start
        ∧ (start.store.frame (start.store.scope scope).frame).vars.entries
          = [(("x" : Text), .int 1), (("y" : Text), .nil)])
      ∧ (writtenSend World.moduleLocals .nil (.method ⟨0⟩) .nil "m" none
          [.integer 1, .integer 2, .integer 3]).Trace pairMethod []
          (.error (.ofError (.tooManyArguments "m" 2 3))) pairMethod
      ∧ ∃ inside, (writtenSend World.moduleLocals (.list ⟨0⟩)
          (.primitive (.plain (.list .append))) .nil "append" none []).Reaches pairMethod inside
        (Script.ofAction (ListPrimitive.append.run ⟨.list ⟨0⟩, [.nil], ⟨"append", 0, none⟩⟩))
        pairMethod.deeper := by
  refine ⟨?fewer, ?more, ?builtIn⟩
  case fewer =>
    have all : Node.AllEvaluated World.moduleLocals [.integer 1] pairMethod _ [.int 1] pairMethod :=
      .next ⟨1, rfl⟩ (.none pairMethod)
    have hasCode : pairMethod.store.HasCode (.method ⟨0⟩) := Nat.one_pos
    obtain ⟨-, starts, -⟩ := arguments_follow_one_protocol World.moduleLocals .nil (.method ⟨0⟩)
      .nil "m" none [.integer 1] pairMethod
    have started := starts (.method ⟨0⟩) _ _ _ rfl hasCode (.inr (by decide)) all (by decide)
    obtain ⟨scope, next, start, reached, frame, entries⟩ := started.body rfl (by decide)
    exact ⟨_, scope, next, start, reached, frame ▸ entries⟩
  case more =>
    obtain ⟨traced, -, -⟩ := arguments_follow_one_protocol World.moduleLocals .nil (.method ⟨0⟩)
      .nil "m" none [.integer 1, .integer 2, .integer 3] pairMethod
    have runs : (Value.method ⟨0⟩).invokable? = some (.method ⟨0⟩) := rfl
    have refused := (traced _ _ _).mpr (.tooMany runs rfl (by decide))
    exact refused
  case builtIn =>
    obtain ⟨-, starts, -⟩ := arguments_follow_one_protocol World.moduleLocals (.list ⟨0⟩)
      (.primitive (.plain (.list .append))) .nil "append" none [] pairMethod
    have started := starts _ _ _ _ rfl trivial (.inr (by decide)) (.none pairMethod) (by decide)
    obtain ⟨_, answers, reached⟩ := started.builtIn rfl
    cases answers with
    | plain => exact ⟨_, reached⟩

end SlotTalk
