import SlotTalk.Host
import SlotTalk.Proofs.Depth

namespace SlotTalk

/-!
# Backtraces

The report of an error has one line for each activation that was running when the error was raised,
innermost first.  So the depth at that moment tells the length of the report.

* `Script.FailsAt`, `Script.FailsWith` — the moment at which the error of a report was raised.
* `evaluator_failsWith` — a job fails as its report says.
* `Start` — what an evaluation can be started with.
* `depth_and_backtrace_exact` — the depth at every moment and at the end, and the report of a
  failure.
-/

variable {config : Config}

/-! ### The moment of a failure -/

/-- The script fails with the error at a moment with the given state, while the listed activations
    run.  Nothing happens after that but that these are left. -/
def Script.FailsAt (script : Script Value) (before : Engine) (inside : List Activation)
    (error : RuntimeError) (state after : Engine) : Prop :=
  ∃ (β : Type) (action : Action β) (next : β → Script Value) (broken : Engine),
    script.Reaches before inside (.act action next) state
      ∧ action.on state = (.error error, broken)
      ∧ state.depth = before.depth + inside.length
      ∧ after = { broken with depth := before.depth }

/-- The report tells the error and what was running when it was raised. -/
def Script.FailsWith (script : Script Value) (before : Engine) (report : ErrorReport)
    (after : Engine) : Prop :=
  ∃ inside state, script.FailsAt before inside report.error state after
    ∧ report.backtrace = inside.map Activation.entry

namespace Script.FailsWith

variable {before between after : Engine} {report : ErrorReport}

/-- What is a moment of the rest is one of the whole. -/
theorem of_reaches {x y : Script Value} (level : between.depth = before.depth)
    (moments : ∀ inside rest state, y.Reaches between inside rest state →
      x.Reaches before inside rest state)
    (h : y.FailsWith between report after) : x.FailsWith before report after := by
  obtain ⟨inside, state, ⟨β, action, next, broken, reached, failed, depth, ended⟩, trace⟩ := h
  rw [level] at depth ended
  exact ⟨inside, state, ⟨β, action, next, broken, moments _ _ _ reached, failed, depth, ended⟩,
    trace⟩

theorem afterAct {β : Type} {action : Action β} {next : β → Script Value} {answer : β}
    (acted : action.on before = (.ok answer, between)) (level : between.depth = before.depth)
    (h : (next answer).FailsWith between report after) :
    (act action next).FailsWith before report after :=
  h.of_reaches level fun _ _ _ => .afterAct acted

theorem afterAsk {job : Job} {next : Except Unwind Value → Script Value}
    {outcome : Except Unwind Value} (answered : Finishes job before outcome between)
    (level : between.depth = before.depth)
    (h : (next outcome).FailsWith between report after) :
    (ask job next).FailsWith before report after :=
  h.of_reaches level fun _ _ _ => .afterAsk answered

/-- The error of a job that is no entered code is handed on as it is. -/
theorem within {passes : Nat} {job : Job} {next : Except Unwind Value → Script Value}
    (outside : job.entered = []) (h : (doJob passes job).FailsWith before report after) :
    (ask job next).FailsWith before report after := by
  refine h.of_reaches rfl fun inside rest state reached => ?_
  have same : inside ++ job.entered = inside := by rw [outside, List.append_nil]
  exact same ▸ .within reached

end Script.FailsWith

/-- With so much fuel, what a job does fails as its report says. -/
def TellsFailures (fuel : Nat) : Prop :=
  ∀ job before report after, evaluator fuel job before = some (.error (.failed report), after) →
    ∃ passes, (doJob passes job).FailsWith before report after

/-- A script that does not touch the depth itself fails with a fresh error, or with the report of a
    job. -/
theorem Script.Fits.failsWith {shape : Shape} (level : shape.Level) {fuel : Nat}
    (jobs : TellsFailures fuel) {x : Script Value} (fits : x.Fits shape) {before after : Engine}
    {report : ErrorReport}
    (ends : x.run (evaluator fuel) before = some (.error (.failed report), after)) :
    x.FailsWith before report after := by
  -- The moment of the failure is where the script stops, or lies within the job that stops it.
  induction x generalizing before with
  | done outcome =>
    obtain ⟨rfl, rfl⟩ := Prod.mk.inj (Option.some.inj ends)
    exact absurd fits (level.raises report)
  | outOfFuel => exact nomatch ends
  | act action next ih =>
    obtain ⟨depth, -⟩ := level.acts fits.1 before
    rw [Script.run] at ends
    split at ends
    next answer between acted =>
      rw [acted] at depth
      exact .afterAct acted depth (ih answer (fits.2 answer) ends)
    next error broken failed =>
      rw [failed] at depth
      obtain ⟨same, rfl⟩ := Prod.mk.inj (Option.some.inj ends)
      obtain rfl := Unwind.failed.inj (Except.error.inj same)
      have unchanged : broken = { broken with depth := before.depth } := by rw [← depth]
      exact ⟨[], before, ⟨_, action, next, broken, .here, failed, rfl, unchanged⟩, rfl⟩
  | ask job next ih =>
    rw [Script.run] at ends
    split at ends
    next outcome between answered =>
      obtain ⟨-, depth⟩ := depth_of_finishes ⟨fuel, answered⟩
      rcases fits.2 outcome with fits' | ⟨unwind, rfl, -, handed⟩
      · exact .afterAsk ⟨fuel, answered⟩ depth (ih outcome fits' ends)
      · rw [handed] at ends
        obtain ⟨same, rfl⟩ := Prod.mk.inj (Option.some.inj ends)
        obtain rfl := Except.error.inj same
        obtain ⟨passes, inner⟩ := jobs job before report _ answered
        exact .within (level.asks job fits.1) inner
    next => cases ends

namespace Activation

variable {activation : Activation} {before after : Engine} {error : RuntimeError}
  {report : ErrorReport}

/-- An activation that is not let in fails before it counts. -/
theorem refused_failsWith (h : activation.Refuses before error) :
    activation.run.FailsWith before { error } before := by
  cases h with
  | arguments many =>
    have failed := checkArgumentCount_on activation.code activation.message.name.content
      activation.arguments.length before
    rw [if_pos many] at failed
    exact ⟨[], before, ⟨_, _, _, before, .here, failed, rfl, rfl⟩, rfl⟩
  | depth fits full =>
    have checked := checkArgumentCount_on activation.code activation.message.name.content
      activation.arguments.length before
    rw [if_neg fits] at checked
    have failed := descend_on before
    rw [if_pos full] at failed
    exact .afterAct checked rfl ⟨[], before, ⟨_, _, _, before, .here, failed, rfl, rfl⟩, rfl⟩

/-- An activation adds its line to the report of its code. -/
theorem entered_failsWith
    (fits : ¬ before.store.tooMany activation.code activation.arguments.length)
    (room : before.depth < before.config.maxDepth) {passes : Nat}
    (h : (doJob passes (.enter activation)).FailsWith before.deeper report after) :
    activation.run.FailsWith before (report.push activation.entry) after.shallower := by
  obtain ⟨inside, state, ⟨γ, last, rest, broken, reached, failed, depth, rfl⟩, trace⟩ := h
  refine ⟨inside ++ [activation], state, ⟨γ, last, rest, broken, ?_, failed, ?_, ?_⟩, ?_⟩
  · exact run_reaches (refusal?_eq_none_iff.mpr ⟨fits, room⟩) reached
  · rw [depth, Engine.depth_deeper, List.length_append, List.length_singleton]
    omega
  · rfl
  · rw [ErrorReport.push, trace, List.map_append]
    rfl

end Activation

/-- **Failures.** What a job does fails as its report says: a fresh error has no lines, and each
    activation that it leaves adds one at the end. -/
theorem evaluator_failsWith (fuel : Nat) : TellsFailures fuel := by
  induction fuel with
  | zero => exact fun _ _ _ _ ends => nomatch ends
  | succ fuel ih =>
    intro job before report after ends
    refine ⟨fuel, ?_⟩
    cases job with
    | eval node scope =>
      exact (evalNode_fits fuel scope node).failsWith (node.shape_level scope) ih ends
    | enter activation =>
      exact activation.enter_fits.failsWith Activation.shape_level ih ends
    | activate activation =>
      rcases Activation.run_fails ends with ⟨error, refused, rfl, rfl⟩ | ⟨fits, free, entered⟩
      · exact Activation.refused_failsWith refused
      · obtain ⟨inner, between, answered, rfl, rfl⟩ := entered
        obtain ⟨passes, failed⟩ := ih (.enter activation) before.deeper inner between answered
        exact Activation.entered_failsWith fits free failed

/-- The moment of a failure bounds the length of the report, and an overflow happens just at the
    limit. -/
theorem Script.FailsWith.length {script : Script Value} {before after : Engine}
    {report : ErrorReport} {post : Except Unwind Value → Engine → Prop}
    (keeps : script.Keeps (depthContract config) before post)
    (h : script.FailsWith before report after) :
    report.backtrace.length ≤ config.maxDepth - before.depth
      ∧ ∀ limit, report.error = .stackOverflow limit →
        limit = config.maxDepth ∧ report.backtrace.length = config.maxDepth - before.depth := by
  obtain ⟨inside, state, ⟨γ, last, rest, broken, reached, failed, depth, -⟩, trace⟩ := h
  obtain ⟨post', safe, allowed, -⟩ := (depth_kept config).reaches reached keeps
  have lines : report.backtrace.length = inside.length := by rw [trace, List.length_map]
  have within : state.depth ≤ config.maxDepth := safe.2
  refine ⟨by omega, fun limit overflow => ?_⟩
  rw [overflow] at failed
  obtain ⟨same, full⟩ := allowed limit broken failed
  exact ⟨same, by omega⟩

/-! ### Whole evaluations -/

/-- What an evaluation can be started with. -/
inductive Start where
  | eval (node : Node) (scope : LocalsId)
  | send (scope : LocalsId) (receiver : Value) (message : Message) (arguments : List Node)
  | sendImplicit (scope : LocalsId) (message : Message) (arguments : List Node)
  | activate (scope : LocalsId) (receiver found slotContext : Value) (message : Message)
    (arguments : List Node)
  | invoke (activation : Activation)
  /-- A message from the host. -/
  | perform (receiver : Value) (name : String) (arguments : List Value)

/-- The script of an evaluation. -/
def Start.script : Start → Script Value
  | .eval node scope => .evaluate (.eval node scope)
  | .send scope receiver message arguments => SlotTalk.send scope receiver message arguments
  | .sendImplicit scope message arguments => SlotTalk.sendImplicit scope message arguments
  | .activate scope receiver found slotContext message arguments =>
    SlotTalk.activate scope receiver found slotContext message arguments
  | .invoke activation => .evaluate (.activate activation)
  | .perform receiver name arguments => Engine.sendFromHost receiver name arguments

theorem sendFromHost_fits {shape : Shape} {scope : LocalsId} (h : shape.Admits scope [])
    (receiver : Value) (name : String) (arguments : List Value) :
    (Engine.sendFromHost receiver name arguments).Fits shape := by
  refine .bind (.ofAction (h.ordinary (.findOn ..))) fun found => ?_
  cases found with
  | none => exact .ofAction (h.ordinary (.fail nofun nofun))
  | some found =>
    dsimp only
    split
    · trivial
    · exact .evaluate (h.activates _)

/-- Whatever is started does what the arguments of a send may do. -/
theorem Start.script_fits (start : Start) :
    ∃ shape : Shape, shape.Level ∧ start.script.Fits shape := by
  -- A sequence of nodes has just these nodes evaluated.
  have admits : ∀ (nodes : List Node) (scope : LocalsId),
      ((Node.sequence nodes).shape scope).Admits scope nodes :=
    fun nodes scope => Node.shape_admits (.sequence nodes) scope
  have level : ∀ (nodes : List Node) (scope : LocalsId),
      ((Node.sequence nodes).shape scope).Level := fun _ _ => Node.shape_level ..
  cases start with
  | eval node scope =>
    exact ⟨_, level [node] scope, .evaluate ((admits [node] scope).evaluates _ List.mem_cons_self)⟩
  | send scope receiver message arguments =>
    exact ⟨_, level arguments scope, send_fits (admits arguments scope) receiver message⟩
  | sendImplicit scope message arguments =>
    exact ⟨_, level arguments scope, sendImplicit_fits (admits arguments scope) message⟩
  | activate scope receiver found slotContext message arguments =>
    exact ⟨_, level arguments scope, activate_fits (admits arguments scope) ..⟩
  | invoke activation =>
    exact ⟨_, level [] activation.caller, .evaluate ((admits [] activation.caller).activates _)⟩
  | perform receiver name arguments =>
    exact ⟨_, level [] World.moduleLocals, sendFromHost_fits (admits [] World.moduleLocals) ..⟩

/-- The failure of an activation, as it is seen from its code. -/
theorem activate_fails {activation : Activation} {before after : Engine} {report : ErrorReport}
    (ends : Finishes (.activate activation) before (.error (.failed report)) after) :
    (∃ error, activation.Refuses before error ∧ report = { error } ∧ after = before)
      ∨ ∃ inner between, Finishes (.enter activation) before.deeper (.error (.failed inner)) between
        ∧ report = inner.push activation.entry ∧ after = between.shallower := by
  obtain ⟨fuel, ends⟩ := ends
  cases fuel with
  | zero => exact nomatch ends
  | succ fuel =>
    rcases Activation.run_fails ends with refused | ⟨-, -, inner, between, answered, ended⟩
    · exact .inl refused
    · exact .inr ⟨inner, between, ⟨fuel, answered⟩, ended⟩

/-- The line of an activation tells the kind of its receiver, the name of its message and, where it
    is known, the place of the message as line and column. -/
theorem Activation.entry_text (activation : Activation) :
    (activation.message.location = none →
        activation.entry
          = activation.receiver.type.text ++ " " ++ activation.message.name.content)
      ∧ ∀ line column, activation.message.location = some ⟨line, column⟩ →
        activation.entry = activation.receiver.type.text ++ " " ++ activation.message.name.content
          ++ " (" ++ toString line ++ ":" ++ toString column ++ ")" := by
  constructor
  · intro nowhere
    rw [entry, nowhere]
  · intro line column place
    rw [entry, place]
    simp [Location.text, String.append_assoc, toString]

/-- **Depth.** From a state that keeps to the limit, the depth keeps to it at every moment of an
    evaluation, and is as it was at the end.  The report of an error has one line for each
    activation that ran when the error was raised, so many at most as there was room for, and that
    many if they were nested too deep.  An activation adds its own line at the end and changes
    nothing else; the line tells the kind of the receiver, the name of the message and the place of
    it.  A whole program, failed or not, leaves all the room there was. -/
theorem depth_and_backtrace_exact (start : Start) (before : Engine)
    (room : before.depth ≤ before.config.maxDepth) :
    (∀ inside rest state, start.script.Reaches before inside rest state →
        state.depth ≤ before.config.maxDepth)
      ∧ (∀ outcome after, start.script.Ends before outcome after →
        after.depth = before.depth ∧ after.config = before.config
          ∧ ∀ report, outcome = .error (.failed report) →
            start.script.FailsWith before report after
              ∧ report.backtrace.length ≤ before.config.maxDepth - before.depth
              ∧ ∀ limit, report.error = .stackOverflow limit → limit = before.config.maxDepth
                ∧ report.backtrace.length = before.config.maxDepth - before.depth)
      ∧ (∀ activation report after,
        Finishes (.activate activation) before (.error (.failed report)) after →
        (∃ error, activation.Refuses before error ∧ report = { error } ∧ after = before)
          ∨ ∃ inner between,
            Finishes (.enter activation) before.deeper (.error (.failed inner)) between
              ∧ report = ⟨inner.error, inner.backtrace ++ [activation.entry]⟩
              ∧ after = between.shallower)
      ∧ (∀ activation : Activation,
        (activation.message.location = none →
          activation.entry
            = activation.receiver.type.text ++ " " ++ activation.message.name.content)
        ∧ ∀ line column, activation.message.location = some ⟨line, column⟩ →
          activation.entry = activation.receiver.type.text ++ " " ++ activation.message.name.content
            ++ " (" ++ toString line ++ ":" ++ toString column ++ ")")
      ∧ ∀ fuel program result after, before.run fuel program = some (result, after) →
        after.depth = before.depth ∧ after.config = before.config := by
  obtain ⟨shape, level, fits⟩ := start.script_fits
  have keeps := depth_kept_of_fits level fits rfl room
  refine ⟨?moments, ?ends, fun _ _ _ => activate_fails, Activation.entry_text,
    fun _ _ _ _ ends => ?run⟩
  case moments =>
    intro inside rest state reached
    obtain ⟨post, kept⟩ := (depth_kept before.config).reaches reached keeps
    exact kept.always.2
  case ends =>
    intro outcome after ends
    obtain ⟨settings, depth⟩ := (depth_kept before.config).ends keeps ends
    refine ⟨depth, settings, ?_⟩
    rintro report rfl
    obtain ⟨fuel, ends⟩ := ends
    have failed := fits.failsWith level (evaluator_failsWith fuel) ends
    exact ⟨failed, failed.length keeps⟩
  case run => exact (depth_of_run ends).symm

/-- A state with room for one activation, and a function with a `break` that finds no loop. -/
def roomForOne : Engine where
  config := { maxDepth := 1 }
  store := { functions := #[⟨[], .breakLoop none, false⟩] }

/-- An activation of that function. -/
def breakingCall : Activation where
  caller := ⟨0⟩
  code := .function ⟨0⟩
  receiver := .nil
  slotContext := .nil
  message := ⟨"run", 0, some ⟨3, 7⟩⟩
  arguments := []

/-- The report of the misplaced `break` has the line of the one activation, and the room is back. -/
theorem breaking_call_is_reported :
    ∃ after, (Start.invoke breakingCall).script.Ends roomForOne
        (.error (.failed ⟨.signalOutsideLoop "break", ["Nil run (3:7)"]⟩)) after
      ∧ after.depth = 0
      ∧ (Start.invoke breakingCall).script.FailsWith roomForOne
        ⟨.signalOutsideLoop "break", ["Nil run (3:7)"]⟩ after := by
  have room : roomForOne.depth ≤ roomForOne.config.maxDepth := by decide
  obtain ⟨-, ends, -, texts, -⟩ :=
    depth_and_backtrace_exact (.invoke breakingCall) roomForOne room
  have line : breakingCall.entry = "Nil run (3:7)" := (texts breakingCall).2 3 7 rfl
  rw [← line]
  refine ⟨_, ⟨3, rfl⟩, ?_⟩
  obtain ⟨depth, -, reported⟩ := ends _ _ ⟨3, rfl⟩
  exact ⟨depth, (reported _ rfl).1⟩

end SlotTalk
