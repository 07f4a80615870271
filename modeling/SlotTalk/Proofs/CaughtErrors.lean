import SlotTalk.Proofs.ArgumentProtocol
import SlotTalk.Proofs.Backtrace
import SlotTalk.Proofs.Definitions
import SlotTalk.Proofs.FailedSteps

namespace SlotTalk

/-!
# Errors that are caught

An error goes from where it was raised to the handler that catches it without any code being run on
the way.  So the object that a program raised arrives as it was made, and nothing in the store
refers to it.  For an error of the engine's own such an object is made for the handler.

* `Activation.enter_fits_plain` — one built-in alone fails with what a program made.
* `Script.FailsAt.raised` — the moment at which an object was raised.
* `Store.Alone`, `Store.Raised`, `Store.Describes` — what is known of the object for the handler.
* `TryEnds`, `try_is_exact_handler` — how the evaluation of a body with a handler ends.
-/

/-! ### Where errors with a value come from -/

theorem RuntimeError.exists_of_not_plain {error : RuntimeError} (h : ¬ error.Plain) :
    ∃ value text, error = .exception value text := by
  obtain ⟨value, carried⟩ := Classical.not_forall.mp h
  obtain ⟨text, same⟩ := Classical.not_forall.mp carried
  exact ⟨value, text, Classical.not_not.mp same⟩

/-- Scripts whose own actions fail with plain errors. -/
def Shape.plain : Shape where
  acts := Action.FailsPlainly
  asks _ := True
  raises _ := True
  passes _ _ := True

theorem evalNode_fits_plain (passes : Nat) (scope : LocalsId) (node : Node) :
    (evalNode passes scope node).Fits .plain := by
  refine (evalNode_fits passes scope node).mono (fun acts => ?_) (fun _ _ => trivial)
    (fun _ _ => trivial) fun _ _ _ => trivial
  cases acts with
  | ordinary h => exact h.plain
  | readCall => exact fun _ _ _ failed => nomatch failed

namespace Activation

theorem run_fits_plain (activation : Activation) : activation.run.Fits .plain := by
  have descends : descend.FailsPlainly := by
    intro before after error failed
    obtain ⟨-, -, rfl⟩ := descend_error failed
    exact nofun
  have ascends : ascend.FailsPlainly := fun _ _ _ failed => nomatch failed
  rw [run_eq]
  refine ⟨(checkArgumentCount_ordinary ..).plain, fun _ => ⟨descends, fun _ =>
    ⟨trivial, fun outcome => .inl ⟨ascends, fun _ => ?_⟩⟩⟩⟩
  cases activation.leave outcome <;> trivial

/-- All code but the built-in that raises has a script of that kind. -/
theorem enter_fits_plain {activation : Activation} (quiet : ¬ activation.Raises) :
    activation.enter.Fits .plain :=
  activation.enter_fits_of ⟨fun h => h.plain, nofun, fun _ => ⟨trivial, fun _ => trivial⟩⟩
    (fun _ _ => ⟨trivial, fun _ => trivial⟩) fun raises => absurd raises quiet

/-- The use of the built-in that raises. -/
def raiseUse (activation : Activation) : Invocation :=
  activation.invocation (.plain (.exception .raise))

theorem Raises.enter {activation : Activation} (raises : activation.Raises) :
    activation.enter = Script.ofAction (ExceptionPrimitive.run activation.raiseUse .raise) := by
  rw [Activation.enter, raises]
  rfl

end Activation

section Moments

variable {script rest : Script Value} {before state : Engine} {inside : List Activation}

/-- A single action has two moments, before it and after it. -/
theorem Script.Reaches.of_ofAction {action : Action Value}
    (reached : (Script.ofAction action).Reaches before inside rest state) :
    inside = [] ∧ (rest = Script.ofAction action ∧ state = before
      ∨ ∃ answer, rest = .done (.ok answer)) := by
  cases reached with
  | here => exact ⟨rfl, .inl ⟨rfl, rfl⟩⟩
  | afterAct acted later =>
    cases later with
    | here => exact ⟨rfl, .inr ⟨_, rfl⟩⟩

/-- Where an action fails with what a program made, the built-in that raises is running. -/
theorem Script.Reaches.raises {β : Type} {action : Action β} {next : β → Script Value}
    (reached : script.Reaches before inside (.act action next) state)
    (fits : script.Fits .plain) (failing : ¬ action.FailsPlainly) :
    ∃ activation outer, inside = activation :: outer ∧ activation.Raises := by
  generalize same : Script.act action next = rest at reached
  induction reached with
  | here =>
    subst same
    exact absurd fits.1 failing
  | afterAct acted later ih => exact ih (fits.2 _) same
  | afterAsk answered later ih => exact ih (fits.next (fun _ => trivial) _) same
  | @within passes job next' before state inside rest inner ih =>
    -- What runs inside the job runs inside what asked for it.
    have further : (∃ activation outer, inside = activation :: outer ∧ activation.Raises) →
        ∃ activation outer, inside ++ job.entered = activation :: outer ∧ activation.Raises := by
      rintro ⟨activation, outer, rfl, raises⟩
      exact ⟨activation, outer ++ job.entered, List.cons_append .., raises⟩
    cases job with
    | eval node scope => exact further (ih (evalNode_fits_plain passes scope node) same)
    | activate other => exact further (ih other.run_fits_plain same)
    | enter other =>
      by_cases raises : other.Raises
      · have inner' : other.enter.Reaches before inside rest state := inner
        rw [raises.enter] at inner'
        obtain ⟨rfl, -⟩ := inner'.of_ofAction
        exact ⟨other, [], rfl, raises⟩
      · exact further (ih (Activation.enter_fits_plain raises) same)

/-- If a script fails with what a program made, then where an activation of the built-in that raises
    was about to do so. -/
theorem Script.FailsAt.raised {after : Engine} {value : Value} {text : String}
    (fails : script.FailsAt before inside (.exception value text) state after)
    (fits : script.Fits .plain) :
    ∃ activation outer next broken,
      script.Reaches before outer (.ask (.enter activation) next) state
        ∧ script.Reaches before (activation :: outer) activation.enter state
        ∧ activation.Raises
        ∧ (ExceptionPrimitive.run activation.raiseUse .raise).on state
          = (.error (.exception value text), broken)
        ∧ after = { broken with depth := before.depth } := by
  obtain ⟨β, action, next, broken, reached, failed, -, rfl⟩ := fails
  have failing : ¬ action.FailsPlainly := fun plain => plain _ _ _ failed value text rfl
  obtain ⟨activation, outer, rfl, raises⟩ := reached.raises fits failing
  obtain ⟨next', entry, asked, entered⟩ := reached.entered
  rw [raises.enter] at entered
  obtain ⟨-, ⟨same, rfl⟩ | ⟨answer, same⟩⟩ := entered.of_ofAction
  · refine ⟨activation, outer, next', broken, asked, ?_, raises, ?_, rfl⟩
    · rw [raises.enter, ← same]
      exact reached
    · cases same
      exact failed
  · exact nomatch same

end Moments

/-! ### The object for the handler -/

namespace Store

/-- Nothing in the store refers to the object. -/
def Alone (store : Store) (id : ObjectId) : Prop :=
  ∀ {cell : Cell} (other : Ref cell), ¬ store.Points other id

/-- The object is below the one that the receiver stands for, and has the value for its message and
    no other slot. -/
structure Raised (store : Store) (id : ObjectId) (receiver value : Value) : Prop where
  prototype : (store.object id).prototype = some receiver.delegate
  slots : ∃ key : Text, key.content = "message" ∧ (store.object id).slots.entries = [(key, value)]

/-- The object is a clone of the prototype of exceptions that tells what the report says, and has no
    other slot. -/
structure Describes (store : Store) (id : ObjectId) (report : ErrorReport) : Prop where
  prototype : (store.object id).prototype = some Prototype.exception.id
  slots : ∃ (name kind message wording backtrace : Text) (lines : ListId),
    (store.object id).slots.entries
        = [(name, .string kind), (message, .string wording), (backtrace, .list lines)]
      ∧ [name, kind, message, wording, backtrace].map Text.content
        = ["name", report.error.kind, "message", report.error.message, "backtrace"]
      ∧ ∃ texts : List Text, store.list lines = (texts.map Value.string).toArray
        ∧ texts.map Text.content = report.backtrace

end Store

theorem newStrings_on (contents : List String) (engine : Engine) :
    ∃ (texts : List Text) (after : Engine), texts.map Text.content = contents
      ∧ (contents.mapM Action.newString).on engine = (.ok (texts.map .string), after)
      ∧ after.store = engine.store := by
  induction contents generalizing engine with
  | nil => exact ⟨[], engine, rfl, rfl, rfl⟩
  | cons content rest ih =>
    let text : Text := ⟨content, .numbered engine.nextIdentity⟩
    let between : Engine := { engine with nextIdentity := engine.nextIdentity + 1 }
    obtain ⟨texts, after, same, made, store⟩ := ih between
    have first : (Action.newString content).on engine = (.ok (.string text), between) := rfl
    refine ⟨text :: texts, after, congrArg (content :: ·) same, ?_, store⟩
    rw [List.mapM_cons, Action.on_bind, first]
    dsimp only
    rw [Action.on_bind, made]
    rfl

/-- The slots of the object for a plain error, with new texts numbered from `number` on. -/
def exceptionSlots (report : ErrorReport) (number : Nat) (lines : ListId) : List (Text × Value) :=
  [(.numbered "name" number, .string (.numbered report.error.kind (number + 1))),
    (.numbered "message" (number + 2), .string (.numbered report.error.message (number + 3))),
    (.numbered "backtrace" (number + 4), .list lines)]

/-- The object for a plain error. -/
def exceptionObject (report : ErrorReport) (number : Nat) (lines : ListId) : Object where
  prototype := some Prototype.exception.id
  slots := .ofList (exceptionSlots report number lines)

section Objects

variable {report : ErrorReport} {number : Nat} {lines : ListId} {engine : Engine}

theorem entries_exceptionObject :
    (exceptionObject report number lines).slots.entries = exceptionSlots report number lines := by
  refine Table.entries_ofList ?_
  show ["name", "message", "backtrace"].Nodup
  decide

theorem holds_exceptionObject {policy : Policy} (ref : policy.ref lines) :
    policy.HoldsObject (exceptionObject report number lines) where
  prototype := Policy.links_some (policy.shared .exception)
  slots := .ofList (List.forall_mem_cons.mpr ⟨trivial,
    List.forall_mem_cons.mpr ⟨trivial, List.forall_mem_singleton.mpr ref⟩⟩)

theorem exceptionOf_raised {value : Value} {text : String}
    (same : report.error = .exception value text) :
    (exceptionOf report).on engine = (.ok value, engine) := by
  rw [exceptionOf, same]
  rfl

/-- For a plain error a new object is made, and nothing refers to it. -/
theorem exceptionOf_plain (plain : report.error.Plain) (sound : engine.store.Sound) :
    ∃ made, (exceptionOf report).on engine = (.ok (.object ⟨engine.store.objects.size⟩), made)
      ∧ made.store.Describes ⟨engine.store.objects.size⟩ report
      ∧ made.store.Alone ⟨engine.store.objects.size⟩ := by
  obtain ⟨texts, between, same, strings, store⟩ := newStrings_on report.backtrace engine
  rw [← store] at sound ⊢
  let items := (texts.map Value.string).toArray
  let lines : ListId := ⟨between.store.lists.size⟩
  let new := exceptionObject report between.nextIdentity lines
  let made : Engine := { between with
    store := ((between.store.addList items).2.addObject new).2
    nextIdentity := between.nextIdentity + 5 }
  have turned : (exceptionOf report).on engine
      = (.ok (.object ⟨between.store.objects.size⟩), made) := by
    unfold exceptionOf
    split
    next value text raised => exact absurd raised (plain value text)
    next =>
      rw [Action.on_bind, strings]
      rfl
  have itemsHeld : between.store.known.HoldsItems items := by
    intro item mem
    obtain ⟨text, -, rfl⟩ := List.mem_map.mp (List.mem_toArray.mp mem)
    trivial
  obtain ⟨leads, listed⟩ := sound.addList itemsHeld
  have object : made.store.object ⟨between.store.objects.size⟩ = new :=
    (between.store.addList items).2.object_addObject_new new
  have told : (made.store.object ⟨between.store.objects.size⟩).slots.entries
      = exceptionSlots report between.nextIdentity lines := by
    rw [object]
    exact entries_exceptionObject
  have kept : made.store.list lines = items := by
    show (between.store.addList items).2.list lines = items
    rw [Store.list_addList, if_pos rfl]
  exact ⟨made, turned, ⟨congrArg Object.prototype object,
    _, _, _, _, _, lines, told, rfl, texts, kept, same⟩,
    leads.sound.alone_addObject (holds_exceptionObject listed)⟩

end Objects

/-- What is raised arrives as it was made, and alone. -/
theorem Activation.Raises.arrives {activation : Activation} {state broken : Engine} {value : Value}
    {text : String} (sound : state.store.Sound) (known : activation.Known state.store)
    (raised : (ExceptionPrimitive.run activation.raiseUse .raise).on state
      = (.error (.exception value text), broken)) :
    value = .object ⟨state.store.objects.size⟩
      ∧ broken.store.Raised ⟨state.store.objects.size⟩ activation.receiver
        (activation.arguments.headD .nil)
      ∧ broken.store.Alone ⟨state.store.objects.size⟩ := by
  obtain ⟨text', made⟩ := ExceptionPrimitive.raise_on activation.raiseUse state
  obtain ⟨same, rfl⟩ := Prod.mk.inj (raised.symm.trans made)
  obtain ⟨rfl, rfl⟩ := RuntimeError.exception.inj (Except.error.inj same)
  let new := ExceptionPrimitive.raised activation.raiseUse state
  have held : activation.raiseUse.Held state.store.known :=
    Activation.invocation_held known.held _
  have object := state.store.object_addObject_new new
  have value : activation.raiseUse.input 0 = activation.arguments.headD .nil := by
    show (padTo 1 activation.arguments).getD 0 .nil = _
    cases activation.arguments <;> rfl
  refine ⟨rfl, ⟨congrArg Object.prototype object, ?_⟩,
    sound.alone_addObject (ExceptionPrimitive.holds_raised held)⟩
  refine ⟨⟨"message", .numbered state.nextIdentity⟩, rfl, ?_⟩
  show ((state.store.addObject new).2.object _).slots.entries = _
  rw [object, ← value]
  rfl

/-! ### What is caught -/

section Bodies

variable (body : Node) (scope : LocalsId) (before : Engine) (report : ErrorReport)
  (between : Engine)

/-- The object that a handler gets for the report of the body, and the state it gets it in. -/
inductive Caught : ObjectId → Engine → Prop where
  /-- The very object that was raised, by an activation that ran within the body, with the receiver
      and the argument of that. -/
  | raised {activation : Activation} {outer : List Activation} {state : Engine} {text : String}
    (error : report.error = .exception (.object ⟨state.store.objects.size⟩) text)
    (moment : (Script.evaluate (.eval body scope)).Reaches before (activation :: outer)
      activation.enter state)
    (raises : activation.Raises)
    (made : between.store.Raised ⟨state.store.objects.size⟩ activation.receiver
      (activation.arguments.headD .nil)) :
    Caught ⟨state.store.objects.size⟩ between
  /-- An object that is made for an error of the engine's own. -/
  | described {made : Engine} (plain : report.error.Plain)
    (describes : made.store.Describes ⟨between.store.objects.size⟩ report) :
    Caught ⟨between.store.objects.size⟩ made

variable {body scope before report between}

/-- Every error of the body is caught. -/
theorem caught_of_failed (sound : before.store.Sound) (ref : before.store.known.ref scope)
    (failed : Finishes (.eval body scope) before (.error (.failed report)) between) :
    ∃ id made, (exceptionOf report).on between = (.ok (.object id), made)
      ∧ Caught body scope before report between id made
      ∧ before.store.objects.size ≤ id.index ∧ made.store.Alone id := by
  obtain ⟨ended, -⟩ := (soundness_kept before.store).finishes failed ⟨.refl sound, ref⟩
  by_cases plain : report.error.Plain
  · obtain ⟨made, turned, describes, alone⟩ := exceptionOf_plain plain ended.sound
    exact ⟨_, made, turned, .described plain describes, ended.evolves.count .object, alone⟩
  obtain ⟨value, text, error⟩ := RuntimeError.exists_of_not_plain plain
  -- The error is the one of the moment in the body at which it was raised.
  let script := Script.evaluate (.eval body scope)
  have fits : script.Fits ((Node.sequence [body]).shape scope) :=
    .evaluate ((Node.shape_admits (.sequence [body]) scope).evaluates _ List.mem_cons_self)
  have fitsPlain : script.Fits .plain := .evaluate ⟨trivial, fun _ => trivial⟩
  obtain ⟨fuel, ends⟩ := failed
  obtain ⟨inside, state, fails, -⟩ := fits.failsWith (Node.shape_level _ _)
    (evaluator_failsWith fuel) ((Script.run_evaluate _ _ _).trans ends)
  rw [error] at fails
  obtain ⟨activation, outer, next, broken, asked, moment, raises, raised, rfl⟩ :=
    fails.raised fitsPlain
  have preserves : script.Preserves before.store before fun store => store.known.Holds :=
    .evaluate ref
  obtain ⟨post, -, ⟨leads, known⟩, -⟩ :=
    (soundness_kept before.store).reaches asked (preserves (.refl sound))
  obtain ⟨rfl, made, alone⟩ := Activation.Raises.arrives leads.sound known raised
  exact ⟨_, _, exceptionOf_raised error, .raised error moment raises made,
    leads.evolves.count .object, alone⟩

/-! ### Bodies with handlers -/

variable (body scope before)

/-- How the evaluation of a body with a handler for its errors ends, with the jobs that are done. -/
inductive TryEnds (name : Text) (handler : Node) :
    List Answered → Except Unwind Value → Engine → Prop where
  /-- Without an error in the body, all ends with the body. -/
  | passed {outcome : Except Unwind Value} {after : Engine}
    (ended : Finishes (.eval body scope) before outcome after)
    (noError : ∀ report, outcome ≠ .error (.failed report)) :
    TryEnds name handler [⟨.eval body scope, before, outcome, after⟩] outcome after
  /-- After an error in the body the name stands for a new object to which nothing else refers, and
      all ends as the handler does. -/
  | caught {report : ErrorReport} {id : ObjectId} {between made bound after : Engine}
    {outcome : Except Unwind Value}
    (failed : Finishes (.eval body scope) before (.error (.failed report)) between)
    (turned : (exceptionOf report).on between = (.ok (.object id), made))
    (caught : Caught body scope before report between id made)
    (new : before.store.objects.size ≤ id.index) (alone : made.store.Alone id)
    (defined : (Action.defineVariable scope name (.object id)).on made = (.ok (), bound))
    (binds : bound.store.Binds scope name.content (.object id))
    (handled : Finishes (.eval handler scope) bound outcome after) :
    TryEnds name handler
      [⟨.eval body scope, before, .error (.failed report), between⟩,
        ⟨.eval handler scope, bound, outcome, after⟩] outcome after

variable {body scope before} {name : Text} {handler : Node}

section Handlers

variable (sound : before.store.Sound) (takes : before.store.TakesDefinitions scope)
include sound takes

theorem tryCatch_trace_iff {passes : Nat} {asked : List Answered} {outcome : Except Unwind Value}
    {after : Engine} :
    (doJob passes (.eval (.tryCatch body name handler) scope)).Trace before asked outcome after
      ↔ TryEnds body scope before name handler asked outcome after := by
  have ref : before.store.known.ref scope := .inl takes.scope_lt
  constructor
  · intro trace
    obtain ⟨answer, between, rest, rfl, first, later⟩ := Script.Trace.of_answered trace
    match answer with
    | .ok value | .error (.broke value) | .error .continued | .error (.returned value) =>
      cases later with
      | done => exact .passed first fun _ same => nomatch same
    | .error (.failed report) =>
      obtain ⟨id, made, turned, caught, new, alone⟩ := caught_of_failed sound ref first
      -- Up to the definition the scope goes on taking definitions.
      have ended := (Store.kept_evolves before.store).finishes first (.refl _)
      have evolves := (exceptionOf_ordinary report).routine.keeps
        (Store.kept_evolves before.store) ended
      rw [turned] at evolves
      obtain ⟨bound, defined, binds, -⟩ := (takes.evolves evolves).defines name (.object id)
      have handles := (later.of_acted turned).of_acted defined
      obtain ⟨answer, last, rest, rfl, handled, done⟩ := handles.of_answered
      cases done with
      | done => exact .caught first turned caught new alone defined binds handled
  · intro ends
    cases ends with
    | passed ended noError =>
      refine .ask ended ?_
      match outcome with
      | .ok value | .error (.broke value) | .error .continued | .error (.returned value) =>
        exact .done _ after
      | .error (.failed report) => exact absurd rfl (noError report)
    | caught failed turned caught new alone defined binds handled =>
      exact .ask failed (.act turned (.act defined (.evaluated handled)))

/-- **Handlers.**  In a sound store, and in a scope that takes definitions, exactly this becomes of
    a body with a handler.  What is no error passes, and the handler is not run.  An error of any
    kind is caught, however many activations it has left: the name then stands for the object that
    was raised, just as it was made, or for one that tells what the report says; and the handler
    alone decides how all ends. -/
theorem try_is_exact_handler :
    (∀ passes asked outcome after,
      (doJob passes (.eval (.tryCatch body name handler) scope)).Trace before asked outcome after
        ↔ TryEnds body scope before name handler asked outcome after)
      ∧ ∀ outcome after, Finishes (.eval (.tryCatch body name handler) scope) before outcome after
        ↔ ∃ asked, TryEnds body scope before name handler asked outcome after := by
  have traces := fun passes asked outcome after =>
    @tryCatch_trace_iff body scope before name handler sound takes passes asked outcome after
  refine ⟨traces, fun outcome after => ⟨fun ended => ?_, fun ⟨asked, ends⟩ => ?_⟩⟩
  · obtain ⟨passes, asked, trace⟩ := ended.traced
    exact ⟨asked, (traces passes asked outcome after).mp trace⟩
  · exact ((traces 0 asked outcome after).mpr ends).finishes

end Handlers

end Bodies

/-- A body that fails in a new engine: nil can have no slots. -/
theorem failing_definition_is_handled :
    ∃ asked after, TryEnds (.define (some .nil) "x" (.integer 1)) World.moduleLocals
      (Engine.new {}) "e" (.integer 2) asked (.ok (.int 2)) after := by
  have takes : (Engine.new {}).store.TakesDefinitions World.moduleLocals :=
    ⟨by decide, by decide, fun _ => ⟨lobbyObject, rfl, by decide⟩⟩
  have ended : Finishes (.eval (.tryCatch (.define (some .nil) "x" (.integer 1)) "e" (.integer 2))
      World.moduleLocals) (Engine.new {}) (.ok (.int 2)) _ := ⟨3, rfl⟩
  obtain ⟨-, handles⟩ := try_is_exact_handler (World.sound_store _) takes
  obtain ⟨asked, ends⟩ := (handles _ _).mp ended
  exact ⟨asked, _, ends⟩

end SlotTalk
