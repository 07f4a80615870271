import SlotTalk.Proofs.CallContext
import SlotTalk.Proofs.Signals
import SlotTalk.Proofs.SlotUpdate

namespace SlotTalk

/-!
# Blocks are anchored where they were written

A block runs with the `self` of the scope it was written in, and its free names stand for what they
stand for there.  Neither the receiver it is found on nor the scope that calls it has a say: the
receiver is kept as the context of the new frame if the body does not ask for its call, and then no
one reads it.

* `Activation.redirected` — the same activation on another receiver, from another scope.
* `openBlock_redirected` — both open the same scope, up to the context of its frame.
* `openBlock_anchored`, `enter_reaches_anchored` — what `self` and the free names are in that scope,
  and that the body is evaluated in it.
* `Message.AlikeBut` — outcomes that are the same but for the kind of the receiver in the last line
  of a report.
* `block_is_anchored` — both end alike.
-/

/-! ### The scope of a body -/

/-- The frames that the scope and other frames name exist. -/
structure Store.FramesExist (store : Store) (scope : LocalsId) : Prop where
  own : (store.scope scope).frame.index < store.frames.size
  outer : ∀ id next, (store.frame id).outer = some next → next.index < store.frames.size

namespace Table

variable {α : Type}

/-- A key that none of the entries has is not in their table. -/
theorem find?_ofList_of_not_mem {name : String} {entries : List (Text × α)}
    (absent : name ∉ entries.map fun entry => entry.1.content) :
    (ofList entries).find? name = none := by
  have grown : ∀ (table : Table α), table.find? name = none →
      (entries.foldl (fun table entry => table.put entry.1 entry.2) table).find? name = none := by
    induction entries with
    | nil => exact fun _ absent => absent
    | cons entry rest ih =>
      intro table missing
      simp only [List.map_cons, List.mem_cons, not_or] at absent
      refine ih absent.2 (table.put entry.1 entry.2) ?_
      rw [find?_put, if_neg (Ne.symm absent.1), missing]
  exact grown empty rfl

end Table

/-- The frame of a body holds the parameters of its code and no other names. -/
theorem find?_parameters_of_not_mem {code : Code} {arguments : List Value} {name : String}
    (free : name ∉ code.parameterNames) :
    (Table.ofList (code.parameters.zip (padTo code.arity arguments))).find? name = none := by
  refine Table.find?_ofList_of_not_mem fun mem => free ?_
  obtain ⟨⟨text, value⟩, zipped, rfl⟩ := List.mem_map.mp mem
  exact List.mem_map.mpr ⟨text, (List.of_mem_zip zipped).1, rfl⟩

namespace Store

/-- The store in which a body starts: a new frame, and a new scope on it. -/
def opened (store : Store) (self : Value) (frame : Frame) : Store :=
  ((store.addFrame frame).2.addLocals { self := self, frame := ⟨store.frames.size⟩ }).2

variable {store : Store} {self : Value} {frame : Frame}

theorem scope_opened :
    (store.opened self frame).scope ⟨store.locals.size⟩
      = { self := self, frame := ⟨store.frames.size⟩ } :=
  scope_addLocals_new (store.addFrame frame).2 _

theorem frame_opened (id : FrameId) :
    (store.opened self frame).frame id
      = if id.index = store.frames.size then frame else store.frame id :=
  frame_addFrame store frame id

theorem size_frames_opened : (store.opened self frame).frames.size = store.frames.size + 1 :=
  Array.size_push ..

/-- A walk along frames that existed before does not come to the new one. -/
theorem definingFrameWithin_opened {start : FrameId} (name : String) (steps : Nat)
    (inFrames : start.index < store.frames.size)
    (outer : ∀ id next, (store.frame id).outer = some next → next.index < store.frames.size) :
    (store.opened self frame).definingFrameWithin name steps start
      = store.definingFrameWithin name steps start := by
  induction steps generalizing start with
  | zero => rfl
  | succ steps ih =>
    have same : (store.opened self frame).frame start = store.frame start := by
      rw [frame_opened, if_neg (Nat.ne_of_lt inFrames)]
    rw [definingFrameWithin, definingFrameWithin, same]
    split
    · rfl
    · split
      next next up => exact ih (outer start next up)
      next => rfl

/-- A name that the new frame does not hold stands for the same place as in the scope around it. -/
theorem resolve_opened {scope : LocalsId} {name : String} (known : store.FramesExist scope)
    (encloses : frame.outer = some (store.scope scope).frame)
    (free : frame.vars.find? name = none) :
    (store.opened (store.scope scope).self frame).resolve ⟨store.locals.size⟩ name
      = store.resolve scope name := by
  have walk : (store.opened (store.scope scope).self frame).definingFrame? ⟨store.frames.size⟩ name
      = store.definingFrame? (store.scope scope).frame name := by
    have here :
      (store.opened (store.scope scope).self frame).frame ⟨store.frames.size⟩ = frame := by
      rw [frame_opened]
      exact if_pos rfl
    have lacks : frame.vars.contains name = false := by rw [Table.contains, free]; rfl
    -- The new frame takes one step of the walk, and is the one frame more that bounds it.
    rw [definingFrame?, size_frames_opened, definingFrameWithin, here, lacks, encloses]
    exact definingFrameWithin_opened name _ known.own known.outer
  have lookups : ∀ receiver key,
      (store.opened (store.scope scope).self frame).lookupOn receiver key
        = store.lookupOn receiver key :=
    fun _ _ => lookup_congr_of_objects fun _ => rfl
  rw [resolve, resolve, scope_opened, walk, lookups]

/-- Names do not stand for anything in calls. -/
theorem resolve_addCall (call : Call) (scope : LocalsId) (name : String) :
    (store.addCall call).2.resolve scope name = store.resolve scope name := by
  have walk : ∀ steps start, (store.addCall call).2.definingFrameWithin name steps start
      = store.definingFrameWithin name steps start := by
    intro steps
    induction steps with
    | zero => exact fun _ => rfl
    | succ steps ih =>
      intro start
      rw [definingFrameWithin, definingFrameWithin]
      simp only [ih]
      rfl
  have frames : ∀ start, (store.addCall call).2.definingFrame? start name
      = store.definingFrame? start name := walk store.frames.size
  have lookups : ∀ receiver, (store.addCall call).2.lookupOn receiver name
      = store.lookupOn receiver name := fun _ => lookup_congr_of_objects fun _ => rfl
  rw [resolve, resolve, frames, lookups]
  rfl

/-- The scope that was opened for code has the `self` of the scope that the code was written in, and
    a frame inside the frame of that scope.  A name that is no parameter stands for the place it
    stands for there. -/
structure Anchored (before : Store) (sender : LocalsId) (code : Code) (after : Store)
    (scope : LocalsId) : Prop where
  self : (after.scope scope).self = (before.scope sender).self
  outer : (after.frame (after.scope scope).frame).outer = some (before.scope sender).frame
  names : before.FramesExist sender → ∀ name ∉ code.parameterNames,
    after.resolve scope name = before.resolve sender name

theorem Anchored.opened {sender : LocalsId} {code : Code}
    (encloses : frame.outer = some (store.scope sender).frame)
    (free : ∀ name ∉ code.parameterNames, frame.vars.find? name = none) :
    store.Anchored sender code (store.opened (store.scope sender).self frame)
      ⟨store.locals.size⟩ where
  self := by rw [scope_opened]
  outer := by rw [scope_opened, frame_opened, if_pos rfl, encloses]
  names := fun known name outside => resolve_opened known encloses (free name outside)

/-- A call made on the way changes nothing about that. -/
theorem Anchored.of_addCall {call : Call} {sender scope : LocalsId} {code : Code} {after : Store}
    (h : (store.addCall call).2.Anchored sender code after scope) :
    store.Anchored sender code after scope where
  self := h.self
  outer := h.outer
  names := fun known name outside =>
    (h.names ⟨known.own, known.outer⟩ name outside).trans (resolve_addCall call sender name)

/-- The context of the new frame alone can be another one. -/
theorem opened_withContext (context : Value) :
    store.opened self { frame with context := context }
      = (store.opened self frame).withContext ⟨store.frames.size⟩ context := by
  show { (store.opened self frame) with
      frames := store.frames.push { frame with context := context } } = _
  refine withFrames_congr (by simp [opened, addFrame, addLocals]) fun index h h' => ?_
  simp only [opened, addFrame, addLocals, Array.getElem_modify, Array.getElem_push]
  by_cases old : index < store.frames.size
  · have other : store.frames.size ≠ index := Nat.ne_of_gt old
    simp only [old, ↓reduceDIte, other, ↓reduceIte]
  · have last : store.frames.size = index := by
      have bound : index < (store.frames.push frame).size := by simpa using h
      rw [Array.size_push] at bound
      omega
    subst last
    simp only [Nat.lt_irrefl, ↓reduceDIte, ↓reduceIte]

end Store

/-! ### Opening the body of a block -/

namespace Activation

variable (activation : Activation) (caller : LocalsId) (receiver : Value) {id : BlockId}
  {before : Engine}

/-- The same activation on another receiver, from another scope. -/
def redirected : Activation := { activation with caller := caller, receiver := receiver }

/-- The frame of a block: its parameters, within the frame of the scope it was written in. -/
def blockFrame (code : Code) (home : Locals) (context : Value) : Frame where
  kind := .activation
  context := context
  vars := .ofList (code.parameters.zip (padTo code.arity activation.arguments))
  outer := some home.frame

/-- The call of a block: it comes from the scope that the block was written in. -/
def blockCall (sender : LocalsId) : Call where
  sender := sender
  target := .locals sender
  message := activation.message
  slotContext := activation.slotContext
  activated := activation.code
  coroutine := World.coroutine

theorem openBlock_on_of_uses (uses : (before.store.block id).code.usesCallContext = true) :
    (activation.openBlock id).on before
      = (.ok ⟨(before.store.block id).code, ⟨before.store.locals.size⟩⟩,
        { before with
          store :=
            (before.store.addCall (activation.blockCall (before.store.block id).sender)).2.opened
              (before.store.scope (before.store.block id).sender).self
              (activation.blockFrame (before.store.block id).code
                (before.store.scope (before.store.block id).sender)
                (.call ⟨before.store.calls.size⟩)) }) := by
  have context : activation.blockContext (before.store.block id)
      = activation.newCall (before.store.block id).sender
          (.locals (before.store.block id).sender) := if_pos uses
  rw [openBlock, Action.on_bind]
  show (activation.blockContext (before.store.block id) >>= _ : Action Opened).on before = _
  rw [context]
  rfl

theorem openBlock_on_of_not_uses
    (quiet : ¬ (before.store.block id).code.usesCallContext = true) :
    (activation.openBlock id).on before
      = (.ok ⟨(before.store.block id).code, ⟨before.store.locals.size⟩⟩,
        { before with
          store :=
            before.store.opened (before.store.scope (before.store.block id).sender).self
              (activation.blockFrame (before.store.block id).code
                (before.store.scope (before.store.block id).sender) activation.receiver) }) := by
  have context : activation.blockContext (before.store.block id) = pure activation.receiver :=
    if_neg quiet
  rw [openBlock, Action.on_bind]
  show (activation.blockContext (before.store.block id) >>= _ : Action Opened).on before = _
  rw [context]
  rfl

/-- Both activations open the same scope for the body.  If the body does not ask for its call, the
    receiver is the context of the frame; if it does, the receiver is nowhere. -/
theorem openBlock_redirected (id : BlockId) (before : Engine) :
    ((activation.redirected caller receiver).openBlock id).on before
      = if (before.store.block id).code.usesCallContext then (activation.openBlock id).on before
        else (((activation.openBlock id).on before).1,
          ((activation.openBlock id).on before).2.withContext ⟨before.store.frames.size⟩
            receiver) := by
  by_cases uses : (before.store.block id).code.usesCallContext = true
  · rw [if_pos uses, openBlock_on_of_uses _ uses, openBlock_on_of_uses _ uses]
    rfl
  · rw [if_neg uses, openBlock_on_of_not_uses _ uses, openBlock_on_of_not_uses _ uses]
    refine congrArg (Prod.mk _) ?_
    rw [Engine.withContext, ← Store.opened_withContext]
    rfl

/-- **The body of a block.** Its scope is anchored to the one that the block was written in. -/
theorem openBlock_anchored :
    ∃ opened after, (activation.openBlock id).on before = (.ok opened, after)
      ∧ opened.code = (before.store.block id).code
      ∧ before.store.Anchored (before.store.block id).sender opened.code after.store
          opened.scope := by
  by_cases uses : (before.store.block id).code.usesCallContext = true
  · exact ⟨_, _, activation.openBlock_on_of_uses uses, rfl,
      .of_addCall (.opened rfl fun _ free => find?_parameters_of_not_mem free)⟩
  · exact ⟨_, _, activation.openBlock_on_of_not_uses uses, rfl,
      .opened rfl fun _ free => find?_parameters_of_not_mem free⟩

end Activation

/-! ### Two activations of one block -/

/-- What a line of a report says of a message. -/
def Message.line (message : Message) : String :=
  match message.location with
  | some location => " " ++ message.name.content ++ " (" ++ location.text ++ ")"
  | none => " " ++ message.name.content

/-- The outcomes are the same, but for the kind of the receiver in the last line of a report. -/
inductive Message.AlikeBut (message : Message) (a b : Value) :
    Except Unwind Value → Except Unwind Value → Prop where
  | value (value : Value) : AlikeBut message a b (.ok value) (.ok value)
  | refused (error : RuntimeError) :
    AlikeBut message a b (.error (.failed ⟨error, []⟩)) (.error (.failed ⟨error, []⟩))
  | reported (error : RuntimeError) (inner : List String) :
    AlikeBut message a b (.error (.failed ⟨error, inner ++ [a.type.text ++ message.line]⟩))
      (.error (.failed ⟨error, inner ++ [b.type.text ++ message.line]⟩))

namespace Activation

variable {activation : Activation} {caller : LocalsId} {receiver : Value} {id : BlockId}
  {before : Engine}

theorem entry_eq (activation : Activation) :
    activation.entry = activation.receiver.type.text ++ activation.message.line := by
  rw [entry, Message.line]
  cases activation.message.location with
  | none => rw [String.append_assoc]
  | some location => simp [String.append_assoc, toString]

/-- Code that ends alike leaves reports that are alike. -/
theorem leave_alikeBut {outcome : Except Unwind Value} (settled : signalOf outcome = none) :
    activation.message.AlikeBut activation.receiver receiver (activation.leave outcome)
      ((activation.redirected caller receiver).leave outcome) := by
  match outcome with
  | .ok value => exact .value value
  | .error (.failed report) =>
    show Message.AlikeBut _ _ _ (.error (.failed (report.push _)))
      (.error (.failed (report.push _)))
    rw [entry_eq, entry_eq]
    exact .reported report.error report.backtrace
  | .error (.broke _) | .error .continued | .error (.returned _) => exact nomatch settled

/-- A body that does not mention the call runs alike whatever the context of a frame is. -/
theorem runBody_withContext {opened : Opened} (quiet : opened.code.body.Quiet) {frame : FrameId}
    (inFrames : frame.index < before.store.frames.size) (context : Value) (fuel : Nat) :
    (runBody opened).run (evaluator fuel) (before.withContext frame context)
      = ((runBody opened).run (evaluator fuel) before).map fun (outcome, after) =>
        (outcome, after.withContext frame context) := by
  have hides : (contextContract frame).Hides (·.withContext frame context) :=
    fun _ _ ignores => ignores context
  have fits : (runBody opened).Fits ((Node.sequence [opened.code.body]).shape opened.scope) :=
    runBody_fits opened .ordinary (.part List.mem_cons_self) fun _ => .part List.mem_cons_self _
  have alone : (Node.sequence [opened.code.body]).Quiet :=
    (Bool.or_false _).trans quiet
  have kept := context_kept_of_fits fits ⟨inFrames, .inl alone⟩
  exact kept.run_hide hides ((context_kept frame).evaluator fuel)
    ((context_kept frame).evaluator_hide hides fuel)

/-- What the code of a block does, once its scope is open. -/
theorem evaluator_enter_block (code : activation.code = .block id) {fuel : Nat} {opened : Opened}
    {after : Engine} (opens : (activation.openBlock id).on before = (.ok opened, after)) :
    evaluator (fuel + 1) (.enter activation) before
      = (runBody opened).run (evaluator fuel) after := by
  show activation.enter.run (evaluator fuel) before = _
  rw [enter_of_block code, Script.run_bind, Script.ofAction, Script.run, opens]
  rfl

/-- The body of a block starts in a scope that is anchored to the one it was written in. -/
theorem enter_reaches_anchored (code : activation.code = .block id) (before : Engine) :
    ∃ scope next start,
      activation.enter.Reaches before []
        (.ask (.eval (before.store.block id).code.body scope) next) start
      ∧ before.store.Anchored (before.store.block id).sender (before.store.block id).code
          start.store scope := by
  obtain ⟨opened, start, opens, same, anchored⟩ := activation.openBlock_anchored
  rw [enter_of_block code, ← same]
  exact ⟨opened.scope, _, start, .afterAct opens .here, anchored⟩

/-- The code of a block ends alike on both receivers, up to the context of its frame. -/
theorem evaluator_enter_redirected (caller : LocalsId) (receiver : Value)
    (code : activation.code = .block id)
    (flag : (before.store.block id).code.usesCallContext
      = (before.store.block id).code.body.mentionsCallContext) (fuel : Nat) :
    ∃ hide : Engine → Engine,
      (∀ after, Engine.AgreeBut ⟨before.store.frames.size⟩ after (hide after))
        ∧ evaluator fuel (.enter (activation.redirected caller receiver)) before
          = (evaluator fuel (.enter activation) before).map fun (outcome, after) =>
            (outcome, hide after) := by
  have both := activation.openBlock_redirected caller receiver id before
  have sameCode : (activation.redirected caller receiver).code = .block id := code
  cases fuel with
  | zero => exact ⟨fun after => after, fun _ => rfl, rfl⟩
  | succ fuel =>
    by_cases uses : (before.store.block id).code.usesCallContext = true
    · -- The call keeps no receiver, and so both bodies start from one state.
      have opens := activation.openBlock_on_of_uses uses
      rw [if_pos uses, opens] at both
      refine ⟨fun after => after, fun _ => rfl, ?_⟩
      rw [evaluator_enter_block sameCode both,
        evaluator_enter_block code opens]
      exact Option.map_id'.symm
    · -- The body does not read the one place in which the states differ.
      have opens := activation.openBlock_on_of_not_uses uses
      rw [if_neg uses, opens] at both
      refine ⟨(·.withContext ⟨before.store.frames.size⟩ receiver),
        fun after => Engine.agreeBut_withContext after _ receiver, ?_⟩
      rw [evaluator_enter_block sameCode both,
        evaluator_enter_block code opens]
      have quiet : (before.store.block id).code.body.Quiet := by
        rw [Node.Quiet, ← flag]
        exact Bool.eq_false_iff.mpr uses
      refine runBody_withContext quiet ?_ receiver fuel
      rw [Store.size_frames_opened]
      exact Nat.lt_succ_self _

/-- Both activations end alike with the same fuel. -/
theorem evaluator_redirected (caller : LocalsId) (receiver : Value)
    (code : activation.code = .block id)
    (flag : (before.store.block id).code.usesCallContext
      = (before.store.block id).code.body.mentionsCallContext) (fuel : Nat) :
    Option.Rel
      (fun ending other =>
        activation.message.AlikeBut activation.receiver receiver ending.1 other.1
          ∧ Engine.AgreeBut ⟨before.store.frames.size⟩ ending.2 other.2)
      (evaluator fuel (.activate activation) before)
      (evaluator fuel (.activate (activation.redirected caller receiver)) before) := by
  cases fuel with
  | zero => exact .none
  | succ fuel =>
    show Option.Rel _ (activation.run.run (evaluator fuel) before)
      ((activation.redirected caller receiver).run.run (evaluator fuel) before)
    have refusals : (activation.redirected caller receiver).refusal? before
        = activation.refusal? before := rfl
    rw [run_run, run_run, refusals]
    -- Both are refused alike, or let in; each that fails then notes its own receiver.
    cases activation.refusal? before with
    | some error => exact .some ⟨.refused error, rfl⟩
    | none =>
      have counted : (before.deeper.store.block id).code.usesCallContext
          = (before.deeper.store.block id).code.body.mentionsCallContext := flag
      obtain ⟨hide, agree, alike⟩ :=
        evaluator_enter_redirected caller receiver code counted fuel
      rw [alike]
      cases answered : evaluator fuel (.enter activation) before.deeper with
      | none => exact .none
      | some ending =>
        obtain ⟨outcome, after⟩ := ending
        have entered : Finishes (.enter activation) before.deeper outcome after := ⟨fuel, answered⟩
        have settled : signalOf outcome = none := signals_kept.finishes entered trivial
        refine .some ⟨leave_alikeBut settled, ?_⟩
        exact congrArg Engine.shallower (agree after)

end Activation

/-- **Blocks.** From the same state, a block whose flag is that of its body ends alike on any two
    receivers and from any two scopes, or ends on neither: with the same value, or with the same
    error and a report that differs at most in the kind of receiver in the line of this activation,
    and in states that differ at most in the context of the frame made for it.  Whenever the block
    is entered, and so whenever an activation of it is let in, its body comes to be evaluated in a
    scope that is anchored to the one the block was written in. -/
theorem block_is_anchored (activation : Activation) {id : BlockId}
    (code : activation.code = .block id) (caller : LocalsId) (receiver : Value) (before : Engine)
    (flag : (before.store.block id).code.usesCallContext
      = (before.store.block id).code.body.mentionsCallContext) :
    ((∃ outcome other after otherAfter,
        Finishes (.activate activation) before outcome after
          ∧ Finishes (.activate (activation.redirected caller receiver)) before other otherAfter
          ∧ activation.message.AlikeBut activation.receiver receiver outcome other
          ∧ Engine.AgreeBut ⟨before.store.frames.size⟩ after otherAfter)
      ∨ ∀ outcome after, ¬ Finishes (.activate activation) before outcome after
        ∧ ¬ Finishes (.activate (activation.redirected caller receiver)) before outcome after)
      ∧ (∃ scope next start,
        activation.enter.Reaches before []
          (.ask (.eval (before.store.block id).code.body scope) next) start
        ∧ before.store.Anchored (before.store.block id).sender (before.store.block id).code
            start.store scope)
      ∧ (activation.refusal? before = none → ∃ scope next start,
        activation.run.Reaches before [activation]
          (.ask (.eval (before.store.block id).code.body scope) next) start
        ∧ before.store.Anchored (before.store.block id).sender (before.store.block id).code
            start.store scope) := by
  refine ⟨?alike, Activation.enter_reaches_anchored code before, fun letIn => ?letIn⟩
  case letIn =>
    obtain ⟨scope, next, start, reached, anchored⟩ :=
      Activation.enter_reaches_anchored code before.deeper
    have inner : (doJob 0 (.enter activation)).Reaches before.deeper [] _ start := reached
    exact ⟨scope, next, start, Activation.run_reaches letIn inner, anchored⟩
  have alike := Activation.evaluator_redirected caller receiver code flag
  by_cases ends : ∃ outcome after, Finishes (.activate activation) before outcome after
  · obtain ⟨outcome, after, fuel, evaluated⟩ := ends
    have related := alike fuel
    rw [evaluated] at related
    generalize evaluatedOther :
      evaluator fuel (.activate (activation.redirected caller receiver)) before = result at related
    cases related with
    | @some _ other related =>
      exact .inl ⟨outcome, other.1, after, other.2, ⟨fuel, evaluated⟩, ⟨fuel, evaluatedOther⟩,
        related.1, related.2⟩
  · refine .inr fun outcome after => ⟨fun finished => ends ⟨outcome, after, finished⟩, ?_⟩
    rintro ⟨fuel, evaluatedOther⟩
    have related := alike fuel
    rw [evaluatedOther] at related
    generalize evaluated : evaluator fuel (.activate activation) before = result at related
    cases related with
    | @some ending _ related => exact ends ⟨ending.1, ending.2, fuel, evaluated⟩

/-- A state with a scope of its own for a block, whose body has a `break` that finds no loop.  That
    scope has a variable `y`. -/
def strayBlock : Engine where
  config := { maxDepth := 1 }
  store :=
    { frames := #[{}, { kind := .activation, vars := .ofList [("y", .int 3)] }]
      locals := #[{}, { self := .bool true, frame := ⟨1⟩ }]
      blocks := #[{ code := ⟨[("x" : Text)], .breakLoop none, false⟩, sender := ⟨1⟩ }] }

/-- An activation of that block from the top level. -/
def strayCall : Activation where
  caller := ⟨0⟩
  code := .block ⟨0⟩
  receiver := .nil
  slotContext := .nil
  message := ⟨"run", 0, none⟩
  arguments := []

theorem strayBlock_framesExist : strayBlock.store.FramesExist ⟨1⟩ where
  own := by decide
  outer := by
    rintro ⟨_ | _ | _⟩ next above <;> exact nomatch above

/-- On two receivers the reports of the misplaced `break` name each of them, and all else is the
    same.  In its body `y` stands for the variable of the scope that the block was written in. -/
theorem stray_block_names_the_receiver :
    (∃ after otherAfter,
      Finishes (.activate strayCall) strayBlock
          (.error (.failed ⟨.signalOutsideLoop "break", ["Nil run"]⟩)) after
        ∧ Finishes (.activate (strayCall.redirected ⟨1⟩ (.int 7))) strayBlock
          (.error (.failed ⟨.signalOutsideLoop "break", ["Number run"]⟩)) otherAfter
        ∧ Engine.AgreeBut ⟨2⟩ after otherAfter)
      ∧ ∃ scope next start,
        strayCall.run.Reaches strayBlock [strayCall] (.ask (.eval (.breakLoop none) scope) next)
          start
        ∧ start.store.resolve scope "y" = some (.inFrame ⟨1⟩) := by
  have flag : (strayBlock.store.block ⟨0⟩).code.usesCallContext
      = (strayBlock.store.block ⟨0⟩).code.body.mentionsCallContext := rfl
  obtain ⟨both | neither, -, body⟩ :=
    block_is_anchored strayCall rfl ⟨1⟩ (.int 7) strayBlock flag
  · obtain ⟨outcome, other, after, otherAfter, ends, endsOther, -, agree⟩ := both
    obtain ⟨rfl, -⟩ := ends.unique ⟨3, rfl⟩
    obtain ⟨rfl, -⟩ := endsOther.unique ⟨3, rfl⟩
    obtain ⟨scope, next, start, reached, anchored⟩ := body rfl
    have resolved := anchored.names strayBlock_framesExist "y" (by decide)
    exact ⟨⟨after, otherAfter, ends, endsOther, agree⟩, scope, next, start, reached,
      resolved.trans rfl⟩
  · exact absurd ⟨3, rfl⟩ (neither _ _).1

end SlotTalk
