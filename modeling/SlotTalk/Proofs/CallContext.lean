import SlotTalk.Proofs.FrameContext
import SlotTalk.Proofs.NodeShape

namespace SlotTalk

/-!
# Nodes that do not mention the call

A frame holds the context of its activation for the body to ask for.  A body that does not mention
the call is evaluated alike whatever the context is, though it may make closures that live in the
frame and call code that asks for calls of its own.

* `mentionsCallContext_part`, `mentionsCallContext_body` — what a quiet node has evaluated in its
  own scope is quiet.
* `contextContract`, `context_kept` — in a scope of the frame only quiet nodes are evaluated.
* `evaluator_withContext` — such an evaluation is the same with another context.
* `quiet_evaluation_ignores_context` — two states that differ in the context alone.
-/

namespace Node

/-- The node does not read the call of the activation it runs in. -/
def Quiet (node : Node) : Prop := node.mentionsCallContext = false

theorem listMentions_append (nodes more : List Node) :
    listMentions (nodes ++ more) = (listMentions nodes || listMentions more) := by
  induction nodes with
  | nil => rfl
  | cons node rest ih => rw [List.cons_append, listMentions, listMentions, ih, Bool.or_assoc]

theorem listMentions_toList (node : Option Node) :
    listMentions node.toList = optionMentions node := by
  cases node with
  | none => rfl
  | some node => exact Bool.or_false _

theorem quiet_of_listMentions {nodes : List Node} (h : listMentions nodes = false)
    {child : Node} (mem : child ∈ nodes) : child.Quiet := by
  induction nodes with
  | nil => exact nomatch mem
  | cons node rest ih =>
    rw [listMentions, Bool.or_eq_false_iff] at h
    rcases List.mem_cons.mp mem with rfl | mem
    · exact h.1
    · exact ih h.2 mem

/-- The scan looks at the node itself, at its parts and at its body, and nowhere else. -/
theorem quiet_iff (node : Node) :
    node.Quiet ↔ node ≠ .thisCall ∧ listMentions node.parts = false
      ∧ optionMentions node.loopBody? = false := by
  cases node <;>
    simp [Quiet, mentionsCallContext, parts, loopBody?, listMentions, optionMentions,
      listMentions_append, listMentions_toList, and_assoc]

/-- The parts of a quiet node are quiet. -/
theorem Quiet.part {node child : Node} (quiet : node.Quiet) (mem : child ∈ node.parts) :
    child.Quiet :=
  quiet_of_listMentions ((quiet_iff node).mp quiet).2.1 mem

/-- The body of a quiet loop is quiet. -/
theorem Quiet.body {node child : Node} (quiet : node.Quiet) (h : node.loopBody? = some child) :
    child.Quiet := by
  have scanned := ((quiet_iff node).mp quiet).2.2
  rw [h] at scanned
  exact scanned

end Node

/-! ### The contract -/

/-- The action does the same whatever the context of the frame is. -/
def Action.Ignores {α : Type} (action : Action α) (frame : FrameId) (before : Engine) : Prop :=
  ∀ context, action.on (before.withContext frame context)
    = ((action.on before).1, (action.on before).2.withContext frame context)

/-- The scope exists, and its variables are in another frame. -/
def Store.Elsewhere (store : Store) (frame : FrameId) (scope : LocalsId) : Prop :=
  scope.index < store.locals.size ∧ (store.scope scope).frame ≠ frame

theorem Store.Elsewhere.grows {before after : Store} {frame : FrameId} {scope : LocalsId}
    (h : before.Elsewhere frame scope) (grown : before.Grows after) :
    after.Elsewhere frame scope := by
  refine ⟨Nat.lt_of_lt_of_le h.1 grown.locals, ?_⟩
  rw [grown.scope scope h.1]
  exact h.2

/-- Nodes that may read the call are evaluated in scopes of other frames only. -/
def contextContract (frame : FrameId) : Contract where
  always engine := frame.index < engine.store.frames.size
  allows action before := action.Ignores frame before
  requires job before := frame.index < before.store.frames.size ∧
    match job with
    | .eval node scope => node.Quiet ∨ before.store.Elsewhere frame scope
    | .activate _ | .enter _ => True
  ensures _ before _ after := before.store.Grows after.store

section Contract

variable {frame : FrameId}

/-- Reading the call of an activation that runs in another frame. -/
theorem readCall_ignores {scope : LocalsId} {before : Engine}
    (elsewhere : before.store.Elsewhere frame scope) : (readCall scope).Ignores frame before := by
  intro context
  have same : currentCall (before.store.withContext frame context) scope
      = currentCall before.store scope := by
    simp only [currentCall, Store.scope_withContext, Store.frame_withContext_of_ne elsewhere.2]
  show (Except.ok (currentCall (before.store.withContext frame context) scope), _) = _
  rw [same]
  rfl

/-- What quiet nodes are made of keeps to the contract, and so does anything elsewhere. -/
theorem context_kept_of_fits {α : Type} {node : Node} {scope : LocalsId} {x : Script α}
    (fits : x.Fits (node.shape scope)) {before : Engine}
    (required : (contextContract frame).requires (.eval node scope) before) :
    x.Keeps (contextContract frame) before fun _ after => before.store.Grows after.store := by
  obtain ⟨inFrames, safe⟩ := required
  have still : ∀ {engine : Engine}, before.store.Grows engine.store →
      frame.index < engine.store.frames.size :=
    fun grown => Nat.lt_of_lt_of_le inFrames grown.frames
  have onward : ∀ {engine : Engine} {child : Node}, before.store.Grows engine.store →
      (node.Quiet → child.Quiet) →
      (contextContract frame).requires (.eval child scope) engine :=
    fun grown quiet => ⟨still grown, safe.imp quiet fun elsewhere => elsewhere.grows grown⟩
  refine fits.keeps (fun engine => before.store.Grows engine.store) (.refl _)
    (fun _ => still) ?acts ?asks ?value ?fails ?raises ?passes
  case acts =>
    intro β action engine acts grown
    cases acts with
    | ordinary h =>
      exact ⟨h.routine.withContext (still grown), grown.trans (h.routine.grows engine)⟩
    | readCall h =>
      -- The node that reads the call is not quiet, so that it is evaluated elsewhere.
      have elsewhere : engine.store.Elsewhere frame scope := by
        rcases safe with quiet | elsewhere
        · exact absurd h ((Node.quiet_iff node).mp quiet).1
        · exact elsewhere.grows grown
      exact ⟨readCall_ignores elsewhere, grown⟩
  case asks =>
    intro job engine asked grown
    refine ⟨?_, fun _ _ ensured => grown.trans ensured⟩
    cases asked with
    | part mem => exact onward grown fun quiet => quiet.part mem
    | body h => exact onward grown fun quiet => quiet.body h
    | activate activation => exact ⟨still grown, trivial⟩
  case value => exact fun _ _ grown => grown
  case fails => exact fun _ _ grown => grown
  case raises => exact fun _ _ _ grown => grown
  case passes => exact fun _ _ _ _ _ _ grown ensured => grown.trans ensured

/-! ### Bodies -/

/-- The scope that the action opens has its variables in a frame of its own. -/
def Opens (frame : FrameId) (opening : Action Opened) : Prop :=
  ∀ before opened after, frame.index < before.store.frames.size →
    opening.on before = (.ok opened, after) → after.store.Elsewhere frame opened.scope

theorem openScope_opens (code : Code) (arguments : List Value) (self context : Value)
    (outer : Option FrameId) : Opens frame (openScope code arguments self context outer) := by
  intro before opened after inFrames acted
  obtain ⟨same, rfl⟩ := Prod.mk.inj acted
  obtain rfl := Except.ok.inj same
  have last : before.store.locals.size < (before.store.locals.push
      { self := self, frame := ⟨before.store.frames.size⟩ }).size := by simp
  have new := before.store.scope_addLocals_new { self := self, frame := ⟨before.store.frames.size⟩ }
  refine ⟨last, fun same => ?_⟩
  have eq := congrArg Ref.index ((congrArg Locals.frame new).symm.trans same)
  exact absurd eq (Nat.ne_of_gt inFrames)

theorem Opens.bind {α : Type} {x : Action α} {f : α → Action Opened}
    (grows : ∀ before : Engine, before.store.Grows (x.on before).2.store)
    (h : ∀ value, Opens frame (f value)) : Opens frame (x >>= f) := by
  intro before opened after inFrames acted
  have grown := grows before
  rw [Action.on_bind] at acted
  split at acted
  next value between first =>
    rw [first] at grown
    exact h value between opened after (Nat.lt_of_lt_of_le inFrames grown.frames) acted
  next => exact nomatch acted

namespace Activation

variable (activation : Activation)

theorem openFunction_opens (id : FunctionId) : Opens frame (activation.openFunction id) :=
  .bind (fun _ => .refl _) fun _ => openScope_opens _ _ _ _ _

theorem openBlock_opens (id : BlockId) : Opens frame (activation.openBlock id) :=
  .bind (fun _ => .refl _) fun _ =>
    .bind (activation.blockContext_ordinary _).routine.grows fun _ =>
      .bind (fun _ => .refl _) fun _ => openScope_opens _ _ _ _ _

theorem openMethod_opens (id : MethodId) : Opens frame (activation.openMethod id) :=
  .bind (fun _ => .refl _) fun _ =>
    .bind (activation.methodContext_ordinary _).routine.grows fun _ => openScope_opens _ _ _ _ _

end Activation

theorem context_kept_of_routine {α : Type} {action : Action α} (routine : action.Routine)
    {before : Engine} (inFrames : frame.index < before.store.frames.size) :
    (Script.ofAction action).Keeps (contextContract frame) before
      fun _ after => before.store.Grows after.store := by
  have grown := routine.grows before
  refine ⟨inFrames, routine.withContext inFrames, fun _ after acted => ?_, fun _ after failed => ?_⟩
  · rw [acted] at grown
    exact ⟨Nat.lt_of_lt_of_le inFrames grown.frames, grown⟩
  · rw [failed] at grown
    exact ⟨Nat.lt_of_lt_of_le inFrames grown.frames, grown⟩

/-- A body is evaluated elsewhere. -/
theorem context_kept_of_opens {opening : Action Opened} (ordinary : opening.Ordinary)
    (opens : Opens frame opening) {before : Engine}
    (inFrames : frame.index < before.store.frames.size) :
    (Script.ofAction opening >>= runBody).Keeps (contextContract frame) before
      fun _ after => before.store.Grows after.store := by
  refine ⟨inFrames, ordinary.routine.withContext inFrames, fun opened after opened' => ?_,
    fun error after failed => ?_⟩
  · have grown := ordinary.routine.grows before
    rw [opened'] at grown
    have fits : (runBody opened).Fits
        ((Node.sequence [opened.code.body]).shape opened.scope) :=
      runBody_fits opened .ordinary (.part List.mem_cons_self) fun _ => .part List.mem_cons_self _
    have kept := context_kept_of_fits fits
      ⟨Nat.lt_of_lt_of_le inFrames grown.frames, .inr (opens _ _ _ inFrames opened')⟩
    exact kept.mono fun _ _ more => grown.trans more
  · have grown := ordinary.routine.grows before
    rw [failed] at grown
    exact ⟨Nat.lt_of_lt_of_le inFrames grown.frames, grown⟩

/-- The code of an activation keeps to the contract: its body runs in a frame of its own. -/
theorem enter_keeps_context (activation : Activation) {before : Engine}
    (inFrames : frame.index < before.store.frames.size) :
    activation.enter.Keeps (contextContract frame) before
      fun _ after => before.store.Grows after.store := by
  unfold Activation.enter
  split
  next builtIn _ =>
    by_cases raises : builtIn = .plain (.exception .raise)
    · subst raises
      exact context_kept_of_routine (ExceptionPrimitive.raise_routine _) inFrames
    · have admits := Node.shape_admits (.sequence []) activation.caller
      have fits := activation.enterPrimitive_fits builtIn admits fun same => absurd same raises
      exact context_kept_of_fits fits ⟨inFrames, .inl rfl⟩
  next id _ =>
    exact context_kept_of_opens (activation.openFunction_ordinary id)
      (activation.openFunction_opens id) inFrames
  next id _ =>
    exact context_kept_of_opens (activation.openBlock_ordinary id)
      (activation.openBlock_opens id) inFrames
  next id _ =>
    exact context_kept_of_opens (activation.openMethod_ordinary id)
      (activation.openMethod_opens id) inFrames

/-- The scripts of all jobs keep to the contract. -/
theorem context_kept (frame : FrameId) : (contextContract frame).Valid := by
  intro passes job before required
  cases job with
  | eval node scope => exact context_kept_of_fits (evalNode_fits passes scope node) required
  | enter activation => exact enter_keeps_context activation required.1
  | activate activation =>
    refine activation.run_keeps required.1 ?checks ?descends ?refused ?entered
    case checks => exact (checkArgumentCount_ordinary ..).routine.withContext required.1
    case descends =>
      intro context
      rw [Activation.descend_on, Activation.descend_on]
      by_cases full : before.config.maxDepth ≤ before.depth
      · rw [if_pos full]
        exact if_pos full
      · rw [if_neg full]
        exact if_neg full
    case refused => exact fun _ _ => .refl _
    case entered =>
      intro _
      refine ⟨required.1, ⟨required.1, trivial⟩, fun outcome after grown => ?_⟩
      have still := Nat.lt_of_lt_of_le required.1 grown.frames
      exact ⟨still, fun _ => rfl, still, grown⟩

/-- With another context in the frame, a quiet node is evaluated alike. -/
theorem evaluator_withContext {node : Node} (quiet : node.Quiet) (scope : LocalsId)
    {before : Engine} (inFrames : frame.index < before.store.frames.size) (context : Value)
    (fuel : Nat) :
    evaluator fuel (.eval node scope) (before.withContext frame context)
      = (evaluator fuel (.eval node scope) before).map fun (outcome, after) =>
        (outcome, after.withContext frame context) :=
  (context_kept frame).evaluator_hide (fun _ _ ignores => ignores context) fuel _ before
    ⟨inFrames, .inl quiet⟩

end Contract

/-- **Quiet nodes.** From two states that are the same but for the context of one frame, a node that
    does not mention the call ends in both in the same way and leaves such states again, or ends in
    neither.  This holds in every scope, also in those of the frame itself. -/
theorem quiet_evaluation_ignores_context {node : Node} (quiet : node.mentionsCallContext = false)
    (scope : LocalsId) {frame : FrameId} {a b : Engine} (agree : Engine.AgreeBut frame a b) :
    (∃ outcome afterA afterB, Finishes (.eval node scope) a outcome afterA
      ∧ Finishes (.eval node scope) b outcome afterB ∧ Engine.AgreeBut frame afterA afterB)
      ∨ ∀ outcome after, ¬ Finishes (.eval node scope) a outcome after
        ∧ ¬ Finishes (.eval node scope) b outcome after := by
  obtain ⟨context, rfl⟩ := agree.exists_eq
  -- A frame that is made later is none that the states differ in.
  by_cases inFrames : frame.index < a.store.frames.size
  · have alike := evaluator_withContext quiet scope inFrames context
    by_cases ends : ∃ outcome after, Finishes (.eval node scope) a outcome after
    · obtain ⟨outcome, after, fuel, evaluated⟩ := ends
      refine .inl ⟨outcome, after, after.withContext frame context, ⟨fuel, evaluated⟩, ⟨fuel, ?_⟩,
        Engine.agreeBut_withContext after frame context⟩
      rw [alike, evaluated]
      rfl
    · refine .inr fun outcome after => ⟨fun h => ends ⟨outcome, after, h⟩, ?_⟩
      rintro ⟨fuel, evaluated⟩
      rw [alike, Option.map_eq_some_iff] at evaluated
      obtain ⟨⟨outcome', after'⟩, evaluated', -⟩ := evaluated
      exact ends ⟨outcome', after', fuel, evaluated'⟩
  · have same : a.withContext frame context = a := by
      rw [Engine.withContext, Store.withContext_of_absent (Nat.le_of_not_lt inFrames)]
    rw [same]
    by_cases ends : ∃ outcome after, Finishes (.eval node scope) a outcome after
    · obtain ⟨outcome, after, evaluated⟩ := ends
      exact .inl ⟨outcome, after, after, evaluated, evaluated, rfl⟩
    · exact .inr fun outcome after =>
        ⟨fun h => ends ⟨outcome, after, h⟩, fun h => ends ⟨outcome, after, h⟩⟩

/-- A state with one activation, whose frame holds the context. -/
def oneActivation (context : Value) : Engine where
  config := {}
  store :=
    { frames := #[{ kind := .activation, context := context }]
      locals := #[{ frame := ⟨0⟩ }] }

/-- A block literal that reads the call it will run in is made alike in the frame of any call. -/
theorem block_literal_ignores_context :
    ∃ outcome afterA afterB,
      Finishes (.eval (.block [] .thisCall true) ⟨0⟩) (oneActivation .nil) outcome afterA
        ∧ Finishes (.eval (.block [] .thisCall true) ⟨0⟩) (oneActivation (.call ⟨0⟩)) outcome afterB
        ∧ Engine.AgreeBut ⟨0⟩ afterA afterB := by
  have quiet : (Node.block [] .thisCall true).mentionsCallContext = false := rfl
  have agree : Engine.AgreeBut ⟨0⟩ (oneActivation .nil) (oneActivation (.call ⟨0⟩)) := rfl
  rcases quiet_evaluation_ignores_context quiet ⟨0⟩ agree with both | neither
  · exact both
  · exact absurd ⟨1, rfl⟩ (neither _ _).1

end SlotTalk
