import SlotTalk.Proofs.CellAccess
import SlotTalk.Proofs.OrdinaryStep

namespace SlotTalk

/-!
# The context of one frame

Routine actions neither read nor write the context of a frame that exists, and scopes stay what
they are.

* `Store.withContext`, `Engine.withContext` — the same state with another context in one frame.
* `Engine.AgreeBut` — two states are the same but for the context of one frame.
* `Store.Grows` — no frame, scope or call goes away, and neither scopes and calls nor the contexts
  of frames change.
* `Routine.grows`, `Routine.withContext` — routine actions let the store grow, and do the same
  whatever the context is.
-/

/-! ### Another context -/

namespace Store

/-- The store with another context in a frame. -/
def withContext (store : Store) (frame : FrameId) (context : Value) : Store :=
  store.modifyFrame frame fun old => { old with context := context }

variable {store : Store} {frame : FrameId}

theorem size_withContext (context : Value) :
    (store.withContext frame context).frames.size = store.frames.size := Array.size_modify

/-- Only the frame itself has the other context. -/
theorem getElem_withContext (context : Value) {index : Nat}
    (h : index < (store.withContext frame context).frames.size)
    (h' : index < store.frames.size) :
    (store.withContext frame context).frames[index]
      = if frame.index = index then { store.frames[index] with context := context }
        else store.frames[index] := Array.getElem_modify h

/-- A store is known by its frames and the rest. -/
theorem withFrames_congr {frames frames' : Array Frame} (size : frames.size = frames'.size)
    (same : ∀ index (h : index < frames.size) (h' : index < frames'.size),
      frames[index] = frames'[index]) :
    { store with frames := frames } = { store with frames := frames' } := by
  rw [Array.ext size same]

theorem visible_withContext (context : Value) :
    (store.withContext frame context).visible = store.visible := by
  refine withFrames_congr (by simp [size_withContext]) fun index h h' => ?_
  rw [Array.getElem_map, Array.getElem_map, getElem_withContext]
  split <;> rfl

/-- Scopes are another kind of cell. -/
theorem scope_withContext (context : Value) (id : LocalsId) :
    (store.withContext frame context).scope id = store.scope id := rfl

/-- Another frame is not touched. -/
theorem frame_withContext_of_ne {context : Value} {other : FrameId} (differs : other ≠ frame) :
    (store.withContext frame context).frame other = store.frame other := by
  have index : frame.index ≠ other.index := fun same => differs (congrArg Ref.mk same.symm)
  rw [Store.frame, Store.frame, withContext, modifyFrame, Array.getD_eq_getD_getElem?,
    Array.getD_eq_getD_getElem?, Array.getElem?_modify, if_neg index]

/-- Only the last context counts. -/
theorem withContext_withContext (first second : Value) :
    (store.withContext frame first).withContext frame second
      = store.withContext frame second := by
  refine withFrames_congr (by simp [size_withContext]) fun index h h' => ?_
  rw [Array.getElem_modify, Array.getElem_modify, getElem_withContext]
  split <;> rfl

/-- The context that is there anyway. -/
theorem withContext_own : store.withContext frame (store.frame frame).context = store := by
  show _ = { store with frames := store.frames }
  -- The store is compared with itself, spelled out by its frames.
  refine withFrames_congr (by simp) fun index h h' => ?_
  rw [Array.getElem_modify]
  split
  next same =>
    have here : (store.frame frame).context = store.frames[index].context := by
      rw [Store.frame, same, ← Array.getElem_eq_getD]
    simp only [here]
  next => rfl

/-- There is no context to change in a frame that does not exist. -/
theorem withContext_of_absent (absent : store.frames.size ≤ frame.index) (context : Value) :
    store.withContext frame context = store := by
  show _ = { store with frames := store.frames }
  refine withFrames_congr (by simp) fun index h h' => ?_
  have other : frame.index ≠ index := by omega
  rw [Array.getElem_modify, if_neg other]

/-- A variable of any frame can be written before or after. -/
theorem putVariable_withContext (id : FrameId) (name : Text) (value context : Value) :
    (store.withContext frame context).putVariable id name value
      = (store.putVariable id name value).withContext frame context := by
  refine withFrames_congr (by simp [withContext, modifyFrame, putVariable]) fun index h h' => ?_
  simp only [withContext, modifyFrame, putVariable, Array.getElem_modify]
  split <;> split <;> rfl

/-- A new frame leaves those that exist where they are. -/
theorem addFrame_withContext (inFrames : frame.index < store.frames.size) (new : Frame)
    (context : Value) :
    (store.withContext frame context).addFrame new
      = ((store.addFrame new).1, (store.addFrame new).2.withContext frame context) := by
  refine Prod.ext (by simp [addFrame, size_withContext]) ?_
  refine withFrames_congr (by simp [addFrame, size_withContext]) fun index h h' => ?_
  simp only [addFrame, Array.getElem_modify, Array.getElem_push, size_withContext]
  -- The frame with the other context is one of the old ones.
  by_cases old : index < store.frames.size
  · simp only [old, ↓reduceDIte]
    exact getElem_withContext context _ old
  · have other : frame.index ≠ index := by omega
    simp only [old, ↓reduceDIte, other, ↓reduceIte]

/-- Every change of the store can be made before or after.  Variables are the only part of a frame
    that changes touch. -/
theorem Change.withContext {change : Store → Store} (step : Change change) (context : Value) :
    change (store.withContext frame context) = (change store).withContext frame context := by
  cases step with
  | putVariable id name value => exact putVariable_withContext id name value context
  | _ => rfl

/-- A new cell can be made before or after, if the frame is already there. -/
theorem Extension.withContext {α : Type} {change : Store → α × Store} (step : Extension change)
    (inFrames : frame.index < store.frames.size) (context : Value) :
    change (store.withContext frame context)
      = ((change store).1, (change store).2.withContext frame context) := by
  cases step with
  | addFrame distinct => exact addFrame_withContext inFrames _ context
  | _ => rfl

/-! ### Growth -/

/-- No frame, scope or call goes away.  Scopes and calls stay what they are, and so do the contexts
    of frames. -/
structure Grows (before after : Store) : Prop where
  frames : before.frames.size ≤ after.frames.size
  locals : before.locals.size ≤ after.locals.size
  calls : before.calls.size ≤ after.calls.size
  context : ∀ id : FrameId, id.index < before.frames.size →
    (after.frame id).context = (before.frame id).context
  scope : ∀ id : LocalsId, id.index < before.locals.size → after.scope id = before.scope id
  call : ∀ id : CallId, id.index < before.calls.size → after.call id = before.call id

/-- A store has grown from itself by nothing. -/
theorem Grows.refl (store : Store) : store.Grows store where
  frames := Nat.le_refl _
  locals := Nat.le_refl _
  calls := Nat.le_refl _
  context := fun _ _ => rfl
  scope := fun _ _ => rfl
  call := fun _ _ => rfl

/-- A cell that was there before the first growth is there before the second. -/
theorem Grows.trans {a b c : Store} (first : a.Grows b) (second : b.Grows c) : a.Grows c where
  frames := Nat.le_trans first.frames second.frames
  locals := Nat.le_trans first.locals second.locals
  calls := Nat.le_trans first.calls second.calls
  context := fun id h =>
    (second.context id (Nat.lt_of_lt_of_le h first.frames)).trans (first.context id h)
  scope := fun id h =>
    (second.scope id (Nat.lt_of_lt_of_le h first.locals)).trans (first.scope id h)
  call := fun id h =>
    (second.call id (Nat.lt_of_lt_of_le h first.calls)).trans (first.call id h)

/-- A change touches neither scopes nor calls, and of a frame the variables alone. -/
theorem Change.grows {change : Store → Store} (step : Change change) (store : Store) :
    store.Grows (change store) := by
  cases step with
  | putVariable id name value =>
    refine { Grows.refl store with frames := Nat.le_of_eq Array.size_modify.symm, context := ?_ }
    intro other inFrames
    show ((store.modifyFrame id _).frame other).context = _
    rw [frame_modifyFrame]
    split <;> rfl
  | _ => exact { Grows.refl store with }

/-- A new cell comes after all that exist. -/
theorem Extension.grows {α : Type} {change : Store → α × Store} (step : Extension change)
    (store : Store) : store.Grows (change store).2 := by
  cases step with
  | @addFrame frame distinct =>
    have more : store.frames.size ≤ (store.frames.push frame).size := by simp
    refine { Grows.refl store with frames := more, context := fun id inFrames => ?_ }
    rw [frame_addFrame store frame, if_neg (Nat.ne_of_lt inFrames)]
  -- Other kinds of cells stay where they are, so one array is looked at in each case.
  | addLocals new =>
    have more : store.locals.size ≤ (store.locals.push new).size := by simp
    exact { Grows.refl store with
      locals := more
      scope := fun id h => store.scope_addLocals_of_lt new h }
  | addCall new =>
    refine { Grows.refl store with calls := ?_, call := fun id inCalls => ?_ }
    · exact Nat.le_trans (Nat.le_succ _) (Nat.le_of_eq (Array.size_push ..).symm)
    · rw [call_addCall, if_neg (Nat.ne_of_lt inCalls)]
  | _ => exact { Grows.refl store with }

/-- The store that has grown goes on growing. -/
theorem kept_grows (base : Store) : Kept base.Grows where
  change step store grown := grown.trans (step.grows store)
  extend step store grown := grown.trans (step.grows store)

end Store

namespace Engine

/-- The state with another context in a frame. -/
def withContext (engine : Engine) (frame : FrameId) (context : Value) : Engine :=
  { engine with store := engine.store.withContext frame context }

variable {engine : Engine} {frame : FrameId}

theorem visible_withContext (context : Value) :
    (engine.withContext frame context).visible = engine.visible := by
  simp only [visible, withContext, Store.visible_withContext]

/-- The two states are the same but for the context of the frame. -/
def AgreeBut (frame : FrameId) (a b : Engine) : Prop :=
  a.withContext frame .nil = b.withContext frame .nil

theorem agreeBut_withContext (engine : Engine) (frame : FrameId) (context : Value) :
    AgreeBut frame engine (engine.withContext frame context) := by
  simp only [AgreeBut, withContext, Store.withContext_withContext]

/-- Of two states that agree, each is the other with another context. -/
theorem AgreeBut.exists_eq {a b : Engine} (h : AgreeBut frame a b) :
    ∃ context, b = a.withContext frame context := by
  refine ⟨(b.store.frame frame).context, ?_⟩
  have again := congrArg (·.withContext frame (b.store.frame frame).context) h
  simp only [withContext, Store.withContext_withContext, Store.withContext_own] at again
  exact again.symm

end Engine

namespace Action.Routine

variable {α : Type} {action : Action α}

/-- A routine action lets the store grow. -/
theorem grows (h : Routine action) (before : Engine) :
    before.store.Grows (action.on before).2.store :=
  h.keeps (Store.kept_grows before.store) (.refl before.store)

/-- A routine action does the same whatever the context of a frame is. -/
theorem withContext (h : Routine action) {before : Engine} {frame : FrameId}
    (inFrames : frame.index < before.store.frames.size) (context : Value) :
    action.on (before.withContext frame context)
      = ((action.on before).1, (action.on before).2.withContext frame context) := by
  induction h generalizing before with
  | answer | fail | print | newIdentity => rfl
  | @bind β γ x f first rest firstIH restIH =>
    have still := Nat.lt_of_lt_of_le inFrames (first.grows before).frames
    rw [on_bind, on_bind, firstIH inFrames]
    cases acted : x.on before with
    | mk outcome between =>
      rw [acted] at still
      cases outcome with
      | ok value => exact restIH value still
      | error error => rfl
  | @read β view blind rest ih =>
    -- Both states look the same to what reads them.
    have same : view (before.withContext frame context) = view before := by
      rw [← blind, Engine.visible_withContext, blind]
    show (view (before.withContext frame context)).on _ = _
    rw [same]
    exact ih before inFrames
  | @change change step =>
    have same : change (before.withContext frame context).store
        = (change before.store).withContext frame context := step.withContext context
    show (Except.ok (), { before with store := change _ }) = _
    rw [same]
    rfl
  | @extend β change step =>
    have same : change (before.withContext frame context).store
        = ((change before.store).1, (change before.store).2.withContext frame context) :=
      step.withContext inFrames context
    show (Except.ok (change _).1, { before with store := (change _).2 }) = _
    rw [same]
    rfl

end Action.Routine

end SlotTalk
