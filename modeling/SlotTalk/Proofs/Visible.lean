import SlotTalk.Eval.Evaluator

namespace SlotTalk

/-!
# What built-ins can see of a state

The context of a frame is there for the running activation alone, and the depth for the count of
activations.  Everything else that reads a state gives the same answer without them.

* `Store.visible`, `Engine.visible` — the same state without them.
* `lookup_visible`, `definingFrame?_visible`, `display_visible` and the others — what is read is the
  same in both.
-/

/-- The frame without its context. -/
def Frame.visible (frame : Frame) : Frame := { frame with context := .nil }

/-- The store without the contexts of its frames. -/
def Store.visible (store : Store) : Store := { store with frames := store.frames.map Frame.visible }

/-- The state without the contexts of its frames, and without the depth and its limit. -/
def Engine.visible (engine : Engine) : Engine :=
  { engine with
    store := engine.store.visible
    depth := 0
    config := { engine.config with maxDepth := 0 } }

namespace Store

/-! ### Cells -/

section Cells

variable (store : Store)

/-- Objects are not frames, so that hiding contexts leaves them as they are. -/
@[simp] theorem object_visible (id : ObjectId) : store.visible.object id = store.object id := rfl

/-- Lists are left as they are. -/
@[simp] theorem list_visible (id : ListId) : store.visible.list id = store.list id := rfl

/-- Maps are left as they are. -/
@[simp] theorem map_visible (id : MapId) : store.visible.map id = store.map id := rfl

/-- A scope names its frame, and does not hold the context of it. -/
@[simp] theorem scope_visible (id : LocalsId) : store.visible.scope id = store.scope id := rfl

/-- There are as many frames as before. -/
@[simp] theorem size_frames_visible : store.visible.frames.size = store.frames.size :=
  Array.size_map ..

/-- A frame is read without its context.  One that does not exist has none to begin with. -/
@[simp] theorem frame_visible (id : FrameId) :
    store.visible.frame id = (store.frame id).visible := by
  rw [frame, frame, visible, Array.getD_eq_getD_getElem?, Array.getD_eq_getD_getElem?,
    Array.getElem?_map]
  cases store.frames[id.index]? <;> rfl

/-- How many arguments some code takes is written in the code. -/
@[simp] theorem arity_visible (code : Invokable) : store.visible.arity code = store.arity code := by
  cases code <;> rfl

/-- The names of its parameters are written there too. -/
@[simp] theorem parameters_visible (code : Invokable) :
    store.visible.parameters code = store.parameters code := by
  cases code <;> rfl

/-- Whether there are too many arguments depends on nothing else. -/
@[simp] theorem tooMany_visible (code : Invokable) (supplied : Nat) :
    store.visible.tooMany code supplied = store.tooMany code supplied := by
  rw [tooMany, tooMany, arity_visible]

end Cells

/-! ### Walks -/

section Walks

variable (store : Store)

/-- The walk for a slot goes from object to object, and never to a frame.  By induction on the walk:
    it takes the same steps in both stores. -/
@[simp] theorem lookupFrom_visible (key : String) (visited : List ObjectId) (current : ObjectId) :
    store.visible.lookupFrom key visited current = store.lookupFrom key visited current := by
  fun_induction store.lookupFrom key visited current with
  | case1 visited current new value owns => rw [lookupFrom]; simp [new, owns]
  | case2 visited current new lacks next up ih =>
    rw [lookupFrom]
    simp only [new, not_false_eq_true, ↓reduceDIte, object_visible, lacks]
    split
    -- Both walks are at an object with the same prototype.
    next other up' => rw [← ih, Option.some.inj (up.symm.trans up')]
    next top => exact nomatch up.symm.trans top
  | case3 visited current new lacks top =>
    rw [lookupFrom]
    simp only [new, not_false_eq_true, ↓reduceDIte, object_visible, lacks]
    split
    next other up => exact nomatch top.symm.trans up
    next => rfl
  | case4 visited current revisit => rw [lookupFrom]; simp [revisit]

/-- The walk from its start, where nothing is visited yet. -/
@[simp] theorem lookup_visible (start : ObjectId) (key : String) :
    store.visible.lookup start key = store.lookup start key :=
  store.lookupFrom_visible key [] start

/-- A value that is no object starts at its shared prototype. -/
@[simp] theorem lookupOn_visible (receiver : Value) (key : String) :
    store.visible.lookupOn receiver key = store.lookupOn receiver key :=
  store.lookup_visible receiver.delegate key

/-- The slots that a value owns itself. -/
@[simp] theorem ownSlots_visible (value : Value) :
    store.visible.ownSlots value = store.ownSlots value := by
  cases value <;> rfl

/-- The walk that looks for an object among prototypes, by the same induction. -/
@[simp] theorem meetsFrom_visible (candidate : ObjectId) (visited : List ObjectId)
    (current : ObjectId) :
    store.visible.meetsFrom candidate visited current
      = store.meetsFrom candidate visited current := by
  fun_induction store.meetsFrom candidate visited current with
  | case1 visited => rw [meetsFrom, if_pos rfl]
  | case2 visited current differs new next up ih =>
    rw [meetsFrom]
    simp only [differs, ↓reduceIte, new, not_false_eq_true, ↓reduceDIte]
    split
    next other up' => rw [← ih, Option.some.inj (up.symm.trans up')]
    next top => exact nomatch up.symm.trans top
  | case3 visited current differs new top =>
    rw [meetsFrom]
    simp only [differs, ↓reduceIte, new, not_false_eq_true, ↓reduceDIte]
    split
    next other up => exact nomatch top.symm.trans up
    next => rfl
  | case4 visited current differs revisit => rw [meetsFrom]; simp [differs, revisit]

/-- That walk starts one object above the first. -/
@[simp] theorem hasPrototype_visible (start candidate : ObjectId) :
    store.visible.hasPrototype start candidate = store.hasPrototype start candidate := by
  rw [hasPrototype, hasPrototype, object_visible]
  split
  · exact store.meetsFrom_visible ..
  · rfl

/-- The walk from frame to frame asks for the variables and for the enclosing frame, but not for the
    context. -/
@[simp] theorem definingFrameWithin_visible (name : String) (steps : Nat) (start : FrameId) :
    store.visible.definingFrameWithin name steps start
      = store.definingFrameWithin name steps start := by
  induction steps generalizing start with
  | zero => rfl
  | succ steps ih => simp only [definingFrameWithin, frame_visible, Frame.visible, ih]

/-- The walk is bounded by the number of frames, which is the same. -/
@[simp] theorem definingFrame?_visible (start : FrameId) (name : String) :
    store.visible.definingFrame? start name = store.definingFrame? start name := by
  rw [definingFrame?, definingFrame?, size_frames_visible, definingFrameWithin_visible]

/-- A variable is read from the frame that the walk comes to. -/
@[simp] theorem readFrame?_visible (start : FrameId) (name : String) :
    store.visible.readFrame? start name = store.readFrame? start name := by
  simp only [readFrame?, definingFrame?_visible, frame_visible, Frame.visible]

end Walks

/-! ### Names and texts -/

section Names

variable (store : Store)

/-- A frame keeps its kind, so that the top level is told apart as before. -/
@[simp] theorem isModule_visible (scope : LocalsId) :
    store.visible.isModule scope = store.isModule scope := by
  simp only [isModule, scope_visible, frame_visible, Frame.visible]

/-- A name stands for the same place: both walks come to the same end. -/
@[simp] theorem resolve_visible (scope : LocalsId) (name : String) :
    store.visible.resolve scope name = store.resolve scope name := by
  simp only [resolve, scope_visible, definingFrame?_visible, lookupOn_visible]

/-- What the place holds is the same as well, as it is a variable or a slot. -/
@[simp] theorem readVariable?_visible (scope : LocalsId) (name : String) :
    store.visible.readVariable? scope name = store.readVariable? scope name := by
  rw [readVariable?, readVariable?, resolve_visible]
  congr 1
  funext binding
  cases binding with
  | inFrame frame => simp only [readBinding?, frame_visible, Frame.visible]
  | onObject holder => rfl

/-- The text of a value, by induction on the nesting that is left.  Only lists and maps are looked
    into, and frames are shown without what is in them. -/
@[simp] theorem displayWithin_visible (format : NumberFormat) (nesting : Nat)
    (value : Value) :
    store.visible.displayWithin format nesting value
      = store.displayWithin format nesting value := by
  induction nesting generalizing value with
  | zero =>
    cases value with
    | bool value => cases value <;> rfl
    | _ => rfl
  | succ nesting ih =>
    cases value with
    | bool value => cases value <;> rfl
    -- The items are the same, and so are their texts, by the induction.
    | list id => simp only [displayWithin, list_visible, ih]
    | map id => simp only [displayWithin, map_visible, ih]
    | _ => rfl

/-- The text with the whole nesting that is allowed. -/
@[simp] theorem display_visible (format : NumberFormat) (value : Value) :
    store.visible.display format value = store.display format value :=
  store.displayWithin_visible format displayNesting value

/-- What a method remembers is the frame of its scope, or nothing at the top level. -/
@[simp] theorem methodHome_visible (scope : LocalsId) :
    methodHome store.visible scope = methodHome store scope := by
  simp only [methodHome, isModule_visible, scope_visible]

end Names

end Store

/-- The format for numbers is a setting other than those that are hidden. -/
@[simp] theorem Engine.display_visible (engine : Engine) (value : Value) :
    engine.visible.display value = engine.display value :=
  engine.store.display_visible ..

end SlotTalk
