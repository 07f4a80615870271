import SlotTalk.Proofs.Calculation
import SlotTalk.Proofs.Visible

namespace SlotTalk

/-!
# Ordinary actions

All but three of the actions that an evaluation takes are routine: they read what is visible,
change or add cells in one of a few ways, print, give out identities, and do not fail for lack of
depth.  The three are the reading of the running call and the counting of activations.  A routine
action is ordinary if it does not raise what a program made, as only one built-in does.

* `Store.Change`, `Store.Extension` — the ways in which cells change and come into being.  No object
  is without a prototype afterwards, and no key occurs twice in what is new.
* `Store.Kept` — what is true of a store after any of them if it was true before.
* `Action.Routine` — the actions built from them.
* `Routine.level`, `Routine.keeps` — they leave depth and settings alone, and keep what is kept.
* `Action.Ordinary` — the ones whose errors are plain.
* `Ordinary.ite`, `Ordinary.store` and the others — how ordinary actions are put together.
-/

/-! ### Steps on the store -/

namespace Store

/-- A cell that exists is changed. -/
inductive Change : (Store → Store) → Prop where
  | putSlot (id : ObjectId) (key : Text) (value : Value) : Change (·.putSlot id key value)
  | eraseSlot (id : ObjectId) (key : String) : Change (·.eraseSlot id key)
  | setPrototype (id prototype : ObjectId) : Change (·.setPrototype id (some prototype))
  | modifyList (id : ListId) (change : Array Value → Array Value) : Change (·.modifyList id change)
  | putEntry (id : MapId) (key : Text) (value : Value) : Change (·.modifyMap id (·.put key value))
  | eraseEntry (id : MapId) (key : String) : Change (·.modifyMap id (·.erase key))
  | putVariable (id : FrameId) (name : Text) (value : Value) : Change (·.putVariable id name value)

/-- A new cell is made. -/
inductive Extension : {α : Type} → (Store → α × Store) → Prop where
  | addObject (prototype : ObjectId) {slots : Table Value} (distinct : slots.Distinct) :
    Extension (·.addObject { prototype := some prototype, slots := slots })
  | addList (items : Array Value) : Extension (·.addList items)
  | addMap {entries : Table Value} (distinct : entries.Distinct) : Extension (·.addMap entries)
  | addFrame {frame : Frame} (distinct : frame.vars.Distinct) : Extension (·.addFrame frame)
  | addLocals (scope : Locals) : Extension (·.addLocals scope)
  | addCall (call : Call) : Extension (·.addCall call)
  | addFunction (code : Code) : Extension (·.addFunction code)
  | addBlock (block : Block) : Extension (·.addBlock block)
  | addMethod (method : Method) : Extension (·.addMethod method)

/-- An update of a place is a change of the frame or of the object that it is in. -/
theorem Change.writeBinding (name : String) (value : Value) (binding : Binding) :
    Change (·.writeBinding name value binding) := by
  cases binding with
  | inFrame frame => exact .putVariable frame name value
  | onObject holder => exact .putSlot holder name value

/-- No change and no new cell makes the property false. -/
structure Kept (property : Store → Prop) : Prop where
  change : ∀ {change : Store → Store}, Change change → ∀ store, property store →
    property (change store)
  extend : ∀ {α : Type} {change : Store → α × Store}, Extension change → ∀ store,
    property store → property (change store).2

end Store

/-- The error is not that activations were nested too deep. -/
def RuntimeError.Shallow (error : RuntimeError) : Prop := ∀ limit, error ≠ .stackOverflow limit

/-- A calculation does not fail for lack of depth. -/
theorem shallow_of_calculation {error : RuntimeError} (h : error.OfCalculation) :
    error.Shallow := by
  cases h <;> exact nofun

/-- The error carries no value, as one that is raised does. -/
def RuntimeError.Plain (error : RuntimeError) : Prop := ∀ value text, error ≠ .exception value text

/-- A calculation raises no value. -/
theorem plain_of_calculation {error : RuntimeError} (h : error.OfCalculation) : error.Plain := by
  cases h <;> exact nofun

/-- If there is an error, it is not that activations were nested too deep. -/
def FailsShallow {α : Type} (result : Except RuntimeError α) : Prop :=
  ∀ error, result = .error error → error.Shallow

namespace FailsShallow

variable {α : Type}

/-- What does not fail does not fail for lack of depth. -/
theorem ok (value : α) : FailsShallow (.ok value) := nofun

theorem error {error : RuntimeError} (shallow : error.Shallow) :
    FailsShallow (.error error : Except RuntimeError α) :=
  fun _ same => Except.error.inj same ▸ shallow

end FailsShallow

namespace Action

variable {α β : Type}

/-! ### Routine actions -/

/-- Built from reading what is visible and from a few kinds of changes. -/
inductive Routine : {α : Type} → Action α → Prop where
  | answer {α : Type} (value : α) : Routine (pure value)
  | fail {α : Type} {error : RuntimeError} (shallow : error.Shallow) :
    Routine (throw error : Action α)
  | bind {α β : Type} {x : Action α} {f : α → Action β} (first : Routine x)
    (rest : ∀ value, Routine (f value)) : Routine (x >>= f)
  | read {α : Type} {view : Engine → Action α}
    (blind : ∀ engine : Engine, view engine.visible = view engine)
    (rest : ∀ engine, Routine (view engine)) : Routine (get >>= view)
  | change {change : Store → Store} (step : Store.Change change) : Routine (modifyStore change)
  | extend {α : Type} {change : Store → α × Store} (step : Store.Extension change) :
    Routine (updateStore change)
  | print (text : String) : Routine (print text)
  | newIdentity : Routine newIdentity

/-- Depth and settings stay, and the depth is not what fails. -/
def Level (action : Action α) : Prop :=
  ∀ before, (action.on before).2.depth = before.depth
    ∧ (action.on before).2.config = before.config ∧ FailsShallow (action.on before).1

namespace Routine

/-! ### What they leave alone -/

/-- By induction on how the action is built: nothing that it is built of counts activations. -/
theorem level {action : Action α} (h : Routine action) : action.Level := by
  intro before
  induction h generalizing before with
  | answer value => exact ⟨rfl, rfl, .ok value⟩
  | fail shallow => exact ⟨rfl, rfl, .error shallow⟩
  | bind first rest firstIH restIH =>
    obtain ⟨depth, config, shallow⟩ := firstIH before
    rw [on_bind]
    split
    -- After the first action the depth is what it was, and the second starts from there.
    next value after same =>
      rw [same] at depth config
      obtain ⟨depth', config', shallow'⟩ := restIH value after
      exact ⟨depth'.trans depth, config'.trans config, shallow'⟩
    next error after same =>
      rw [same] at depth config shallow
      exact ⟨depth, config, fun other eq => shallow other (Except.error.inj eq ▸ rfl)⟩
  | read blind rest ih => exact ih before before
  | change step => exact ⟨rfl, rfl, .ok _⟩
  | extend step => exact ⟨rfl, rfl, .ok _⟩
  | print text => exact ⟨rfl, rfl, .ok _⟩
  | newIdentity => exact ⟨rfl, rfl, .ok _⟩

/-- What every step on the store keeps is kept. -/
theorem keeps {property : Store → Prop} (kept : Store.Kept property) {action : Action α}
    (h : Routine action) {before : Engine} (holds : property before.store) :
    property (action.on before).2.store := by
  induction h generalizing before with
  | answer | fail | print | newIdentity => exact holds
  | bind first rest firstIH restIH =>
    have between := firstIH holds
    rw [on_bind]
    split
    next value after acted =>
      rw [acted] at between
      exact restIH value between
    next error after failed =>
      rw [failed] at between
      exact between
  -- A read continues from the same store.
  | read blind rest ih => exact ih before holds
  | change step => exact kept.change step before.store holds
  | extend step => exact kept.extend step before.store holds

end Routine

/-! ### Ordinary actions -/

/-- Whatever the action fails with is plain. -/
def FailsPlainly (action : Action α) : Prop :=
  ∀ before after error, action.on before = (.error error, after) → error.Plain

/-- A routine action that raises nothing a program made. -/
structure Ordinary (action : Action α) : Prop where
  routine : action.Routine
  plain : action.FailsPlainly

namespace Ordinary

theorem answer (value : α) : Ordinary (pure value : Action α) :=
  ⟨.answer value, fun _ _ _ failed => nomatch failed⟩

theorem fail {error : RuntimeError} (shallow : error.Shallow) (plain : error.Plain) :
    Ordinary (throw error : Action α) := by
  refine ⟨.fail shallow, fun _ _ _ failed => ?_⟩
  obtain ⟨same, -⟩ := Prod.mk.inj failed
  exact Except.error.inj same ▸ plain

theorem bind {x : Action α} {f : α → Action β} (first : Ordinary x)
    (rest : ∀ value, Ordinary (f value)) : Ordinary (x >>= f) := by
  refine ⟨.bind first.routine fun value => (rest value).routine, fun before _ _ failed => ?_⟩
  rw [on_bind] at failed
  split at failed
  next value between acted => exact (rest value).plain _ _ _ failed
  next error between failed' =>
    obtain ⟨same, -⟩ := Prod.mk.inj failed
    exact Except.error.inj same ▸ first.plain before _ _ failed'

theorem read {view : Engine → Action α}
    (blind : ∀ engine : Engine, view engine.visible = view engine)
    (rest : ∀ engine, Ordinary (view engine)) : Ordinary (get >>= view) :=
  ⟨.read blind fun engine => (rest engine).routine, fun before => (rest before).plain before⟩

theorem change {change : Store → Store} (step : Store.Change change) :
    Ordinary (modifyStore change) := ⟨.change step, fun _ _ _ failed => nomatch failed⟩

theorem extend {change : Store → α × Store} (step : Store.Extension change) :
    Ordinary (updateStore change) := ⟨.extend step, fun _ _ _ failed => nomatch failed⟩

theorem print (text : String) : Ordinary (Action.print text) :=
  ⟨.print text, fun _ _ _ failed => nomatch failed⟩

theorem newIdentity : Ordinary Action.newIdentity :=
  ⟨.newIdentity, fun _ _ _ failed => nomatch failed⟩

/-! ### Closure -/

/-- A choice between ordinary actions is ordinary, whichever way is taken. -/
theorem ite {condition : Prop} [Decidable condition] {x y : Action α} (hx : Ordinary x)
    (hy : Ordinary y) : Ordinary (if condition then x else y) := by
  split
  · exact hx
  · exact hy

/-- A value of the wrong kind is an error that is neither deep nor raised. -/
theorem mismatch (expected : String) (got : Value) :
    Ordinary (throw (RuntimeError.mismatch expected got) : Action α) := fail nofun nofun

/-- A result that was calculated before. -/
theorem ofExcept {result : Except RuntimeError α} {answers : α → Prop}
    (ended : Calculates answers result) : Ordinary (Action.ofExcept result) := by
  cases result with
  | ok value => exact answer value
  | error error => exact fail (shallow_of_calculation ended) (plain_of_calculation ended)

/-- A calculation may make a big integer, which gets an identity. -/
theorem ofCalculation {result : Except RuntimeError Value} {answers : Value → Prop}
    (ended : Calculates answers result) : Ordinary (Action.ofCalculation result) := by
  refine bind (ofExcept ended) fun value => ?_
  split
  · exact bind newIdentity fun _ => answer _
  · exact answer _

/-- Reading the store is ordinary if what is done with it only needs what is visible. -/
theorem store {view : Store → Action α}
    (blind : ∀ store : Store, view store.visible = view store)
    (rest : ∀ store, Ordinary (view store)) : Ordinary (Action.store >>= view) := by
  show Ordinary (get >>= fun engine => view engine.store)
  exact read (fun engine => blind engine.store) fun engine => rest engine.store

/-- An answer made of what is visible. -/
theorem view {view : Store → α} (blind : ∀ store : Store, view store.visible = view store) :
    Ordinary (return view (← Action.store)) :=
  store (fun store => by rw [blind store]) fun _ => answer _

/-- A changed cell. -/
theorem edit {change : Store → Store} (step : Store.Change change) (value : α) :
    Ordinary (do Action.modifyStore change; return value) :=
  bind (.change step) fun _ => answer value

/-! ### New cells and texts -/

/-- A new text gets an identity. -/
theorem newText (content : String) : Ordinary (Action.newText content) :=
  bind newIdentity fun _ => answer _

/-- A new text that is a value. -/
theorem newString (content : String) : Ordinary (Action.newString content) :=
  bind (newText content) fun _ => answer _

/-- A new object has a prototype, and no key twice. -/
theorem newObject (prototype : ObjectId) {slots : Table Value} (distinct : slots.Distinct) :
    Ordinary (Action.newObject { prototype := some prototype, slots := slots }) :=
  bind (extend (.addObject prototype distinct)) fun _ => answer _

/-- A clone has no slots of its own. -/
theorem cloneOf (prototype : ObjectId) : Ordinary (Action.cloneOf prototype) :=
  extend (.addObject prototype .empty)

/-- A new list. -/
theorem newList (items : List Value) : Ordinary (Action.newList items) :=
  bind (extend (.addList _)) fun _ => answer _

/-- A new map has no key twice. -/
theorem newMap {entries : Table Value} (distinct : entries.Distinct) :
    Ordinary (Action.newMap entries) :=
  bind (extend (.addMap distinct)) fun _ => answer _

/-- To display a value reads what is visible of the state. -/
theorem display (value : Value) : Ordinary (Action.display value) :=
  read (fun engine => by rw [engine.display_visible]) fun _ => answer _

/-! ### Kinds of values -/

/-- The kinds of values: each is looked at, and refused if it is another. -/
theorem expectObject (value : Value) : Ordinary value.expectObject := by
  cases value with
  | object id => exact answer id
  | _ => exact mismatch ..

theorem expectText (value : Value) : Ordinary value.expectText := by
  cases value with
  | string text => exact answer text
  | _ => exact mismatch ..

theorem expectString (value : Value) : Ordinary value.expectString :=
  bind (expectText value) fun _ => answer _

theorem expectList (value : Value) : Ordinary value.expectList := by
  cases value with
  | list id => exact answer id
  | _ => exact mismatch ..

theorem expectMap (value : Value) : Ordinary value.expectMap := by
  cases value with
  | map id => exact answer id
  | _ => exact mismatch ..

/-- A position is an integer in a word, or a float that is one. -/
theorem expectPosition (value : Value) : Ordinary value.expectPosition := by
  unfold Value.expectPosition
  split
  · exact answer _
  · split
    · exact answer _
    · exact mismatch ..
  · exact mismatch ..

theorem expectDate (value : Value) : Ordinary (DatePrimitive.expectDate value) := by
  cases value with
  | date date => exact answer date
  | _ => exact mismatch ..

theorem expectLocals (value : Value) : Ordinary (LocalsPrimitive.expectLocals value) := by
  cases value with
  | locals id => exact answer id
  | _ => exact mismatch ..

/-- Code of any kind. -/
theorem expectInvokable (value : Value) : Ordinary (SlotTalk.expectInvokable value) := by
  unfold SlotTalk.expectInvokable
  split
  · exact answer _
  · exact mismatch ..

/-! ### Names -/

/-- The `self` of a scope is visible. -/
theorem selfOf (scope : LocalsId) : Ordinary (Action.selfOf scope) := view fun _ => rfl

/-- What is found on a value is visible. -/
theorem findOn (receiver : Value) (name : String) : Ordinary (Action.findOn receiver name) :=
  view fun store => store.lookupOn_visible receiver name

/-- What is found in the frames around a scope is visible. -/
theorem findVariable (scope : LocalsId) (name : String) :
    Ordinary (Action.findVariable scope name) :=
  view fun store => store.readFrame?_visible ..

/-- A definition changes the object that `self` is, at the top level, and else the frame of the
    scope. -/
theorem defineVariable (scope : LocalsId) (name : Text) (value : Value) :
    Ordinary (Action.defineVariable scope name value) :=
  store (fun store => by simp) fun _ =>
    ite (bind (expectObject _) fun _ => change (.putSlot ..)) (change (.putVariable ..))

/-- An update changes the place that the name stands for, or fails if there is none. -/
theorem updateVariable (scope : LocalsId) (name : String) (value : Value) :
    Ordinary (Action.updateVariable scope name value) := by
  refine store (fun store => by simp) fun store => ?_
  split
  · exact change (.writeBinding ..)
  · exact fail nofun nofun

/-- An update of a slot changes the object that owns it. -/
theorem updateSlot (receiver : Value) (key : String) (value : Value) :
    Ordinary (Action.updateSlot receiver key value) := by
  refine store (fun store => by simp) fun store => ?_
  split
  · exact edit (.putSlot ..) _
  · exact answer _

/-- What is removed is answered as it was. -/
theorem removeSlot (id : ObjectId) (key : String) : Ordinary (Action.removeSlot id key) :=
  store (fun _ => rfl) fun _ => edit (.eraseSlot id key) _

end Ordinary

end Action

end SlotTalk
