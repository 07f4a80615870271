import SlotTalk.Proofs.Evolution
import SlotTalk.Proofs.Signals

namespace SlotTalk

/-!
# Policies

A policy says which cells and big integers a program may hold, which nodes it may have evaluated and
which messages it may send.  A store is closed under it if what may be held leads to nothing else.
Writing what may be held into cells that may be held keeps a store closed, and leaves all other
cells as they were.

* `Policy` — what may be held, evaluated and sent, with what evaluation takes for granted; and
  `Policy.everything`, which others restrict.
* `Policy.Holds`, `Policy.Raises`, `Policy.Outcome` — values and results that are made of them.
* `Policy.Linked` — what may be held leads to nothing else.
* `Policy.Closed`, `Policy.Spares`, `Policy.Step` — linked stores with room for new cells, untouched
  cells, and both.
* `Policy.Lenient` — a policy that restricts code only.
* `Linked.putSlot`, `Closed.putSlot` and their siblings — the writes.
* `Linked.lookupOn`, `Linked.readVariable?` and the others — the reads.
-/

/-- Neither a `break` nor a `continue` comes out of the node. -/
def Node.Enclosed (node : Node) : Prop := ¬ node.Free .breaks ∧ ¬ node.Free .continues

/-- The code of a block or method literal. -/
def Node.closureCode? : Node → Option Code
  | .block parameters body uses | .method parameters body uses => some ⟨parameters, body, uses⟩
  | _ => none

/-- What programs may hold, evaluate and send. -/
structure Policy where
  /-- The cell may be held. -/
  ref : {cell : Cell} → Ref cell → Prop
  /-- The integer may be held as a big one. -/
  big : Int → Prop
  /-- The node may be evaluated. -/
  node : Node → Prop
  /-- A block or method may be made of the code. -/
  closure : Code → Prop
  /-- The message may be sent with the arguments. -/
  sends : Message → List Value → Prop
  /-- A signal to a loop may come to the end of an activation. -/
  stray : Prop
  lobby : ref lobbyObject
  shared (prototype : Prototype) : ref prototype.id
  topScope : ref World.moduleLocals
  thread : ref World.coroutine
  wide {n : Int} : fitsWord n = false → big n
  counted {message : Message} {arguments : List Value} :
    message.argumentCount = arguments.length → sends message arguments
  empty : node .nil
  part {parent child : Node} : node parent → child ∈ parent.parts → node child
  body {parent child : Node} : node parent → parent.loopBody? = some child → node child
  literal {parent : Node} {code : Code} : node parent → parent.literalCode? = some code →
    node code.body ∧ (stray ∨ code.body.Enclosed)
  closes {parent : Node} {code : Code} : node parent → parent.closureCode? = some code →
    closure code

namespace Policy

/-- Everything may be held, evaluated and sent. -/
def everything : Policy where
  ref _ := True
  big _ := True
  node _ := True
  closure _ := True
  sends _ _ := True
  stray := True
  lobby := trivial
  shared _ := trivial
  topScope := trivial
  thread := trivial
  wide _ := trivial
  counted _ := trivial
  empty := trivial
  part _ _ := trivial
  body _ _ := trivial
  literal _ _ := ⟨trivial, .inl trivial⟩
  closes _ _ := trivial

variable (policy : Policy)

/-! ### Values and cells -/

/-- The value is no reference to a cell that may not be held, and no such big integer. -/
def Holds : Value → Prop
  | .big n _ => policy.big n
  | .object id => policy.ref id
  | .list id => policy.ref id
  | .map id => policy.ref id
  | .call id => policy.ref id
  | .locals id => policy.ref id
  | .coroutine id => policy.ref id
  | .function id => policy.ref id
  | .block id => policy.ref id
  | .method id => policy.ref id
  | .nil | .bool _ | .int _ | .float _ | .string _ | .date _ | .message _ | .primitive _ => True

/-- A value that may be missing. -/
def HoldsOption (value : Option Value) : Prop := ∀ held, value = some held → policy.Holds held

/-- A reference that may be missing. -/
def Links {cell : Cell} (id : Option (Ref cell)) : Prop := ∀ next, id = some next → policy.ref next

/-- Code that may run. -/
def Runs (code : Code) : Prop := policy.node code.body ∧ (policy.stray ∨ code.body.Enclosed)

/-- All items of a list may be held. -/
def HoldsItems (items : Array Value) : Prop := ∀ item ∈ items, policy.Holds item

/-- All that the object refers to may be held. -/
structure HoldsObject (object : Object) : Prop where
  prototype : policy.Links object.prototype
  slots : object.slots.All policy.Holds

/-- All that the frame leads to may be held: the running call, the variables and the enclosing
    frame. -/
structure HoldsFrame (frame : Frame) : Prop where
  context : policy.Holds frame.context
  vars : frame.vars.All policy.Holds
  outer : policy.Links frame.outer

/-- The place that a name stands for may be held. -/
def HoldsBinding : Binding → Prop
  | .inFrame frame => policy.ref frame
  | .onObject holder => policy.ref holder

/-- The `self` of the scope and its frame may be held. -/
structure HoldsScope (scope : Locals) : Prop where
  self : policy.Holds scope.self
  frame : policy.ref scope.frame

/-- All that the call tells may be held. -/
structure HoldsCall (call : Call) : Prop where
  sender : policy.ref call.sender
  target : policy.Holds call.target
  slotContext : policy.Holds call.slotContext
  activated : policy.Holds call.activated.toValue
  coroutine : policy.ref call.coroutine

/-- The block may run, may be made of its code, and leads to the scope that it was written in. -/
structure HoldsBlock (block : Block) : Prop where
  code : policy.Runs block.code
  closure : policy.closure block.code
  sender : policy.ref block.sender

/-- The method may run, may be made of its code, and leads to the frame that it remembers. -/
structure HoldsMethod (method : Method) : Prop where
  code : policy.Runs method.code
  closure : policy.closure method.code
  outer : policy.Links method.outer

/-! ### Results -/

/-- The error may be raised, and what it carries may be held. -/
def Raises : RuntimeError → Prop
  | .exception value _ => policy.Holds value
  | .signalOutsideLoop _ => policy.stray
  | _ => True

/-- How something may end whose answers have the property. -/
def Ends {α : Type} (answers : α → Prop) : Except RuntimeError α → Prop
  | .ok answer => answers answer
  | .error error => policy.Raises error

/-- What the unwinding carries may be held. -/
def Unwinds : Unwind → Prop
  | .failed report => policy.Raises report.error
  | .broke value => policy.HoldsOption value
  | .continued => True
  | .returned value => policy.Holds value

/-- How an evaluation may end whose values have the property. -/
def Outcome {α : Type} (values : α → Prop) : Except Unwind α → Prop
  | .ok value => values value
  | .error unwind => policy.Unwinds unwind

/-! ### Stores -/

/-- What may be held leads only to what may be held. -/
structure Linked (store : Store) : Prop where
  object {id : ObjectId} : policy.ref id → policy.HoldsObject (store.object id)
  list {id : ListId} : policy.ref id → policy.HoldsItems (store.list id)
  map {id : MapId} : policy.ref id → (store.map id).All policy.Holds
  frame {id : FrameId} : policy.ref id → policy.HoldsFrame (store.frame id)
  scope {id : LocalsId} : policy.ref id → policy.HoldsScope (store.scope id)
  call {id : CallId} : policy.ref id → policy.HoldsCall (store.call id)
  function {id : FunctionId} : policy.ref id → policy.Runs (store.function id)
  block {id : BlockId} : policy.ref id → policy.HoldsBlock (store.block id)
  method {id : MethodId} : policy.ref id → policy.HoldsMethod (store.method id)

/-- What may be held leads only to what may be held, and new cells may be held. -/
structure Closed (store : Store) : Prop extends policy.Linked store where
  fresh {cell : Cell} {id : Ref cell} : store.count cell ≤ id.index → policy.ref id

/-- Of the cells that can change, those that may not be held stay as they are. -/
structure Spares (before after : Store) : Prop where
  object {id : ObjectId} : ¬ policy.ref id → after.object id = before.object id
  list {id : ListId} : ¬ policy.ref id → after.list id = before.list id
  map {id : MapId} : ¬ policy.ref id → after.map id = before.map id
  frame {id : FrameId} : ¬ policy.ref id → after.frame id = before.frame id

/-- The policy is kept from the first store to the second. -/
structure Step (before after : Store) : Prop where
  closed : policy.Closed after
  spares : policy.Spares before after

variable {policy} {store : Store}

/-- A value that may be missing, with another in its place. -/
theorem HoldsOption.getD {value : Option Value} (held : policy.HoldsOption value)
    {other : Value} (otherwise : policy.Holds other) : policy.Holds (value.getD other) := by
  cases value with
  | none => exact otherwise
  | some found => exact held found rfl

/-- A reference that is there. -/
theorem links_some {cell : Cell} {id : Ref cell} (held : policy.ref id) :
    policy.Links (some id) :=
  fun _ same => Option.some.inj same ▸ held

/-- No reference leads nowhere. -/
theorem links_none {cell : Cell} : policy.Links (none : Option (Ref cell)) := nofun

/-- A list without items leads nowhere. -/
theorem holdsItems_empty : policy.HoldsItems #[] := nofun

/-- Where nothing is changed all is spared. -/
theorem Spares.refl (store : Store) : policy.Spares store store :=
  ⟨fun _ => rfl, fun _ => rfl, fun _ => rfl, fun _ => rfl⟩

/-- No step is one, from a closed store. -/
theorem Step.refl (closed : policy.Closed store) : policy.Step store store :=
  ⟨closed, .refl store⟩

/-- Two steps make one: what is out of reach is spared by both. -/
theorem Step.trans {before between after : Store} (first : policy.Step before between)
    (second : policy.Step between after) : policy.Step before after where
  closed := second.closed
  spares :=
    { object := fun out => (second.spares.object out).trans (first.spares.object out)
      list := fun out => (second.spares.list out).trans (first.spares.list out)
      map := fun out => (second.spares.map out).trans (first.spares.map out)
      frame := fun out => (second.spares.frame out).trans (first.spares.frame out) }

/-! ### Policies about code -/

/-- All cells and all integers may be held, so that only code matters. -/
structure Lenient (policy : Policy) : Prop where
  ref : ∀ {cell : Cell} (id : Ref cell), policy.ref id
  big : ∀ n, policy.big n

namespace Lenient

variable (lenient : policy.Lenient)
include lenient

/-- Under a lenient policy any value may be held. -/
theorem holds (value : Value) : policy.Holds value := by
  cases value with
  | big n identity => exact lenient.big n
  | object | list | map | call | locals | coroutine | function | block | method =>
    exact lenient.ref _
  | _ => trivial

/-- Only the code in a store matters. -/
theorem closed_of_code (functions : ∀ id, policy.Runs (store.function id))
    (blocks : ∀ id, policy.Runs (store.block id).code ∧ policy.closure (store.block id).code)
    (methods : ∀ id, policy.Runs (store.method id).code ∧ policy.closure (store.method id).code) :
    policy.Closed store where
  fresh _ := lenient.ref _
  object _ := ⟨fun _ _ => lenient.ref _, fun entry _ => lenient.holds entry.2⟩
  list _ := fun item _ => lenient.holds item
  map _ := fun entry _ => lenient.holds entry.2
  frame _ := ⟨lenient.holds _, fun entry _ => lenient.holds entry.2, fun _ _ => lenient.ref _⟩
  scope _ := ⟨lenient.holds _, lenient.ref _⟩
  call _ :=
    ⟨lenient.ref _, lenient.holds _, lenient.holds _, lenient.holds _, lenient.ref _⟩
  function {id} _ := functions id
  block {id} _ := ⟨(blocks id).1, (blocks id).2, lenient.ref _⟩
  method {id} _ := ⟨(methods id).1, (methods id).2, fun _ _ => lenient.ref _⟩

end Lenient

/-! ### Cells that change -/

section Writes

variable {cell : Cell} {α : Type} {property : α → Prop} {id other : Ref cell} {inside : Prop}
  [Decidable inside] {new old : α}

/-- What one cell of a kind holds after another one, or the same, was changed. -/
theorem holds_of_write (written : id = other → property new) (kept : property old) :
    property (if id.index = other.index ∧ inside then new else old) := by
  split
  next same => exact written (congrArg Ref.mk same.1)
  next => exact kept

/-- A cell that may not be held is not the one that was changed. -/
theorem spared_of_write (held : policy.ref id) (out : ¬ policy.ref other) :
    (if id.index = other.index ∧ inside then new else old) = old := by
  refine if_neg fun same => ?_
  have equal : id = other := congrArg Ref.mk same.1
  exact out (equal ▸ held)

/-- What a cell holds after one was added. -/
theorem holds_of_new {size : Nat} (added : property new) (kept : property old) :
    property (if id.index = size then new else old) := by
  split
  next => exact added
  next => exact kept

end Writes

section Changes

variable (linked : policy.Linked store)
include linked

/-- An object is changed, and if it may be held, what it leads to now may be held.  An object out of
    reach may be changed in any way: nothing that may be held leads to it. -/
theorem Linked.modifyObject {id : ObjectId} {change : Object → Object}
    (kept : policy.ref id → policy.HoldsObject (change (store.object id))) :
    policy.Linked (store.modifyObject id change) := by
  refine { linked with object := fun {other} ref => ?_ }
  rw [Store.object_modifyObject]
  exact holds_of_write (fun same => same ▸ kept (same ▸ ref)) (linked.object ref)

/-- A slot with a value that may be held. -/
theorem Linked.putSlot (id : ObjectId) (key : Text) {value : Value} (new : policy.Holds value) :
    policy.Linked (store.putSlot id key value) :=
  linked.modifyObject fun held =>
    ⟨(linked.object held).prototype, (linked.object held).slots.put key new⟩

/-- One slot less. -/
theorem Linked.eraseSlot (id : ObjectId) (key : String) : policy.Linked (store.eraseSlot id key) :=
  linked.modifyObject fun held =>
    ⟨(linked.object held).prototype, (linked.object held).slots.erase key⟩

/-- A prototype that may be held. -/
theorem Linked.setPrototype (id : ObjectId) {next : ObjectId} (new : policy.ref next) :
    policy.Linked (store.setPrototype id (some next)) :=
  linked.modifyObject fun held => ⟨links_some new, (linked.object held).slots⟩

/-- A list with other items, of which the same is true. -/
theorem Linked.modifyList {id : ListId} {change : Array Value → Array Value}
    (kept : policy.ref id → policy.HoldsItems (change (store.list id))) :
    policy.Linked (store.modifyList id change) := by
  refine { linked with list := fun {other} ref => ?_ }
  rw [Store.list_modifyList]
  exact holds_of_write (fun same => same ▸ kept (same ▸ ref)) (linked.list ref)

/-- A map with other entries, of which the same is true. -/
theorem Linked.modifyMap {id : MapId} {change : Table Value → Table Value}
    (kept : policy.ref id → (change (store.map id)).All policy.Holds) :
    policy.Linked (store.modifyMap id change) := by
  refine { linked with map := fun {other} ref => ?_ }
  rw [Store.map_modifyMap]
  exact holds_of_write (fun same => same ▸ kept (same ▸ ref)) (linked.map ref)

/-- An entry with a value that may be held. -/
theorem Linked.putEntry (id : MapId) (key : Text) {value : Value} (new : policy.Holds value) :
    policy.Linked (store.modifyMap id (·.put key value)) :=
  linked.modifyMap fun held => (linked.map held).put key new

/-- One entry less. -/
theorem Linked.eraseEntry (id : MapId) (key : String) :
    policy.Linked (store.modifyMap id (·.erase key)) :=
  linked.modifyMap fun held => (linked.map held).erase key

/-- A variable with a value that may be held; the context of the frame and its place stay. -/
theorem Linked.putVariable (id : FrameId) (name : Text) {value : Value}
    (new : policy.Holds value) : policy.Linked (store.putVariable id name value) := by
  refine { linked with frame := fun {other} ref => ?_ }
  have before := linked.frame ref
  rw [Store.putVariable, Store.frame_modifyFrame]
  exact holds_of_write
    (fun _ => ⟨before.context, before.vars.put name new, before.outer⟩) before

end Changes

/-- A change makes no cell, so that the cells that are not there yet are the same. -/
theorem Closed.fresh_of_change (closed : policy.Closed store) {change : Store → Store}
    (step : Store.Change change) {cell : Cell} {id : Ref cell}
    (beyond : (change store).count cell ≤ id.index) : policy.ref id :=
  closed.fresh (Store.count_change step cell ▸ beyond)

/-- An object that may be held is changed.  All others are spared, those out of reach among them. -/
theorem Closed.modifyObject (closed : policy.Closed store) {id : ObjectId} (held : policy.ref id)
    {change : Object → Object} (step : Store.Change (·.modifyObject id change))
    (kept : policy.HoldsObject (change (store.object id))) :
    policy.Step store (store.modifyObject id change) := by
  refine ⟨⟨closed.toLinked.modifyObject fun _ => kept, closed.fresh_of_change step⟩, ?_⟩
  refine { Spares.refl store with object := fun out => ?_ }
  rw [Store.object_modifyObject]
  exact spared_of_write held out

/-- A slot of an object that may be held is put. -/
theorem Closed.putSlot (closed : policy.Closed store) {id : ObjectId} (held : policy.ref id)
    (key : Text) {value : Value} (new : policy.Holds value) :
    policy.Step store (store.putSlot id key value) := by
  have before := closed.object held
  have slots := before.slots.put key new
  exact closed.modifyObject held (.putSlot id key value) ⟨before.prototype, slots⟩

/-- A slot of such an object is removed. -/
theorem Closed.eraseSlot (closed : policy.Closed store) {id : ObjectId} (held : policy.ref id)
    (key : String) : policy.Step store (store.eraseSlot id key) := by
  have before := closed.object held
  have slots := before.slots.erase key
  exact closed.modifyObject held (.eraseSlot id key) ⟨before.prototype, slots⟩

/-- Such an object is put below another. -/
theorem Closed.setPrototype (closed : policy.Closed store) {id next : ObjectId}
    (held : policy.ref id) (new : policy.ref next) :
    policy.Step store (store.setPrototype id (some next)) := by
  have before := closed.object held
  exact closed.modifyObject held (.setPrototype id next) ⟨links_some new, before.slots⟩

/-- A list that may be held is changed. -/
theorem Closed.modifyList (closed : policy.Closed store) {id : ListId} (held : policy.ref id)
    {change : Array Value → Array Value} (kept : policy.HoldsItems (change (store.list id))) :
    policy.Step store (store.modifyList id change) := by
  refine ⟨⟨closed.toLinked.modifyList fun _ => kept, closed.fresh_of_change (.modifyList ..)⟩, ?_⟩
  refine { Spares.refl store with list := fun out => ?_ }
  rw [Store.list_modifyList]
  exact spared_of_write held out

/-- A map that may be held is changed. -/
theorem Closed.modifyMap (closed : policy.Closed store) {id : MapId} (held : policy.ref id)
    {change : Table Value → Table Value} (step : Store.Change (·.modifyMap id change))
    (kept : (change (store.map id)).All policy.Holds) :
    policy.Step store (store.modifyMap id change) := by
  refine ⟨⟨closed.toLinked.modifyMap fun _ => kept, closed.fresh_of_change step⟩, ?_⟩
  refine { Spares.refl store with map := fun out => ?_ }
  rw [Store.map_modifyMap]
  exact spared_of_write held out

/-- An entry of such a map is put. -/
theorem Closed.putEntry (closed : policy.Closed store) {id : MapId} (held : policy.ref id)
    (key : Text) {value : Value} (new : policy.Holds value) :
    policy.Step store (store.modifyMap id (·.put key value)) :=
  closed.modifyMap held (.putEntry id key value) ((closed.map held).put key new)

/-- An entry of such a map is removed. -/
theorem Closed.eraseEntry (closed : policy.Closed store) {id : MapId} (held : policy.ref id)
    (key : String) : policy.Step store (store.modifyMap id (·.erase key)) :=
  closed.modifyMap held (.eraseEntry id key) ((closed.map held).erase key)

/-- A variable of a frame that may be held is put. -/
theorem Closed.putVariable (closed : policy.Closed store) {id : FrameId} (held : policy.ref id)
    (name : Text) {value : Value} (new : policy.Holds value) :
    policy.Step store (store.putVariable id name value) := by
  refine ⟨⟨closed.toLinked.putVariable id name new, closed.fresh_of_change (.putVariable ..)⟩, ?_⟩
  refine { Spares.refl store with frame := fun out => ?_ }
  rw [Store.putVariable, Store.frame_modifyFrame]
  exact spared_of_write held out

/-! ### New cells -/

section Additions

variable (linked : policy.Linked store)
include linked

/-- A new object leads to what it is made with, and all others lead where they led. -/
theorem Linked.addObject {new : Object} (held : policy.HoldsObject new) :
    policy.Linked (store.addObject new).2 := by
  refine { linked with object := fun {id} ref => ?_ }
  rw [Store.object_addObject]
  exact holds_of_new held (linked.object ref)

/-- A new list, of items that may be held. -/
theorem Linked.addList {items : Array Value} (held : policy.HoldsItems items) :
    policy.Linked (store.addList items).2 := by
  refine { linked with list := fun {id} ref => ?_ }
  rw [Store.list_addList]
  exact holds_of_new held (linked.list ref)

/-- A new map, of values that may be held. -/
theorem Linked.addMap {entries : Table Value} (held : entries.All policy.Holds) :
    policy.Linked (store.addMap entries).2 := by
  refine { linked with map := fun {id} ref => ?_ }
  rw [Store.map_addMap]
  exact holds_of_new held (linked.map ref)

/-- A new frame. -/
theorem Linked.addFrame {new : Frame} (held : policy.HoldsFrame new) :
    policy.Linked (store.addFrame new).2 := by
  refine { linked with frame := fun {id} ref => ?_ }
  rw [Store.frame_addFrame]
  exact holds_of_new held (linked.frame ref)

/-- A new scope.  It may also be the one that is read for all that do not exist. -/
theorem Linked.addLocals {new : Locals} (held : policy.HoldsScope new) :
    policy.Linked (store.addLocals new).2 := by
  refine { linked with scope := fun {id} ref => ?_ }
  rcases store.scope_addLocals_eq_or new id with same | same
  · rw [same]
    exact held
  · rw [same]
    exact linked.scope ref

/-- A new call. -/
theorem Linked.addCall {new : Call} (held : policy.HoldsCall new) :
    policy.Linked (store.addCall new).2 := by
  refine { linked with call := fun {id} ref => ?_ }
  rw [Store.call_addCall]
  -- What is recorded differs in the name of the message only.
  exact holds_of_new
    ⟨held.sender, held.target, held.slotContext, held.activated, held.coroutine⟩ (linked.call ref)

/-- A new function. -/
theorem Linked.addFunction {new : Code} (held : policy.Runs new) :
    policy.Linked (store.addFunction new).2 := by
  refine { linked with function := fun {id} ref => ?_ }
  rw [Store.function_addFunction]
  exact holds_of_new held (linked.function ref)

/-- A new block. -/
theorem Linked.addBlock {new : Block} (held : policy.HoldsBlock new) :
    policy.Linked (store.addBlock new).2 := by
  refine { linked with block := fun {id} ref => ?_ }
  rw [Store.block_addBlock]
  exact holds_of_new held (linked.block ref)

/-- A new method. -/
theorem Linked.addMethod {new : Method} (held : policy.HoldsMethod new) :
    policy.Linked (store.addMethod new).2 := by
  refine { linked with method := fun {id} ref => ?_ }
  rw [Store.method_addMethod]
  exact holds_of_new held (linked.method ref)

end Additions

section NewCells

variable (closed : policy.Closed store)
include closed

/-- With a new cell there are fewer that are not there yet. -/
theorem Closed.fresh_of_extension {α : Type} {change : Store → α × Store}
    (step : Store.Extension change) {cell : Cell} {id : Ref cell}
    (beyond : (change store).2.count cell ≤ id.index) : policy.ref id :=
  closed.fresh (Nat.le_trans (Store.count_extension step cell) beyond)

/-- A new cell may be held, so that no other is made in its place. -/
theorem Closed.spares_of_extension {α : Type} {change : Store → α × Store}
    (step : Store.Extension change) : policy.Spares store (change store).2 := by
  have place : ∀ {cell : Cell} {id : Ref cell}, ¬ policy.ref id → id.index ≠ store.count cell :=
    fun out same => out (closed.fresh (Nat.le_of_eq same.symm))
  -- Only these four kinds of cells are spared one by one; the others never change.
  cases step with
  | addObject =>
    refine { Spares.refl store with object := fun out => ?_ }
    exact (Store.object_addObject ..).trans (if_neg (place out))
  | addList items =>
    refine { Spares.refl store with list := fun out => ?_ }
    exact (Store.list_addList ..).trans (if_neg (place out))
  | addMap =>
    refine { Spares.refl store with map := fun out => ?_ }
    exact (Store.map_addMap ..).trans (if_neg (place out))
  | addFrame =>
    refine { Spares.refl store with frame := fun out => ?_ }
    exact (Store.frame_addFrame ..).trans (if_neg (place out))
  | _ => exact ⟨fun _ => rfl, fun _ => rfl, fun _ => rfl, fun _ => rfl⟩

/-- A store with a new cell is closed again if it is linked. -/
theorem Closed.step_of_extension {α : Type} {change : Store → α × Store}
    (step : Store.Extension change) (linked : policy.Linked (change store).2) :
    policy.Step store (change store).2 :=
  ⟨⟨linked, closed.fresh_of_extension step⟩, closed.spares_of_extension step⟩

/-- A new object below one that may be held, with slots that may be held, may be held as well. -/
theorem Closed.addObject {prototype : ObjectId} (above : policy.ref prototype)
    {slots : Table Value} (distinct : slots.Distinct) (held : slots.All policy.Holds) :
    policy.Step store (store.addObject ⟨some prototype, slots⟩).2
      ∧ policy.ref (store.addObject ⟨some prototype, slots⟩).1 :=
  ⟨closed.step_of_extension (.addObject prototype distinct)
    (closed.toLinked.addObject ⟨links_some above, held⟩), closed.fresh (Nat.le_refl _)⟩

/-- A new list may be held. -/
theorem Closed.addList {items : Array Value} (held : policy.HoldsItems items) :
    policy.Step store (store.addList items).2 ∧ policy.ref (store.addList items).1 :=
  ⟨closed.step_of_extension (.addList items) (closed.toLinked.addList held),
    closed.fresh (Nat.le_refl _)⟩

/-- A new map may be held. -/
theorem Closed.addMap {entries : Table Value} (distinct : entries.Distinct)
    (held : entries.All policy.Holds) :
    policy.Step store (store.addMap entries).2 ∧ policy.ref (store.addMap entries).1 :=
  ⟨closed.step_of_extension (.addMap distinct) (closed.toLinked.addMap held),
    closed.fresh (Nat.le_refl _)⟩

/-- A new frame may be held. -/
theorem Closed.addFrame {new : Frame} (distinct : new.vars.Distinct)
    (held : policy.HoldsFrame new) :
    policy.Step store (store.addFrame new).2 ∧ policy.ref (store.addFrame new).1 :=
  ⟨closed.step_of_extension (.addFrame distinct) (closed.toLinked.addFrame held),
    closed.fresh (Nat.le_refl _)⟩

/-- A new scope may be held. -/
theorem Closed.addLocals {new : Locals} (held : policy.HoldsScope new) :
    policy.Step store (store.addLocals new).2 ∧ policy.ref (store.addLocals new).1 :=
  ⟨closed.step_of_extension (.addLocals new) (closed.toLinked.addLocals held),
    closed.fresh (Nat.le_refl _)⟩

/-- A new call may be held. -/
theorem Closed.addCall {new : Call} (held : policy.HoldsCall new) :
    policy.Step store (store.addCall new).2 ∧ policy.ref (store.addCall new).1 :=
  ⟨closed.step_of_extension (.addCall new) (closed.toLinked.addCall held),
    closed.fresh (Nat.le_refl _)⟩

/-- A new function may be held. -/
theorem Closed.addFunction {new : Code} (held : policy.Runs new) :
    policy.Step store (store.addFunction new).2 ∧ policy.ref (store.addFunction new).1 :=
  ⟨closed.step_of_extension (.addFunction new) (closed.toLinked.addFunction held),
    closed.fresh (Nat.le_refl _)⟩

/-- A new block may be held. -/
theorem Closed.addBlock {new : Block} (held : policy.HoldsBlock new) :
    policy.Step store (store.addBlock new).2 ∧ policy.ref (store.addBlock new).1 :=
  ⟨closed.step_of_extension (.addBlock new) (closed.toLinked.addBlock held),
    closed.fresh (Nat.le_refl _)⟩

/-- A new method may be held. -/
theorem Closed.addMethod {new : Method} (held : policy.HoldsMethod new) :
    policy.Step store (store.addMethod new).2 ∧ policy.ref (store.addMethod new).1 :=
  ⟨closed.step_of_extension (.addMethod new) (closed.toLinked.addMethod held),
    closed.fresh (Nat.le_refl _)⟩

end NewCells

/-! ### Reads -/

/-- Where a lookup on the value begins may be held. -/
theorem ref_delegate {value : Value} (held : policy.Holds value) : policy.ref value.delegate := by
  have shared := policy.shared (.ofType value.type)
  cases value with
  | object id => exact held
  | _ => exact shared

section Reads

variable (linked : policy.Linked store)
include linked

/-- A walk from an object that may be held meets only such objects.  By induction on the walk,
    prototype by prototype. -/
theorem Linked.lookupFrom {key : String} {visited : List ObjectId} {current : ObjectId}
    (start : policy.ref current) {found : Found}
    (finds : store.lookupFrom key visited current = some found) :
    policy.ref found.holder ∧ policy.Holds found.value := by
  fun_induction Store.lookupFrom store key visited current with
  | case1 visited current new value owned =>
    obtain rfl := Option.some.inj finds
    exact ⟨start, (linked.object start).slots.find? owned⟩
  | case2 visited current new missing next above ih =>
    exact ih ((linked.object start).prototype next above) finds
  | case3 | case4 => cases finds

/-- The walk for a value that may be held. -/
theorem Linked.lookupOn {receiver : Value} (held : policy.Holds receiver) {key : String}
    {found : Found} (finds : store.lookupOn receiver key = some found) :
    policy.ref found.holder ∧ policy.Holds found.value :=
  linked.lookupFrom (ref_delegate held) finds

/-- A walk from a frame that may be held, by induction on its steps outwards. -/
theorem Linked.definingFrameWithin {name : String} {steps : Nat} {start frame : FrameId}
    (held : policy.ref start) (finds : store.definingFrameWithin name steps start = some frame) :
    policy.ref frame := by
  induction steps generalizing start with
  | zero => exact nomatch finds
  | succ steps ih =>
    rw [Store.definingFrameWithin] at finds
    split at finds
    · exact Option.some.inj finds ▸ held
    · split at finds
      next next above => exact ih ((linked.frame held).outer next above) finds
      next => cases finds

/-- The variable that is read was held by the frame that the walk came to. -/
theorem Linked.readFrame? {start : FrameId} (held : policy.ref start) (name : String) :
    policy.HoldsOption (store.readFrame? start name) := by
  intro value finds
  obtain ⟨frame, defines, reads⟩ := Option.bind_eq_some_iff.mp finds
  exact (linked.frame (linked.definingFrameWithin held defines)).vars.find? reads

/-- The place that a name stands for: a frame on the way outwards, or an object on the way up from
    `self`. -/
theorem Linked.resolve {scope : LocalsId} (held : policy.ref scope) {name : String}
    {binding : Binding} (finds : store.resolve scope name = some binding) :
    policy.HoldsBinding binding := by
  have opened := linked.scope held
  rw [Store.resolve] at finds
  split at finds
  next frame defines =>
    obtain rfl := Option.some.inj finds
    exact linked.definingFrameWithin opened.frame defines
  next =>
    obtain ⟨found, looked, rfl⟩ := Option.map_eq_some_iff.mp finds
    exact (linked.lookupOn opened.self looked).1

/-- What the place holds may be held. -/
theorem Linked.readVariable? {scope : LocalsId} (held : policy.ref scope) (name : String) :
    policy.HoldsOption (store.readVariable? scope name) := by
  intro value finds
  obtain ⟨binding, stands, reads⟩ := Option.bind_eq_some_iff.mp finds
  have place := linked.resolve held stands
  cases binding with
  | inFrame frame => exact (linked.frame place).vars.find? reads
  | onObject holder => exact (linked.object place).slots.find? reads

end Reads

end Policy

end SlotTalk
