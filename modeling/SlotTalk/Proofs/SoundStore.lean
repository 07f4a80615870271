import SlotTalk.Proofs.Policy
import SlotTalk.World

namespace SlotTalk

/-!
# Sound stores

A store is sound if every reference in it leads to a cell that exists, frames enclose one another in
the order in which they were made, the frame of the top level has no variables, and calls agree with
the code that they are calls of.  Writing what exists into a sound store leaves a sound store.

* `Policy.upTo`, `Store.known` — the policy of holding what exists.
* `Store.Lexical` — what is true of the frames.
* `Call.Consistent` — what is true of a call.
* `Store.Sound`, `Store.Leads` — all of it, and a step from one sound store to another.
* `Sound.putSlot`, `Sound.addCall` and their siblings — the writes.
-/

/-! ### What exists -/

/-- A new cell exists once it is there. -/
theorem lt_size_push {α : Type} (cells : Array α) (new : α) : cells.size < (cells.push new).size :=
  Nat.lt_of_lt_of_eq (Nat.lt_succ_self _) (Array.size_push ..).symm

namespace World

/-- Number of cells of a kind that every engine starts with. -/
def count : Cell → Nat
  | .object => 19
  | .frame | .locals | .coroutine => 1
  | .list | .map | .call | .function | .block | .method => 0

/-- A new engine has these cells, whatever the label of its thread. -/
theorem count_store (label : String) (cell : Cell) : (store label).count cell = count cell := by
  cases cell <;> rfl

/-- A new engine has all shared prototypes. -/
theorem prototype_exists (prototype : Prototype) : prototype.id.index < count .object := by
  show prototype.id.index < 19
  cases prototype with
  | ofType type => cases type <;> decide
  | exception => decide

end World

/-- Cells below the bounds may be held, and those that a new engine has. -/
def Policy.upTo (count : Cell → Nat) : Policy :=
  { Policy.everything with
    ref := fun {cell} id => id.index < count cell ∨ id.index < World.count cell
    lobby := .inr (show 2 < 19 by decide)
    shared := fun prototype => .inr (World.prototype_exists prototype)
    topScope := .inr Nat.one_pos
    thread := .inr Nat.one_pos }

/-- The policy of holding only what exists. -/
def Store.known (store : Store) : Policy := .upTo store.count

namespace Policy

variable {count wider : Cell → Nat} (more : ∀ cell, count cell ≤ wider cell)
include more

/-- What exists below some bounds exists below higher ones: this is all that the following lemmas
    rest on, one for each thing that holds references. -/
theorem ref_upTo_mono {cell : Cell} {id : Ref cell} (ref : (upTo count).ref id) :
    (upTo wider).ref id :=
  ref.imp_left fun below => Nat.lt_of_lt_of_le below (more cell)

/-- A value that exists. -/
theorem holds_upTo_mono {value : Value} (held : (upTo count).Holds value) :
    (upTo wider).Holds value := by
  cases value with
  | object | list | map | call | locals | coroutine | function | block | method =>
    exact ref_upTo_mono more held
  | _ => trivial

/-- A reference that may be missing. -/
theorem links_upTo_mono {cell : Cell} {id : Option (Ref cell)} (links : (upTo count).Links id) :
    (upTo wider).Links id :=
  fun next same => ref_upTo_mono more (links next same)

/-- A table of values. -/
theorem all_upTo_mono {table : Table Value} (all : table.All (upTo count).Holds) :
    table.All (upTo wider).Holds :=
  fun entry mem => holds_upTo_mono more (all entry mem)

/-- The items of a list. -/
theorem holdsItems_upTo_mono {items : Array Value} (held : (upTo count).HoldsItems items) :
    (upTo wider).HoldsItems items :=
  fun item mem => holds_upTo_mono more (held item mem)

/-- An object. -/
theorem holdsObject_upTo_mono {object : Object} (held : (upTo count).HoldsObject object) :
    (upTo wider).HoldsObject object :=
  ⟨links_upTo_mono more held.prototype, all_upTo_mono more held.slots⟩

/-- A frame. -/
theorem holdsFrame_upTo_mono {frame : Frame} (held : (upTo count).HoldsFrame frame) :
    (upTo wider).HoldsFrame frame :=
  ⟨holds_upTo_mono more held.context, all_upTo_mono more held.vars,
    links_upTo_mono more held.outer⟩

/-- A scope. -/
theorem holdsScope_upTo_mono {scope : Locals} (held : (upTo count).HoldsScope scope) :
    (upTo wider).HoldsScope scope :=
  ⟨holds_upTo_mono more held.self, ref_upTo_mono more held.frame⟩

/-- A call. -/
theorem holdsCall_upTo_mono {call : Call} (held : (upTo count).HoldsCall call) :
    (upTo wider).HoldsCall call :=
  ⟨ref_upTo_mono more held.sender, holds_upTo_mono more held.target,
    holds_upTo_mono more held.slotContext, holds_upTo_mono more held.activated,
    ref_upTo_mono more held.coroutine⟩

/-- A block; any code may run here. -/
theorem holdsBlock_upTo_mono {block : Block} (held : (upTo count).HoldsBlock block) :
    (upTo wider).HoldsBlock block :=
  ⟨⟨trivial, .inl trivial⟩, trivial, ref_upTo_mono more held.sender⟩

/-- A method. -/
theorem holdsMethod_upTo_mono {method : Method} (held : (upTo count).HoldsMethod method) :
    (upTo wider).HoldsMethod method :=
  ⟨⟨trivial, .inl trivial⟩, trivial, links_upTo_mono more held.outer⟩

end Policy

/-! ### What is true of a sound store -/

namespace Store

/-- Each frame was made after the one that encloses it.  Only the frame of the top level is one of
    that kind, and it has no variables. -/
structure Lexical (store : Store) : Prop where
  older {id next : FrameId} : (store.frame id).outer = some next → next.index < id.index
  single {id : FrameId} : id.index < store.frames.size → (store.frame id).kind = .module →
    id = World.moduleFrame
  top : (store.frame World.moduleFrame).kind = .module
  bare : (store.frame World.moduleFrame).vars.entries = []

end Store

/-- The value is an object or a scope, in which code can be found. -/
def Value.IsPlace : Value → Prop
  | .object _ | .locals _ => True
  | _ => False

/-- What the call says agrees with the code that it says was activated, which reads its call. -/
structure Call.Consistent (store : Store) (call : Call) : Prop where
  uses : store.usesCallContext call.activated = true
  block {id : BlockId} : call.activated = .block id →
    call.sender = (store.block id).sender ∧ call.target = .locals call.sender
  method {id : MethodId} : call.activated = .method id →
    call.target = (store.scope call.sender).self
  place : call.slotContext.IsPlace

namespace Store

/-- References lead to cells that exist, frames are nested in the order of their making, calls agree
    with their code, and there is one thread of execution. -/
structure Sound (store : Store) : Prop where
  founded (cell : Cell) : World.count cell ≤ store.count cell
  oneThread : store.coroutines.size = 1
  linked : store.known.Linked store
  lexical : store.Lexical
  calls {id : CallId} : id.index < store.calls.size → (store.call id).Consistent store

/-- The store evolves into one that is sound. -/
structure Leads (before after : Store) : Prop where
  evolves : before.Evolves after
  sound : after.Sound

variable {store after : Store}

/-- A sound store that is not touched. -/
theorem Leads.refl (sound : store.Sound) : store.Leads store := ⟨.refl store, sound⟩

/-- Two steps make one. -/
theorem Leads.trans {a b c : Store} (first : a.Leads b) (second : b.Leads c) : a.Leads c :=
  ⟨first.evolves.trans second.evolves, second.sound⟩

/-! ### What goes on existing -/

section Evolves

variable (evolves : store.Evolves after)
include evolves

/-- A cell that exists goes on to exist. -/
theorem Evolves.ref {cell : Cell} {id : Ref cell} (ref : store.known.ref id) :
    after.known.ref id :=
  Policy.ref_upTo_mono evolves.count ref

/-- A value that exists goes on to exist. -/
theorem Evolves.holds {value : Value} (held : store.known.Holds value) :
    after.known.Holds value :=
  Policy.holds_upTo_mono evolves.count held

/-- Several values that exist go on to exist. -/
theorem Evolves.holdsList {values : List Value} (held : ∀ value ∈ values, store.known.Holds value) :
    ∀ value ∈ values, after.known.Holds value :=
  fun value mem => evolves.holds (held value mem)

/-- A reference that may be missing leads on to what exists, if it leads anywhere. -/
theorem Evolves.links {cell : Cell} {id : Option (Ref cell)} (links : store.known.Links id) :
    after.known.Links id :=
  Policy.links_upTo_mono evolves.count links

end Evolves

namespace Sound

section Facts

variable (sound : store.Sound)
include sound

/-- What may be held exists. -/
theorem lt_of_ref {cell : Cell} {id : Ref cell} (ref : store.known.ref id) :
    id.index < store.count cell :=
  ref.elim (fun below => below) fun below => Nat.lt_of_lt_of_le below (sound.founded cell)

/-- The one thread of execution is that of the engine. -/
theorem eq_coroutine_of_ref {id : CoroutineId} (ref : store.known.ref id) :
    id = World.coroutine := by
  have inside : id.index < store.coroutines.size := sound.lt_of_ref ref
  rw [sound.oneThread] at inside
  exact congrArg Ref.mk (Nat.lt_one_iff.mp inside)

/-- A scope on the frame of the top level is one of the top level, and no other is. -/
theorem isModule_iff {scope : LocalsId} (ref : store.known.ref scope) :
    store.isModule scope = true ↔ (store.scope scope).frame = World.moduleFrame := by
  have frame := sound.lt_of_ref (sound.linked.scope ref).frame
  rw [isModule, beq_iff_eq]
  refine ⟨sound.lexical.single frame, fun same => ?_⟩
  rw [same]
  exact sound.lexical.top

/-! A cell that does not exist is empty, or stands for one that exists. -/

/-- An object beyond the last is empty. -/
theorem holds_object (id : ObjectId) : store.known.HoldsObject (store.object id) := by
  rcases Nat.lt_or_ge id.index store.objects.size with inside | beyond
  · exact sound.linked.object (.inl inside)
  · rw [object, getD_of_size_le _ beyond]
    exact ⟨Policy.links_none, .empty⟩

/-- A list beyond the last has no items. -/
theorem holds_list (id : ListId) : store.known.HoldsItems (store.list id) := by
  rcases Nat.lt_or_ge id.index store.lists.size with inside | beyond
  · exact sound.linked.list (.inl inside)
  · rw [list, getD_of_size_le _ beyond]
    exact Policy.holdsItems_empty

/-- A map beyond the last has no entries. -/
theorem holds_map (id : MapId) : (store.map id).All store.known.Holds := by
  rcases Nat.lt_or_ge id.index store.maps.size with inside | beyond
  · exact sound.linked.map (.inl inside)
  · rw [map, getD_of_size_le _ beyond]
    exact .empty

/-- A frame beyond the last has no variables, and lies in no other. -/
theorem holds_frame (id : FrameId) : store.known.HoldsFrame (store.frame id) := by
  rcases Nat.lt_or_ge id.index store.frames.size with inside | beyond
  · exact sound.linked.frame (.inl inside)
  · rw [frame, getD_of_size_le _ beyond]
    exact ⟨trivial, .empty, Policy.links_none⟩

/-- A scope beyond the last is that of the top level. -/
theorem holds_scope (id : LocalsId) : store.known.HoldsScope (store.scope id) := by
  rcases Nat.lt_or_ge id.index store.locals.size with inside | beyond
  · exact sound.linked.scope (.inl inside)
  · rw [scope_of_size_le _ beyond]
    exact sound.linked.scope store.known.topScope

/-- A call beyond the last tells what every engine has. -/
theorem holds_call (id : CallId) : store.known.HoldsCall (store.call id) := by
  rcases Nat.lt_or_ge id.index store.calls.size with inside | beyond
  · exact sound.linked.call (.inl inside)
  · rw [call, getD_of_size_le _ beyond]
    exact ⟨Policy.topScope _, trivial, trivial, trivial, Policy.thread _⟩

/-- A block beyond the last was written in the scope of the top level. -/
theorem holds_block (id : BlockId) : store.known.HoldsBlock (store.block id) := by
  rcases Nat.lt_or_ge id.index store.blocks.size with inside | beyond
  · exact sound.linked.block (.inl inside)
  · rw [block, getD_of_size_le _ beyond]
    exact ⟨⟨trivial, .inl trivial⟩, trivial, Policy.topScope _⟩

/-- A method beyond the last remembers no frame. -/
theorem holds_method (id : MethodId) : store.known.HoldsMethod (store.method id) := by
  rcases Nat.lt_or_ge id.index store.methods.size with inside | beyond
  · exact sound.linked.method (.inl inside)
  · rw [method, getD_of_size_le _ beyond]
    exact ⟨⟨trivial, .inl trivial⟩, trivial, Policy.links_none⟩

/-- The store is linked under any higher bounds as well. -/
theorem linked_upTo {count : Cell → Nat} (more : ∀ cell, store.count cell ≤ count cell) :
    (Policy.upTo count).Linked store where
  object {id} _ := Policy.holdsObject_upTo_mono more (sound.holds_object id)
  list {id} _ := Policy.holdsItems_upTo_mono more (sound.holds_list id)
  map {id} _ := Policy.all_upTo_mono more (sound.holds_map id)
  frame {id} _ := Policy.holdsFrame_upTo_mono more (sound.holds_frame id)
  scope {id} _ := Policy.holdsScope_upTo_mono more (sound.holds_scope id)
  call {id} _ := Policy.holdsCall_upTo_mono more (sound.holds_call id)
  function _ := ⟨trivial, .inl trivial⟩
  block {id} _ := Policy.holdsBlock_upTo_mono more (sound.holds_block id)
  method {id} _ := Policy.holdsMethod_upTo_mono more (sound.holds_method id)

/-- Code goes on reading its call, or not. -/
theorem usesCallContext_of_evolves (evolves : store.Evolves after) {code : Invokable}
    (held : store.known.Holds code.toValue) :
    after.usesCallContext code = store.usesCallContext code := by
  cases code with
  | primitive | function => rfl
  | block id => exact congrArg (·.code.usesCallContext) (evolves.block (sound.lt_of_ref held))
  | method id => exact congrArg (·.code.usesCallContext) (evolves.method (sound.lt_of_ref held))

/-- A call goes on agreeing with its code. -/
theorem consistent_of_evolves (evolves : store.Evolves after) {id : CallId}
    (old : id.index < store.calls.size) : (after.call id).Consistent after := by
  have held : store.known.HoldsCall (store.call id) := sound.linked.call (.inl old)
  have agrees := sound.calls old
  -- The call is as it was, and so is all of its code that it has to agree with.
  rw [evolves.call old]
  refine { agrees with uses := ?uses, block := fun same => ?block, method := fun same => ?method }
  case uses =>
    rw [sound.usesCallContext_of_evolves evolves held.activated]
    exact agrees.uses
  case block =>
    have activated := held.activated
    rw [same] at activated
    rw [evolves.block (sound.lt_of_ref activated)]
    exact agrees.block same
  case method =>
    rw [evolves.scope (sound.lt_of_ref held.sender)]
    exact agrees.method same

/-- What is to be shown of a step from a sound store. -/
theorem leads (evolves : store.Evolves after) (linked : after.known.Linked after)
    (lexical : after.Lexical)
    (calls : ∀ {id : CallId}, store.calls.size ≤ id.index → id.index < after.calls.size →
      (after.call id).Consistent after) : store.Leads after where
  evolves := evolves
  sound :=
    { founded := fun cell => Nat.le_trans (sound.founded cell) (evolves.count cell)
      oneThread := evolves.coroutines ▸ sound.oneThread
      linked := linked
      lexical := lexical
      calls := fun {id} inside =>
        (Nat.lt_or_ge id.index store.calls.size).elim (sound.consistent_of_evolves evolves)
          fun new => calls new inside }

end Facts

end Sound

/-! ### Frames -/

namespace Lexical

variable (lexical : store.Lexical)
include lexical

/-- What is true of the frames is true as long as they are the same. -/
theorem congr (frames : after.frames = store.frames) : after.Lexical := by
  have same : ∀ id, after.frame id = store.frame id := fun id => by rw [frame, frame, frames]
  constructor
  case older => exact fun {id next} outer => lexical.older (same id ▸ outer)
  case single =>
    intro id inside kind
    rw [frames] at inside
    rw [same] at kind
    exact lexical.single inside kind
  case top => exact same World.moduleFrame ▸ lexical.top
  case bare => exact same World.moduleFrame ▸ lexical.bare

/-- A variable of any frame but that of the top level. -/
theorem putVariable {id : FrameId} (inner : id ≠ World.moduleFrame) (name : Text) (value : Value) :
    (store.putVariable id name value).Lexical := by
  have written : ∀ other, (store.putVariable id name value).frame other
      = if id.index = other.index ∧ id.index < store.frames.size then
          { store.frame other with vars := (store.frame other).vars.put name value }
        else store.frame other := fun other => store.frame_modifyFrame id other _
  have kind : ∀ other, ((store.putVariable id name value).frame other).kind
      = (store.frame other).kind := fun other => by rw [written]; split <;> rfl
  have outer : ∀ other, ((store.putVariable id name value).frame other).outer
      = (store.frame other).outer := fun other => by rw [written]; split <;> rfl
  have size : (store.putVariable id name value).frames.size = store.frames.size :=
    Array.size_modify
  constructor
  case older => exact fun {other next} above => lexical.older (outer other ▸ above)
  case single =>
    exact fun {other} inside module =>
      lexical.single (Nat.lt_of_lt_of_eq inside size) (kind other ▸ module)
  case top => exact (kind World.moduleFrame).trans lexical.top
  case bare =>
    have other : ¬ (id.index = World.moduleFrame.index ∧ id.index < store.frames.size) :=
      fun same => inner (congrArg Ref.mk same.1)
    rw [written, if_neg other]
    exact lexical.bare

/-- A new frame inside one that exists. -/
theorem addFrame (founded : 0 < store.frames.size) {new : Frame} (kind : new.kind = .activation)
    (inside : ∀ next, new.outer = some next → next.index < store.frames.size) :
    (store.addFrame new).2.Lexical := by
  have first : World.moduleFrame.index ≠ store.frames.size := Nat.ne_of_lt founded
  have topFrame : (store.addFrame new).2.frame World.moduleFrame
      = store.frame World.moduleFrame := by
    rw [frame_addFrame, if_neg first]
  constructor
  case older =>
    intro id next above
    rw [frame_addFrame] at above
    split at above
    next last =>
      rw [last]
      exact inside next above
    next => exact lexical.older above
  case single =>
    intro id inFrames module
    rw [frame_addFrame] at module
    split at module
    next =>
      -- The new frame is one of an activation.
      rw [kind] at module
      exact nomatch module
    next old =>
      have below : id.index < store.frames.size + 1 :=
        Nat.lt_of_lt_of_eq inFrames (Array.size_push ..)
      exact lexical.single (by omega) module
  case top => exact topFrame ▸ lexical.top
  case bare => exact topFrame ▸ lexical.bare

end Lexical

namespace Sound

/-! ### Cells that change -/

section Changes

variable (sound : store.Sound)
include sound

/-- A change makes no cell, so that what exists is the same, and no call has to be looked at. -/
theorem change {change : Store → Store} (step : Change change)
    (lexical : (change store).Lexical) (linked : store.known.Linked (change store)) :
    store.Leads (change store) := by
  have known : (change store).known = store.known :=
    congrArg Policy.upTo (funext fun cell => count_change step cell)
  have calls : (change store).calls.size = store.calls.size := count_change step .call
  refine sound.leads (step.evolves store) (known ▸ linked) lexical fun new inside => ?_
  exact absurd (Nat.lt_of_lt_of_eq inside calls) (Nat.not_lt_of_le new)

/-- A slot with a value that exists. -/
theorem putSlot (id : ObjectId) (key : Text) {value : Value} (new : store.known.Holds value) :
    store.Leads (store.putSlot id key value) :=
  sound.change (.putSlot id key value) (sound.lexical.congr rfl) (sound.linked.putSlot id key new)

/-- One slot less. -/
theorem eraseSlot (id : ObjectId) (key : String) : store.Leads (store.eraseSlot id key) :=
  sound.change (.eraseSlot id key) (sound.lexical.congr rfl) (sound.linked.eraseSlot id key)

/-- A prototype that exists. -/
theorem setPrototype (id : ObjectId) {next : ObjectId} (new : store.known.ref next) :
    store.Leads (store.setPrototype id (some next)) :=
  sound.change (.setPrototype id next) (sound.lexical.congr rfl)
    (sound.linked.setPrototype id new)

/-- A list with other items that exist. -/
theorem modifyList {id : ListId} {change : Array Value → Array Value}
    (kept : store.known.ref id → store.known.HoldsItems (change (store.list id))) :
    store.Leads (store.modifyList id change) :=
  sound.change (.modifyList id change) (sound.lexical.congr rfl) (sound.linked.modifyList kept)

/-- An entry with a value that exists. -/
theorem putEntry (id : MapId) (key : Text) {value : Value} (new : store.known.Holds value) :
    store.Leads (store.modifyMap id (·.put key value)) :=
  sound.change (.putEntry id key value) (sound.lexical.congr rfl)
    (sound.linked.putEntry id key new)

/-- One entry less. -/
theorem eraseEntry (id : MapId) (key : String) :
    store.Leads (store.modifyMap id (·.erase key)) :=
  sound.change (.eraseEntry id key) (sound.lexical.congr rfl) (sound.linked.eraseEntry id key)

/-- A variable of any frame but that of the top level, with a value that exists. -/
theorem putVariable {id : FrameId} (inner : id ≠ World.moduleFrame) (name : Text) {value : Value}
    (new : store.known.Holds value) : store.Leads (store.putVariable id name value) :=
  sound.change (.putVariable id name value) (sound.lexical.putVariable inner name value)
    (sound.linked.putVariable id name new)

end Changes

/-! ### New cells -/

section NewCells

variable (sound : store.Sound)
include sound

/-- A new cell that is no call. -/
theorem extend {α : Type} {change : Store → α × Store} (step : Extension change)
    (lexical : (change store).2.Lexical) (calls : (change store).2.calls = store.calls)
    (linked : (change store).2.known.Linked store →
      (change store).2.known.Linked (change store).2) : store.Leads (change store).2 := by
  have linked' := linked (sound.linked_upTo (count_extension step))
  refine sound.leads (step.evolves store) linked' lexical fun new inside => ?_
  -- There is no call beyond those that were there.
  rw [calls] at inside
  exact absurd inside (Nat.not_lt_of_le new)

/-- A new object below one that exists. -/
theorem addObject {prototype : ObjectId} (above : store.known.ref prototype) {slots : Table Value}
    (distinct : slots.Distinct) (held : slots.All store.known.Holds) :
    store.Leads (store.addObject ⟨some prototype, slots⟩).2
      ∧ (store.addObject ⟨some prototype, slots⟩).2.known.ref
        (store.addObject ⟨some prototype, slots⟩).1 := by
  have step := Extension.addObject prototype distinct
  have new : store.known.HoldsObject ⟨some prototype, slots⟩ := ⟨Policy.links_some above, held⟩
  refine ⟨sound.extend step (sound.lexical.congr rfl) rfl fun linked => ?_, .inl ?_⟩
  · exact linked.addObject (Policy.holdsObject_upTo_mono (count_extension step) new)
  · exact lt_size_push _ _

/-- A new list of what exists. -/
theorem addList {items : Array Value} (held : store.known.HoldsItems items) :
    store.Leads (store.addList items).2
      ∧ (store.addList items).2.known.ref (store.addList items).1 := by
  have step := Extension.addList items
  refine ⟨sound.extend step (sound.lexical.congr rfl) rfl fun linked => ?_, .inl ?_⟩
  · exact linked.addList (Policy.holdsItems_upTo_mono (count_extension step) held)
  · exact lt_size_push _ _

/-- A new map with values that exist. -/
theorem addMap {entries : Table Value} (distinct : entries.Distinct)
    (held : entries.All store.known.Holds) :
    store.Leads (store.addMap entries).2
      ∧ (store.addMap entries).2.known.ref (store.addMap entries).1 := by
  have step := Extension.addMap distinct
  refine ⟨sound.extend step (sound.lexical.congr rfl) rfl fun linked => ?_, .inl ?_⟩
  · exact linked.addMap (Policy.all_upTo_mono (count_extension step) held)
  · exact lt_size_push _ _

/-- A new frame of an activation, within one that exists and so was made before. -/
theorem addFrame {new : Frame} (distinct : new.vars.Distinct) (kind : new.kind = .activation)
    (held : store.known.HoldsFrame new) :
    store.Leads (store.addFrame new).2
      ∧ (store.addFrame new).2.known.ref (store.addFrame new).1 := by
  have step := Extension.addFrame distinct
  have lexical : (store.addFrame new).2.Lexical :=
    sound.lexical.addFrame (sound.founded .frame) kind fun next above =>
      sound.lt_of_ref (held.outer next above)
  refine ⟨sound.extend step lexical rfl fun linked => ?_, .inl ?_⟩
  · exact linked.addFrame (Policy.holdsFrame_upTo_mono (count_extension step) held)
  · exact lt_size_push _ _

/-- A new scope on a frame that exists. -/
theorem addLocals {new : Locals} (held : store.known.HoldsScope new) :
    store.Leads (store.addLocals new).2
      ∧ (store.addLocals new).2.known.ref (store.addLocals new).1 := by
  have step := Extension.addLocals new
  refine ⟨sound.extend step (sound.lexical.congr rfl) rfl fun linked => ?_, .inl ?_⟩
  · exact linked.addLocals (Policy.holdsScope_upTo_mono (count_extension step) held)
  · exact lt_size_push _ _

/-- A new call must agree with the code it is a call of. -/
theorem addCall {new : Call} (held : store.known.HoldsCall new) (agrees : new.Consistent store) :
    store.Leads (store.addCall new).2
      ∧ (store.addCall new).2.known.ref (store.addCall new).1 := by
  have step := Extension.addCall new
  have more : ∀ cell, store.count cell ≤ (store.addCall new).2.count cell := count_extension step
  have linked : (store.addCall new).2.known.Linked (store.addCall new).2 :=
    (sound.linked_upTo more).addCall (Policy.holdsCall_upTo_mono more held)
  have size : (store.addCall new).2.calls.size = store.calls.size + 1 := Array.size_push ..
  refine ⟨sound.leads (step.evolves store) linked (sound.lexical.congr rfl)
    fun {id} beyond inside => ?_, .inl ?_⟩
  -- The only call to look at is the new one; its code has been there before.
  · have last : id.index = store.calls.size := by omega
    rw [call_addCall, if_pos last]
    have uses : (store.addCall new).2.usesCallContext new.activated = true := by
      rw [← agrees.uses]
      cases new.activated <;> rfl
    exact ⟨uses, agrees.block, agrees.method, agrees.place⟩
  · exact lt_size_push _ _

/-- A new function. -/
theorem addFunction (code : Code) :
    store.Leads (store.addFunction code).2
      ∧ (store.addFunction code).2.known.ref (store.addFunction code).1 := by
  refine ⟨sound.extend (.addFunction code) (sound.lexical.congr rfl) rfl fun linked => ?_, .inl ?_⟩
  · exact linked.addFunction ⟨trivial, .inl trivial⟩
  · exact lt_size_push _ _

/-- A new block, written in a scope that exists. -/
theorem addBlock {new : Block} (sender : store.known.ref new.sender) :
    store.Leads (store.addBlock new).2
      ∧ (store.addBlock new).2.known.ref (store.addBlock new).1 := by
  have step := Extension.addBlock new
  have held : store.known.HoldsBlock new := ⟨⟨trivial, .inl trivial⟩, trivial, sender⟩
  refine ⟨sound.extend step (sound.lexical.congr rfl) rfl fun linked => ?_, .inl ?_⟩
  · exact linked.addBlock (Policy.holdsBlock_upTo_mono (count_extension step) held)
  · exact lt_size_push _ _

/-- A new method, within a frame that exists or none. -/
theorem addMethod {new : Method} (outer : store.known.Links new.outer) :
    store.Leads (store.addMethod new).2
      ∧ (store.addMethod new).2.known.ref (store.addMethod new).1 := by
  have step := Extension.addMethod new
  have held : store.known.HoldsMethod new := ⟨⟨trivial, .inl trivial⟩, trivial, outer⟩
  refine ⟨sound.extend step (sound.lexical.congr rfl) rfl fun linked => ?_, .inl ?_⟩
  · exact linked.addMethod (Policy.holdsMethod_upTo_mono (count_extension step) held)
  · exact lt_size_push _ _

end NewCells

end Sound

end Store

end SlotTalk
