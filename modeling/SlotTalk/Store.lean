import SlotTalk.Table
import SlotTalk.Value

namespace SlotTalk

/-!
# The store

All cells live in one store, an array for each kind.  A cell is never removed, and those of them
that cannot change (scopes, calls, threads of execution and closures) are written once.

* `Object`, `Frame`, `Locals`, `Coroutine`, `Call`, `Block`, `Method` — the cells.
* `Store` — the arrays.  Reading a reference that names no cell answers the empty cell of its kind,
  or for a scope that of the top level, so that reading is total.
-/

/-- A mutable holder of slots.  `prototype` is where a lookup goes on. -/
structure Object where
  prototype : Option ObjectId := none
  slots : Table Value := {}
  deriving Inhabited

/-- Definitions at the top level land on `self`, those of an activation in its frame. -/
inductive FrameKind where
  | module
  | activation
  deriving DecidableEq, Repr

/-- The variables of one activation. -/
structure Frame where
  kind : FrameKind := .module
  /-- The receiver, or the call for a body that reads it. -/
  context : Value := .nil
  vars : Table Value := {}
  /-- The frame of the enclosing scope. -/
  outer : Option FrameId := none
  deriving Inhabited

/-- A scope: what `self` is, and where variables are. -/
structure Locals where
  self : Value := .nil
  frame : FrameId := ⟨0⟩
  deriving Inhabited

/-- A thread of execution.  An engine has one. -/
structure Coroutine where
  number : UInt64 := 1
  label : String := "main"
  deriving Inhabited

/-- The circumstances of one activation, kept for a body that asks for them. -/
structure Call where
  sender : LocalsId
  target : Value
  message : Message
  slotContext : Value
  activated : Invokable
  /-- The thread that the activation is part of. -/
  coroutine : CoroutineId

/-- Code closed over the scope it was written in. -/
structure Block where
  code : Code
  sender : LocalsId

/-- Code that gets a new `self` on every activation. -/
structure Method where
  code : Code
  outer : Option FrameId

/-- All cells. -/
structure Store where
  objects : Array Object := #[]
  lists : Array (Array Value) := #[]
  maps : Array (Table Value) := #[]
  frames : Array Frame := #[]
  locals : Array Locals := #[]
  calls : Array Call := #[]
  coroutines : Array Coroutine := #[]
  functions : Array Code := #[]
  blocks : Array Block := #[]
  methods : Array Method := #[]
  deriving Inhabited

namespace Store

/-! ### Reading -/

def object (store : Store) (id : ObjectId) : Object := store.objects.getD id.index {}

def list (store : Store) (id : ListId) : Array Value := store.lists.getD id.index #[]

def map (store : Store) (id : MapId) : Table Value := store.maps.getD id.index {}

def frame (store : Store) (id : FrameId) : Frame := store.frames.getD id.index {}

/-- In place of a scope that does not exist stands the first one, which is that of the top level. -/
def scope (store : Store) (id : LocalsId) : Locals :=
  store.locals.getD id.index (store.locals.getD 0 {})

def call (store : Store) (id : CallId) : Call :=
  store.calls.getD id.index
    { sender := ⟨0⟩, target := .nil, message := ⟨⟨"", .ofCall id⟩, 0, none⟩, slotContext := .nil,
      activated := .primitive .perform, coroutine := ⟨0⟩ }

def coroutine (store : Store) (id : CoroutineId) : Coroutine :=
  store.coroutines.getD id.index {}

def function (store : Store) (id : FunctionId) : Code := store.functions.getD id.index default

def block (store : Store) (id : BlockId) : Block :=
  store.blocks.getD id.index { code := default, sender := ⟨0⟩ }

def method (store : Store) (id : MethodId) : Method :=
  store.methods.getD id.index { code := default, outer := none }

/-! ### Writing -/

def modifyObject (store : Store) (id : ObjectId) (change : Object → Object) : Store :=
  { store with objects := store.objects.modify id.index change }

def modifyList (store : Store) (id : ListId) (change : Array Value → Array Value) : Store :=
  { store with lists := store.lists.modify id.index change }

def modifyMap (store : Store) (id : MapId) (change : Table Value → Table Value) : Store :=
  { store with maps := store.maps.modify id.index change }

def modifyFrame (store : Store) (id : FrameId) (change : Frame → Frame) : Store :=
  { store with frames := store.frames.modify id.index change }

/-- Create or overwrite a slot of the object itself. -/
def putSlot (store : Store) (id : ObjectId) (key : Text) (value : Value) : Store :=
  store.modifyObject id fun object => { object with slots := object.slots.put key value }

/-- Remove a slot of the object itself. -/
def eraseSlot (store : Store) (id : ObjectId) (key : String) : Store :=
  store.modifyObject id fun object => { object with slots := object.slots.erase key }

/-- Change where lookups on the object go on. -/
def setPrototype (store : Store) (id : ObjectId) (prototype : Option ObjectId) : Store :=
  store.modifyObject id fun object => { object with prototype := prototype }

/-- Create or overwrite a variable of the frame itself. -/
def putVariable (store : Store) (id : FrameId) (name : Text) (value : Value) : Store :=
  store.modifyFrame id fun frame => { frame with vars := frame.vars.put name value }

/-! ### New cells -/

def addObject (store : Store) (object : Object) : ObjectId × Store :=
  (⟨store.objects.size⟩, { store with objects := store.objects.push object })

def addList (store : Store) (items : Array Value) : ListId × Store :=
  (⟨store.lists.size⟩, { store with lists := store.lists.push items })

def addMap (store : Store) (entries : Table Value) : MapId × Store :=
  (⟨store.maps.size⟩, { store with maps := store.maps.push entries })

def addFrame (store : Store) (frame : Frame) : FrameId × Store :=
  (⟨store.frames.size⟩, { store with frames := store.frames.push frame })

def addLocals (store : Store) (scope : Locals) : LocalsId × Store :=
  (⟨store.locals.size⟩, { store with locals := store.locals.push scope })

/-- The message as the one of a call: a name without an identity gets one from the call. -/
def recordMessage (id : CallId) (message : Message) : Message :=
  match message.name.identity with
  | .unassigned => { message with name := ⟨message.name.content, .ofCall id⟩ }
  | _ => message

/-- A new call. -/
def addCall (store : Store) (call : Call) : CallId × Store :=
  let id : CallId := ⟨store.calls.size⟩
  let recorded := { call with message := recordMessage id call.message }
  (id, { store with calls := store.calls.push recorded })

def addFunction (store : Store) (code : Code) : FunctionId × Store :=
  (⟨store.functions.size⟩, { store with functions := store.functions.push code })

def addBlock (store : Store) (block : Block) : BlockId × Store :=
  (⟨store.blocks.size⟩, { store with blocks := store.blocks.push block })

def addMethod (store : Store) (method : Method) : MethodId × Store :=
  (⟨store.methods.size⟩, { store with methods := store.methods.push method })

/-! ### What code a reference stands for -/

/-- Number of declared parameters or inputs. -/
def arity (store : Store) : Invokable → Nat
  | .primitive primitive => primitive.signature.inputs
  | .function id => (store.function id).arity
  | .block id => (store.block id).code.arity
  | .method id => (store.method id).code.arity

/-- Names of the parameters; built-ins have none. -/
def parameters (store : Store) : Invokable → List Text
  | .primitive _ => []
  | .function id => (store.function id).parameters
  | .block id => (store.block id).code.parameters
  | .method id => (store.method id).code.parameters

/-- The activation records a call for the body; functions never do. -/
def usesCallContext (store : Store) : Invokable → Bool
  | .primitive _ | .function _ => false
  | .block id => (store.block id).code.usesCallContext
  | .method id => (store.method id).code.usesCallContext

end Store

/-- More arguments than declared are accepted. -/
def Invokable.isVariadic : Invokable → Bool
  | .primitive builtIn => builtIn.signature.variadic
  | _ => false

end SlotTalk
