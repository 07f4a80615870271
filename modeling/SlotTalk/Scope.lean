import SlotTalk.Delegation
import SlotTalk.Engine

namespace SlotTalk

/-!
# Variables

A name in a scope stands for a variable of the nearest frame that defines it, or else for the slot
of the first object from `self` on that owns it.

* `Store.resolve` — the place that a name stands for.
* `Store.readVariable?`, `Action.updateVariable` — read and overwrite that place.
* `Action.findVariable`, `Action.findOn` — what there is in the frames, and on an object.
* `Action.defineVariable` — create a place: a variable of the scope's own frame, or at the top level
  a slot of `self`.
-/

/-- A place that a name can stand for. -/
inductive Binding where
  | inFrame (frame : FrameId)
  | onObject (holder : ObjectId)
  deriving DecidableEq, Repr

namespace Store

/-- The scope is a top level. -/
def isModule (store : Store) (scope : LocalsId) : Bool :=
  (store.frame (store.scope scope).frame).kind == .module

/-- The place that a name stands for. -/
def resolve (store : Store) (scope : LocalsId) (name : String) : Option Binding :=
  match store.definingFrame? (store.scope scope).frame name with
  | some frame => some (.inFrame frame)
  | none => (store.lookupOn (store.scope scope).self name).map fun found => .onObject found.holder

/-- What a place holds. -/
def readBinding? (store : Store) (name : String) : Binding → Option Value
  | .inFrame frame => (store.frame frame).vars.find? name
  | .onObject holder => (store.object holder).slots.find? name

/-- Overwrite a place. -/
def writeBinding (store : Store) (name : String) (value : Value) : Binding → Store
  | .inFrame frame => store.putVariable frame name value
  | .onObject holder => store.putSlot holder name value

/-- Read a name, without activating what it stands for. -/
def readVariable? (store : Store) (scope : LocalsId) (name : String) : Option Value :=
  (store.resolve scope name).bind (store.readBinding? name)

end Store

namespace Action

/-- What `self` is in the scope. -/
def selfOf (scope : LocalsId) : Action Value := return ((← store).scope scope).self

/-- Look a name up on any value. -/
def findOn (receiver : Value) (name : String) : Action (Option Found) :=
  return (← store).lookupOn receiver name

/-- The value of a variable in the nearest frame that defines it, seen from the scope. -/
def findVariable (scope : LocalsId) (name : String) : Action (Option Value) := do
  let store ← store
  return store.readFrame? (store.scope scope).frame name

/-- Create or overwrite a name in the scope itself. -/
def defineVariable (scope : LocalsId) (name : Text) (value : Value) : Action Unit := do
  let store ← store
  if store.isModule scope then
    let self ← (store.scope scope).self.expectObject
    modifyStore (·.putSlot self name value)
  else
    let frame := (store.scope scope).frame
    modifyStore (·.putVariable frame name value)

/-- Overwrite a name wherever it is defined. -/
def updateVariable (scope : LocalsId) (name : String) (value : Value) : Action Unit := do
  match (← store).resolve scope name with
  | some binding => modifyStore (·.writeBinding name value binding)
  | none => throw (.undefinedName name none)

/-- Overwrite a slot of the first object that owns it, and say whether there is one. -/
def updateSlot (receiver : Value) (key : String) (value : Value) : Action Bool := do
  match (← store).lookupOn receiver key with
  | some found =>
    modifyStore (·.putSlot found.holder key value)
    return true
  | none => return false

/-- Overwrite a variable of the nearest frame that defines it, and say whether there is one. -/
def updateFrame (start : FrameId) (name : String) (value : Value) : Action Bool := do
  match (← store).definingFrame? start name with
  | some frame =>
    modifyStore (·.putVariable frame name value)
    return true
  | none => return false

end Action

end SlotTalk
