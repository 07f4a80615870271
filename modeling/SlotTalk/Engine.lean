import SlotTalk.Arithmetic
import SlotTalk.Display

namespace SlotTalk

/-!
# The state of an engine

* `Engine` — the store, the text printed so far, the nesting depth, the identities given out and the
  settings.
* `Action` — a step that always ends: it changes the state and answers, or fails with an error.
-/

/-- Settings of an engine, which never change. -/
structure Config where
  numberFormat : NumberFormat := .plain
  /-- Activations that may be nested. -/
  maxDepth : Nat := 256
  /-- Label that the thread of execution gets. -/
  label : String := "main"
  /-- What the clock shows. -/
  now : Date := ⟨0, 0⟩

/-- The state of an engine. -/
structure Engine where
  config : Config
  store : Store
  /-- Activations that are running. -/
  depth : Nat := 0
  output : String := ""
  /-- The number of the next identity; all that were given out are below it. -/
  nextIdentity : Nat := 0

/-- The text of a value in the state. -/
def Engine.display (engine : Engine) (value : Value) : String :=
  engine.store.display engine.config.numberFormat value

/-- The same state with one more activation running. -/
def Engine.deeper (engine : Engine) : Engine := { engine with depth := engine.depth + 1 }

/-- The same state with one activation less. -/
def Engine.shallower (engine : Engine) : Engine := { engine with depth := engine.depth - 1 }

@[simp] theorem Engine.depth_deeper (engine : Engine) : engine.deeper.depth = engine.depth + 1 :=
  rfl

@[simp] theorem Engine.depth_shallower (engine : Engine) :
    engine.shallower.depth = engine.depth - 1 := rfl

/-- A step that always ends.  What it changed before it failed stays changed. -/
abbrev Action := ExceptT RuntimeError (StateM Engine)

namespace Action

/-- What an action answers and the state it leaves behind. -/
def on {α : Type} (action : Action α) (engine : Engine) : Except RuntimeError α × Engine :=
  action.run.run engine

/-- A sequence of two actions. -/
theorem on_bind {α β : Type} (x : Action α) (f : α → Action β) (before : Engine) :
    (x >>= f).on before =
      match x.on before with
      | (.ok value, after) => (f value).on after
      | (.error error, after) => (.error error, after) := by
  show (ExceptT.bindCont f (x.on before).1) (x.on before).2 = _
  rcases x.on before with ⟨_ | _, _⟩ <;> rfl

/-- A failure that only depends on values. -/
def ofExcept {α : Type} (result : Except RuntimeError α) : Action α := ExceptT.mk (pure result)

def store : Action Store := return (← get).store

theorem on_store_bind {α : Type} (view : Store → Action α) (before : Engine) :
    (store >>= view).on before = (view before.store).on before := rfl

def modifyStore (change : Store → Store) : Action Unit :=
  modify fun engine => { engine with store := change engine.store }

/-- Change the store in a way that also answers something. -/
def updateStore {α : Type} (change : Store → α × Store) : Action α :=
  modifyGet fun engine =>
    let (answer, store) := change engine.store
    (answer, { engine with store := store })

/-- The text of a value in the present state. -/
def display (value : Value) : Action String := return (← get).display value

/-- Print a text. -/
def print (text : String) : Action Unit :=
  modify fun engine => { engine with output := engine.output ++ text }

/-- An identity that nothing had before. -/
def newIdentity : Action Identity :=
  modifyGet fun engine =>
    (.numbered engine.nextIdentity, { engine with nextIdentity := engine.nextIdentity + 1 })

/-- A new text. -/
def newText (content : String) : Action Text := return ⟨content, ← newIdentity⟩

/-- A new text as a value. -/
def newString (content : String) : Action Value := return .string (← newText content)

/-- The result of a calculation; a big integer that it made gets its identity here. -/
def ofCalculation (result : Except RuntimeError Value) : Action Value := do
  match ← ofExcept result with
  | .big n .unassigned => return .big n (← newIdentity)
  | value => return value

def newObject (object : Object) : Action Value :=
  return .object (← updateStore (·.addObject object))

/-- A new object without slots of its own. -/
def cloneOf (prototype : ObjectId) : Action ObjectId :=
  updateStore (·.addObject { prototype := some prototype })

def newList (items : List Value) : Action Value :=
  return .list (← updateStore (·.addList items.toArray))

def newMap (entries : Table Value) : Action Value :=
  return .map (← updateStore (·.addMap entries))

/-- Remove a slot of the object itself, and answer what it held. -/
def removeSlot (id : ObjectId) (key : String) : Action (Option Value) := do
  let removed := ((← store).object id).slots.find? key
  modifyStore (·.eraseSlot id key)
  return removed

/-- Overwrite a slot of the object itself, and say whether there is one. -/
def replaceSlot (id : ObjectId) (key : String) (value : Value) : Action Bool := do
  if ((← store).object id).slots.contains key then
    modifyStore (·.putSlot id key value)
    return true
  else
    return false

end Action

/-! ### Demanding a kind of value -/

namespace Value

def expectObject : Value → Action ObjectId
  | .object id => return id
  | other => throw (.mismatch "Object" other)

def expectText : Value → Action Text
  | .string text => return text
  | other => throw (.mismatch "Sequence" other)

/-- The content of a text. -/
def expectString (value : Value) : Action String := return (← value.expectText).content

def expectList : Value → Action ListId
  | .list id => return id
  | other => throw (.mismatch "List" other)

def expectMap : Value → Action MapId
  | .map id => return id
  | other => throw (.mismatch "Map" other)

/-- A position.  Floats that are whole count as positions, and those beyond the word range as its
    ends. -/
def expectPosition (value : Value) : Action Int :=
  match value with
  | .int n => return n.toInt
  | .float f =>
    match (Binary64.ofFloat f).exactInt? with
    | some n => return clampWord n
    | none => throw (.mismatch "Integer" value)
  | _ => throw (.mismatch "Integer" value)

end Value

end SlotTalk
