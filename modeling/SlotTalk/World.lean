import SlotTalk.Delegation

namespace SlotTalk

/-!
# The world of a new engine

Three objects form a cycle of prototypes: `Object` delegates to the lobby, the lobby to `Protos`,
and `Protos` to `Object`.  All other shared prototypes delegate to `Object`, so that whatever is
defined in the lobby is found on every value.

* `World.coroutine` — the one thread of execution.
* `World.store` — the objects, with the built-ins on their prototypes, the scope of the top level
  and the thread of execution.
-/

namespace World

/-- The frame of the top level. -/
def moduleFrame : FrameId := ⟨0⟩

/-- The scope of the top level. -/
def moduleLocals : LocalsId := ⟨0⟩

/-- The thread of execution. -/
def coroutine : CoroutineId := ⟨0⟩

/-- Where a shared prototype delegates to. -/
def parentOf (prototype : Prototype) : ObjectId :=
  if prototype = .ofType .object then lobbyObject else objectPrototype

/-- Identities set aside for the texts of each object, two for each slot. -/
def identitiesPerObject : Nat := 64

/-- The slots of the object with the given position.  Each key, and each text that a slot holds, is
    a text of its own. -/
def slotsOf (index : Nat) (slots : List (String × Value)) : Table Value :=
  .ofList <| slots.zipIdx.map fun ((key, value), position) =>
    let number := index * identitiesPerObject + 2 * position
    let value :=
      match value with
      | .string text => .string (text.withNumber (number + 1))
      | other => other
    (.numbered key number, value)

/-- The built-ins of a prototype, by slot. -/
def builtInsOf (prototype : Prototype) : List (String × Value) :=
  ((Primitive.tables.filter (·.1 = prototype)).flatMap Prod.snd).map fun builtIn =>
    (builtIn.name, .primitive builtIn)

/-- A shared prototype with its name and its built-ins. -/
def prototypeObject (prototype : Prototype) : Object where
  prototype := some (parentOf prototype)
  slots :=
    slotsOf prototype.id.index (("type", .string prototype.name) :: builtInsOf prototype)

/-- The shared prototypes by name. -/
def protos : Object where
  prototype := some objectPrototype
  slots :=
    slotsOf protosObject.index
      (Prototype.all.map (fun prototype => (prototype.name, .object prototype.id)) ++
        [("type", .string "Protos")])

/-- The `self` of the top level. -/
def lobby : Object where
  prototype := some protosObject
  slots :=
    slotsOf lobbyObject.index
      [("type", .string "Lobby"), ("Lobby", .object lobbyObject), ("Protos", .object protosObject),
       ("nil", .nil), ("true", .bool true), ("false", .bool false)]

/-- The objects of a new engine. -/
def objects : Array Object :=
  #[prototypeObject (.ofType .object), protos, lobby] ++
    (Prototype.all.drop 1).map prototypeObject

/-- The store of a new engine whose thread of execution has the label. -/
def store (label : String) : Store where
  objects := objects
  frames := #[{}]
  locals := #[{ self := .object lobbyObject, frame := moduleFrame }]
  coroutines := #[{ label := label }]

/-- The first identity that no text of a new engine has. -/
def nextIdentity : Nat := objects.size * identitiesPerObject

/-- Two identities for each slot are no more than are set aside: no two objects share one. -/
example : ∀ object ∈ objects.toList, 2 * object.slots.size ≤ identitiesPerObject := by
  decide +kernel

end World

end SlotTalk
