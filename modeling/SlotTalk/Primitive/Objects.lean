import SlotTalk.Primitive.Invocation

namespace SlotTalk

/-!
# Built-ins of every value

* `ObjectPrimitive.run` — slots, prototypes, equality and printing.
-/

namespace ObjectPrimitive

/-- The prototype of an object, or the shared one of any other value. -/
def protoOf (store : Store) : Value → Value
  | .object id =>
    match (store.object id).prototype with
    | some prototype => .object prototype
    | none => .nil
  | other => .object other.delegate

/-- The candidate stands above the value; a shared prototype stands above the values of its kind. -/
def isAbove (store : Store) (candidate : ObjectId) : Value → Bool
  | .object id => store.hasPrototype id candidate
  | other => other.delegate == candidate || store.hasPrototype other.delegate candidate

/-- The answer of a built-in of every value. -/
def run (use : Invocation) : ObjectPrimitive → Action Value
  | .clone => return .object (← Action.cloneOf use.receiver.delegate)
  | .proto => return protoOf (← Action.store) use.receiver
  | .setProto => do
    let target ← use.receiver.expectObject
    let prototype ← (use.input 0).expectObject
    Action.modifyStore (·.setPrototype target (some prototype))
    return use.receiver
  | .hasSlot => do
    let name ← (use.input 0).expectString
    return .bool ((← Action.store).lookupOn use.receiver name).isSome
  | .hasLocalSlot => do
    let name ← (use.input 0).expectString
    return .bool (((← Action.store).ownSlots use.receiver).contains name)
  | .getSlot => do
    let name ← (use.input 0).expectString
    return (((← Action.store).lookupOn use.receiver name).map Found.value).getD .nil
  | .setSlot => do
    let name ← (use.input 0).expectText
    let target ← use.receiver.expectObject
    Action.modifyStore (·.putSlot target name (use.input 1))
    return use.input 1
  | .updateSlot => do
    let name ← (use.input 0).expectString
    if ← Action.updateSlot use.receiver name (use.input 1) then
      return use.input 1
    else
      throw (.undefinedName name use.message.location)
  | .removeSlot => do
    let name ← (use.input 0).expectString
    let target ← use.receiver.expectObject
    return (← Action.removeSlot target name).getD .nil
  | .slotNames => do
    let slots := (← Action.store).ownSlots use.receiver
    Action.newList (slots.keys.map .string)
  | .hasProto => do
    let candidate ← (use.input 0).expectObject
    return .bool (isAbove (← Action.store) candidate use.receiver)
  | .equals => return .bool (use.receiver.equals (use.input 0))
  | .notEquals => return .bool (!use.receiver.equals (use.input 0))
  | .isNil => return .bool use.receiver.isNil
  | .not => return .bool (!use.receiver.isTruthy)
  | .asString => do Action.newString (← Action.display use.receiver)
  | .print => do
    Action.print (← Action.display use.receiver)
    return use.receiver
  | .println => do
    Action.print ((← Action.display use.receiver) ++ "\n")
    return use.receiver
  | .list => Action.newList use.inputs
  | .uniqueId =>
    match use.receiver.identity? with
    | some number => return .ofNat number
    | none => return .nil

end ObjectPrimitive

end SlotTalk
