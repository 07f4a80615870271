import SlotTalk.Primitive.Invocation

namespace SlotTalk

/-!
# Built-ins of lists and maps

* `ListPrimitive.run` — items by position.
* `MapPrimitive.run` — entries by key, in the order in which the keys became present.
-/

namespace ListPrimitive

/-- The answer of a built-in of lists. -/
def run (use : Invocation) : ListPrimitive → Action Value
  | .clone => Action.newList []
  | .append => do
    let list ← use.receiver.expectList
    Action.modifyStore (·.modifyList list (· ++ use.inputs))
    return use.receiver
  | .at => do
    let list ← use.receiver.expectList
    let position ← (use.input 0).expectPosition
    if position < 0 then return .nil
    else return ((← Action.store).list list).getD position.toNat .nil
  | .atPut => do
    let list ← use.receiver.expectList
    let position ← (use.input 0).expectPosition
    let size := ((← Action.store).list list).size
    if position < 0 ∨ size ≤ position.toNat then
      throw (.outOfBounds position size)
    else
      Action.modifyStore (·.modifyList list (·.setIfInBounds position.toNat (use.input 1)))
      return use.input 1
  | .size => do
    let list ← use.receiver.expectList
    return .ofNat ((← Action.store).list list).size
  | .first => do
    let list ← use.receiver.expectList
    return ((← Action.store).list list).getD 0 .nil
  | .last => do
    let list ← use.receiver.expectList
    return ((← Action.store).list list).back?.getD .nil
  | .isEmpty => do
    let list ← use.receiver.expectList
    return .bool ((← Action.store).list list).isEmpty
  | .removeLast => do
    let list ← use.receiver.expectList
    let removed := ((← Action.store).list list).back?.getD .nil
    Action.modifyStore (·.modifyList list Array.pop)
    return removed

end ListPrimitive

namespace MapPrimitive

/-- The answer of a built-in of maps. -/
def run (use : Invocation) : MapPrimitive → Action Value
  | .clone => Action.newMap {}
  | .atPut => do
    let map ← use.receiver.expectMap
    let key ← (use.input 0).expectText
    Action.modifyStore (·.modifyMap map (·.put key (use.input 1)))
    return use.receiver
  | .at => do
    let map ← use.receiver.expectMap
    let key ← (use.input 0).expectString
    return (((← Action.store).map map).find? key).getD .nil
  | .hasKey => do
    let map ← use.receiver.expectMap
    let key ← (use.input 0).expectString
    return .bool (((← Action.store).map map).contains key)
  | .removeAt => do
    let map ← use.receiver.expectMap
    let key ← (use.input 0).expectString
    let removed := ((← Action.store).map map).find? key
    Action.modifyStore (·.modifyMap map (·.erase key))
    return removed.getD .nil
  | .size => do
    let map ← use.receiver.expectMap
    return .ofNat ((← Action.store).map map).size
  | .keys => do
    let map ← use.receiver.expectMap
    let keys := ((← Action.store).map map).keys
    Action.newList (keys.map .string)

end MapPrimitive

end SlotTalk
