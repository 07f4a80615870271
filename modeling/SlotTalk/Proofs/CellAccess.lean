import SlotTalk.Store

namespace SlotTalk

/-!
# Reading cells after writing them

A write changes the cell it names and no other, and a new cell is found at the next free position.

* `getD_modify`, `getD_push` — the same for one array of cells.
* `object_modifyObject`, `object_addObject` and their siblings — one lemma for each kind of cell and
  each way of writing it.
* `prototype_putSlot`, `find?_putSlot` — what a slot that is put leaves of the objects.
-/

namespace Store

/-! ### Arrays of cells -/

section Arrays

variable {α : Type} (cells : Array α)

/-- A change at one index is seen there alone, and only if there is a cell. -/
theorem getD_modify (index other : Nat) (change : α → α) (empty : α) :
    (cells.modify index change).getD other empty
      = if index = other ∧ index < cells.size then change (cells.getD other empty)
        else cells.getD other empty := by
  rw [Array.getD_eq_getD_getElem?, Array.getD_eq_getD_getElem?, Array.getElem?_modify]
  by_cases same : index = other
  · subst same
    by_cases inside : index < cells.size
    · simp [inside]
    · simp [inside]
  · simp [same]

/-- A new cell is found at the end, where there was none before. -/
theorem getD_push (new : α) (index : Nat) (empty : α) :
    (cells.push new).getD index empty
      = if index = cells.size then new else cells.getD index empty := by
  rw [Array.getD_eq_getD_getElem?, Array.getD_eq_getD_getElem?, Array.getElem?_push]
  split <;> rfl

/-- Beyond the end there is the empty cell. -/
theorem getD_of_size_le {index : Nat} (beyond : cells.size ≤ index) (empty : α) :
    cells.getD index empty = empty := by
  rw [Array.getD_eq_getD_getElem?, Array.getElem?_eq_none beyond, Option.getD_none]

end Arrays

/-! ### Cells that are changed -/

section Changes

variable (store : Store)

/-- An object is changed at its own reference, and not at all if it does not exist. -/
theorem object_modifyObject (id other : ObjectId) (change : Object → Object) :
    (store.modifyObject id change).object other
      = if id.index = other.index ∧ id.index < store.objects.size then
          change (store.object other)
        else store.object other := getD_modify ..

/-- A list is changed at its own reference. -/
theorem list_modifyList (id other : ListId) (change : Array Value → Array Value) :
    (store.modifyList id change).list other
      = if id.index = other.index ∧ id.index < store.lists.size then change (store.list other)
        else store.list other := getD_modify ..

/-- A map is changed at its own reference. -/
theorem map_modifyMap (id other : MapId) (change : Table Value → Table Value) :
    (store.modifyMap id change).map other
      = if id.index = other.index ∧ id.index < store.maps.size then change (store.map other)
        else store.map other := getD_modify ..

/-- A frame is changed at its own reference. -/
theorem frame_modifyFrame (id other : FrameId) (change : Frame → Frame) :
    (store.modifyFrame id change).frame other
      = if id.index = other.index ∧ id.index < store.frames.size then change (store.frame other)
        else store.frame other := getD_modify ..

end Changes

/-! ### New cells -/

section NewCells

variable (store : Store)

/-- A new object is at the reference after the last; all others are as they were. -/
theorem object_addObject (new : Object) (id : ObjectId) :
    (store.addObject new).2.object id
      = if id.index = store.objects.size then new else store.object id := getD_push ..

/-- The reference that comes with a new object is the one that it is read at. -/
theorem object_addObject_new (new : Object) :
    (store.addObject new).2.object ⟨store.objects.size⟩ = new := by
  rw [object_addObject]
  exact if_pos rfl

/-- A new list is at the reference after the last. -/
theorem list_addList (new : Array Value) (id : ListId) :
    (store.addList new).2.list id
      = if id.index = store.lists.size then new else store.list id := getD_push ..

/-- A new map is at the reference after the last. -/
theorem map_addMap (new : Table Value) (id : MapId) :
    (store.addMap new).2.map id
      = if id.index = store.maps.size then new else store.map id := getD_push ..

/-- A new frame is at the reference after the last. -/
theorem frame_addFrame (new : Frame) (id : FrameId) :
    (store.addFrame new).2.frame id
      = if id.index = store.frames.size then new else store.frame id := getD_push ..

/-- A scope that does not exist is read as that of the top level. -/
theorem scope_of_size_le {id : LocalsId} (beyond : store.locals.size ≤ id.index) :
    store.scope id = store.scope ⟨0⟩ := by
  have first : store.scope ⟨0⟩ = store.locals.getD 0 {} := by
    -- What is read in place of a missing scope is read at the first index, and may be missing too.
    show store.locals.getD 0 (store.locals.getD 0 {}) = store.locals.getD 0 {}
    by_cases inScopes : 0 < store.locals.size
    · simp only [Array.getD, inScopes, ↓reduceDIte]
    · exact getD_of_size_le _ (Nat.le_of_not_lt inScopes) _
  rw [first, scope, getD_of_size_le _ beyond]

/-- A new scope is read at the reference that comes with it. -/
theorem scope_addLocals_new (new : Locals) :
    (store.addLocals new).2.scope ⟨store.locals.size⟩ = new := by
  show (store.locals.push new).getD store.locals.size _ = new
  rw [getD_push, if_pos rfl]

/-- A scope that exists is the same afterwards. -/
theorem scope_addLocals_of_lt (new : Locals) {id : LocalsId}
    (inScopes : id.index < store.locals.size) :
    (store.addLocals new).2.scope id = store.scope id := by
  show (store.locals.push new).getD id.index _ = store.locals.getD id.index _
  rw [getD_push, if_neg (Nat.ne_of_lt inScopes)]
  simp only [Array.getD, inScopes, ↓reduceDIte]

/-- What is read in place of a scope that does not exist may be the new one. -/
theorem scope_addLocals_eq_or (new : Locals) (id : LocalsId) :
    (store.addLocals new).2.scope id = new ∨ (store.addLocals new).2.scope id = store.scope id := by
  show (store.locals.push new).getD id.index ((store.locals.push new).getD 0 {}) = new
    ∨ (store.locals.push new).getD id.index ((store.locals.push new).getD 0 {}) = _
  rw [getD_push, getD_push]
  by_cases last : id.index = store.locals.size
  · exact .inl (if_pos last)
  rw [if_neg last]
  -- With no scope before, the new one is the first, and so it is read for any that is missing.
  by_cases first : 0 = store.locals.size
  · rw [if_pos first]
    exact .inl (getD_of_size_le _ (Nat.le_trans (Nat.le_of_eq first.symm) (Nat.zero_le _)) _)
  · rw [if_neg first]
    exact .inr rfl

/-- The code of a new function is at the reference after the last. -/
theorem function_addFunction (new : Code) (id : FunctionId) :
    (store.addFunction new).2.function id
      = if id.index = store.functions.size then new else store.function id := getD_push ..

/-- A new block is at the reference after the last. -/
theorem block_addBlock (new : Block) (id : BlockId) :
    (store.addBlock new).2.block id
      = if id.index = store.blocks.size then new else store.block id := getD_push ..

/-- A new method is at the reference after the last. -/
theorem method_addMethod (new : Method) (id : MethodId) :
    (store.addMethod new).2.method id
      = if id.index = store.methods.size then new else store.method id := getD_push ..

/-- A call is kept with its message, whose text gets an identity that only this call has. -/
theorem call_addCall (new : Call) (id : CallId) :
    (store.addCall new).2.call id
      = if id.index = store.calls.size then
          { new with message := recordMessage ⟨store.calls.size⟩ new.message }
        else store.call id := getD_push ..

end NewCells

/-! ### Slots -/

section Slots

variable (store : Store) (id other : ObjectId) (key : Text) (value : Value)

/-- Slots come and go without moving an object below another. -/
theorem prototype_putSlot :
    ((store.putSlot id key value).object other).prototype = (store.object other).prototype := by
  rw [putSlot, object_modifyObject]
  split <;> rfl

/-- An object that exists owns the slot that was put on it, and no other slot is changed. -/
theorem find?_putSlot (inObjects : id.index < store.objects.size) (name : String) :
    ((store.putSlot id key value).object other).slots.find? name
      = if id = other ∧ key.content = name then some value
        else (store.object other).slots.find? name := by
  have index : id.index = other.index ↔ id = other :=
    ⟨fun same => congrArg Ref.mk same, fun same => congrArg Ref.index same⟩
  rw [putSlot, object_modifyObject]
  -- Elsewhere nothing is changed; on the object itself the table says what is found.
  by_cases same : id = other
  · subst same
    simp only [inObjects, and_self, ↓reduceIte, Table.find?_put, true_and]
  · simp only [index, same, false_and, ↓reduceIte]

end Slots

end Store

end SlotTalk
