import SlotTalk.Proofs.CellAccess
import SlotTalk.Proofs.Ordinary

namespace SlotTalk

/-!
# How a store evolves

Whatever is done to a store, no cell goes away, code and scopes and calls stay what they are, and a
frame keeps its place among the other frames: all that happens to it is that its variables get other
values, and that new variables come after those it has.

* `Frame.Evolves`, `Store.Evolves` — what stays.
* `Store.Change.evolves`, `Store.Extension.evolves` — every change of a cell and every new cell is
  such a step.
-/

/-- The names of the variables that a table has come first, in the same order. -/
theorem Table.keys_prefix_put {α : Type} (table : Table α) (key : Text) (value : α) :
    table.keys <+: (table.put key value).keys := by
  cases present : table.contains key.content with
  | true =>
    exact keys_put_of_contains key value present ▸ List.prefix_refl _
  | false =>
    rw [keys_put_of_not_contains key value present]
    exact List.prefix_append ..

/-- Kind, context and enclosing frame stay, and the variables stay in their order, with new ones
    after them. -/
structure Frame.Evolves (before after : Frame) : Prop where
  kind : after.kind = before.kind
  context : after.context = before.context
  outer : after.outer = before.outer
  names : before.vars.keys <+: after.vars.keys

/-- A frame that is not touched. -/
theorem Frame.Evolves.refl (frame : Frame) : frame.Evolves frame :=
  ⟨rfl, rfl, rfl, List.prefix_refl _⟩

/-- New variables come after those that came after the first ones. -/
theorem Frame.Evolves.trans {a b c : Frame} (first : a.Evolves b) (second : b.Evolves c) :
    a.Evolves c where
  kind := second.kind.trans first.kind
  context := second.context.trans first.context
  outer := second.outer.trans first.outer
  names := first.names.trans second.names

namespace Store

/-- Number of cells of a kind. -/
def count (store : Store) : Cell → Nat
  | .object => store.objects.size
  | .list => store.lists.size
  | .map => store.maps.size
  | .frame => store.frames.size
  | .locals => store.locals.size
  | .call => store.calls.size
  | .coroutine => store.coroutines.size
  | .function => store.functions.size
  | .block => store.blocks.size
  | .method => store.methods.size

/-- A change makes no cell. -/
theorem count_change {change : Store → Store} (step : Change change) {store : Store}
    (cell : Cell) : (change store).count cell = store.count cell := by
  cases step <;> cases cell <;> simp [count, putSlot, eraseSlot, setPrototype, putVariable,
    modifyObject, modifyList, modifyMap, modifyFrame]

/-- A new cell makes one more of its kind, and no fewer of any other. -/
theorem count_extension {α : Type} {change : Store → α × Store} (step : Extension change)
    {store : Store} (cell : Cell) : store.count cell ≤ (change store).2.count cell := by
  cases step <;> cases cell <;> simp [count, addObject, addList, addMap, addFrame, addLocals,
    addCall, addFunction, addBlock, addMethod]

/-- No cell goes away.  Frames evolve, what cannot be changed is not changed, and no thread of
    execution is added. -/
structure Evolves (before after : Store) : Prop where
  count (cell : Cell) : before.count cell ≤ after.count cell
  frame {id : FrameId} : id.index < before.frames.size →
    (before.frame id).Evolves (after.frame id)
  scope {id : LocalsId} : id.index < before.locals.size → after.scope id = before.scope id
  call {id : CallId} : id.index < before.calls.size → after.call id = before.call id
  coroutines : after.coroutines = before.coroutines
  function {id : FunctionId} : id.index < before.functions.size →
    after.function id = before.function id
  block {id : BlockId} : id.index < before.blocks.size → after.block id = before.block id
  method {id : MethodId} : id.index < before.methods.size → after.method id = before.method id

/-- A store that is not touched. -/
theorem Evolves.refl (store : Store) : store.Evolves store where
  count _ := Nat.le_refl _
  frame _ := .refl _
  scope _ := rfl
  call _ := rfl
  coroutines := rfl
  function _ := rfl
  block _ := rfl
  method _ := rfl

/-- A cell that was there first is there in between, and so the second step keeps it too. -/
theorem Evolves.trans {a b c : Store} (first : a.Evolves b) (second : b.Evolves c) :
    a.Evolves c where
  count cell := Nat.le_trans (first.count cell) (second.count cell)
  frame old :=
    (first.frame old).trans (second.frame (Nat.lt_of_lt_of_le old (first.count .frame)))
  scope old :=
    (second.scope (Nat.lt_of_lt_of_le old (first.count .locals))).trans (first.scope old)
  call old := (second.call (Nat.lt_of_lt_of_le old (first.count .call))).trans (first.call old)
  coroutines := second.coroutines.trans first.coroutines
  function old :=
    (second.function (Nat.lt_of_lt_of_le old (first.count .function))).trans (first.function old)
  block old := (second.block (Nat.lt_of_lt_of_le old (first.count .block))).trans (first.block old)
  method old :=
    (second.method (Nat.lt_of_lt_of_le old (first.count .method))).trans (first.method old)

/-- A change of an object, a list or a map touches nothing that has to stay. -/
theorem Change.evolves {change : Store → Store} (step : Change change) (store : Store) :
    store.Evolves (change store) := by
  have count : ∀ cell, store.count cell ≤ (change store).count cell := fun cell =>
    Nat.le_of_eq (count_change step cell).symm
  -- Only one change touches a frame.
  cases step with
  | putVariable id name value =>
    refine { Evolves.refl store with count := count, frame := fun {other} _ => ?_ }
    show (store.frame other).Evolves ((store.modifyFrame id _).frame other)
    rw [frame_modifyFrame]
    split
    · exact ⟨rfl, rfl, rfl, (store.frame other).vars.keys_prefix_put name value⟩
    · exact .refl _
  | _ => exact { Evolves.refl store with count := count }

/-- A new cell is at an index of its own, and what was at the others is there still. -/
theorem Extension.evolves {α : Type} {change : Store → α × Store} (step : Extension change)
    (store : Store) : store.Evolves (change store).2 := by
  have count : ∀ cell, store.count cell ≤ (change store).2.count cell := count_extension step
  -- Each case is about the kind of the new cell; the other kinds are the same arrays.
  cases step with
  | @addFrame frame distinct =>
    refine { Evolves.refl store with count := count, frame := fun old => ?_ }
    rw [frame_addFrame store frame, if_neg (Nat.ne_of_lt old)]
    exact .refl _
  | addLocals new =>
    exact { Evolves.refl store with
      count := count
      scope := fun old => store.scope_addLocals_of_lt new old }
  | addCall new =>
    refine { Evolves.refl store with count := count, call := fun old => ?_ }
    rw [call_addCall, if_neg (Nat.ne_of_lt old)]
  | addFunction code =>
    refine { Evolves.refl store with count := count, function := fun old => ?_ }
    rw [function_addFunction, if_neg (Nat.ne_of_lt old)]
  | addBlock block =>
    refine { Evolves.refl store with count := count, block := fun old => ?_ }
    rw [block_addBlock, if_neg (Nat.ne_of_lt old)]
  | addMethod method =>
    refine { Evolves.refl store with count := count, method := fun old => ?_ }
    rw [method_addMethod, if_neg (Nat.ne_of_lt old)]
  | _ => exact { Evolves.refl store with count := count }

end Store

end SlotTalk
