import SlotTalk.Proofs.Ordinary

namespace SlotTalk

/-!
# Built-ins are ordinary

A built-in that activates nothing else is an ordinary action, whatever it is used on, but for the
one that raises; and that is a routine one.

* `ObjectPrimitive.run_ordinary` and its siblings — the built-ins of each prototype.
* `PlainPrimitive.run_ordinary` — all of them.
-/

/-! ### The built-ins, one for each prototype -/

section BuiltIns

variable (use : Invocation)

/-- The prototype of a value is a shared object or a field of an object, and frames have no part in
    it. -/
theorem ObjectPrimitive.protoOf_visible (store : Store) (value : Value) :
    protoOf store.visible value = protoOf store value := by
  cases value <;> rfl

/-- Whether an object is met on the way up from a value is seen without contexts as well. -/
theorem ObjectPrimitive.isAbove_visible (store : Store) (candidate : ObjectId) (value : Value) :
    isAbove store.visible candidate value = isAbove store candidate value := by
  cases value <;> simp only [isAbove, Store.hasPrototype_visible]

/-- The built-ins of objects.  Most look at their arguments, and then read or change one object; a
    text of an object is made of what can be displayed. -/
theorem ObjectPrimitive.run_ordinary (primitive : ObjectPrimitive) :
    (primitive.run use).Ordinary := by
  cases primitive with
  | clone => exact .bind (.cloneOf _) fun _ => .answer _
  -- What is only read has to be the same without contexts.
  | proto => exact .view fun store => protoOf_visible store _
  | setProto =>
    exact .bind (.expectObject _) fun _ => .bind (.expectObject _) fun _ =>
      .edit (.setPrototype ..) _
  | hasSlot => exact .bind (.expectString _) fun _ => .view fun store => by simp
  | hasLocalSlot => exact .bind (.expectString _) fun _ => .view fun store => by simp
  | getSlot => exact .bind (.expectString _) fun _ => .view fun store => by simp
  | setSlot =>
    exact .bind (.expectText _) fun _ => .bind (.expectObject _) fun _ => .edit (.putSlot ..) _
  -- An update may find no owner, which is an error of its own and no mismatch.
  | updateSlot =>
    exact .bind (.expectString _) fun _ => .bind (.updateSlot ..) fun _ =>
      .ite (.answer _) (.fail nofun nofun)
  | removeSlot =>
    exact .bind (.expectString _) fun _ => .bind (.expectObject _) fun _ =>
      .bind (.removeSlot ..) fun _ => .answer _
  | slotNames => exact .store (fun store => by simp) fun _ => .newList _
  | hasProto =>
    exact .bind (.expectObject _) fun _ => .view fun store => by rw [isAbove_visible]
  | equals | notEquals | isNil | not => exact .answer _
  | asString => exact .bind (.display _) fun _ => .newString _
  | print => exact .bind (.display _) fun _ => .bind (.print _) fun _ => .answer _
  | println => exact .bind (.display _) fun _ => .bind (.print _) fun _ => .answer _
  | list => exact .newList _
  -- Where there is an identity to tell, it is a number that the value carries.
  | uniqueId =>
    unfold run
    dsimp only
    split
    · exact .answer _
    · exact .answer _

/-- The built-ins of numbers are calculations, with an identity for a big result. -/
theorem NumberPrimitive.run_ordinary (primitive : NumberPrimitive) :
    (primitive.run use).Ordinary :=
  .ofCalculation (primitive.answer_calculates _ _)

/-- The built-ins of texts read the text that they are used on, and the store only to display
    another value. -/
theorem SequencePrimitive.run_ordinary (primitive : SequencePrimitive) :
    (primitive.run use).Ordinary := by
  cases primitive with
  | size => exact .bind (.expectString _) fun _ => .answer _
  | «at» =>
    refine .bind (.expectString _) fun text => .bind (.expectPosition _) fun position => ?_
    dsimp only
    -- A position outside of the text, be it below zero or beyond the end, is the one error.
    generalize (if position < 0 then none else text.toList[position.toNat]?) = found
    cases found with
    | some c => exact .answer _
    | none => exact .fail nofun nofun
  | concat => exact .bind (.expectString _) fun _ => .bind (.display _) fun _ => .newString _
  | asString => exact .bind (.expectText _) fun _ => .answer _
  | asNumber => exact .bind (.expectString _) fun _ => .answer _

/-- The built-ins of lists.  Positions outside of a list are read as nil, and refused where they are
    written. -/
theorem ListPrimitive.run_ordinary (primitive : ListPrimitive) :
    (primitive.run use).Ordinary := by
  cases primitive with
  | clone => exact .newList []
  | append => exact .bind (.expectList _) fun _ => .edit (.modifyList ..) _
  | «at» =>
    exact .bind (.expectList _) fun _ => .bind (.expectPosition _) fun _ =>
      .ite (.answer _) (.view fun _ => rfl)
  -- The bound is that of the list at the time of the write, and so the store is read first.
  | atPut =>
    exact .bind (.expectList _) fun _ => .bind (.expectPosition _) fun _ =>
      .store (fun _ => rfl) fun _ => .ite (.fail nofun nofun) (.edit (.modifyList ..) _)
  | size | first | last | isEmpty => exact .bind (.expectList _) fun _ => .view fun _ => rfl
  -- The last item is answered as it was before it was removed.
  | removeLast =>
    exact .bind (.expectList _) fun _ => .store (fun _ => rfl) fun _ => .edit (.modifyList ..) _

/-- The built-ins of maps.  Keys are texts, and the list of all keys is a new cell. -/
theorem MapPrimitive.run_ordinary (primitive : MapPrimitive) : (primitive.run use).Ordinary := by
  cases primitive with
  | clone => exact .newMap .empty
  | atPut =>
    exact .bind (.expectMap _) fun _ => .bind (.expectText _) fun _ => .edit (.putEntry ..) _
  | «at» | hasKey =>
    exact .bind (.expectMap _) fun _ => .bind (.expectString _) fun _ => .view fun _ => rfl
  | removeAt =>
    exact .bind (.expectMap _) fun _ => .bind (.expectString _) fun _ =>
      .store (fun _ => rfl) fun _ => .edit (.eraseEntry ..) _
  | size => exact .bind (.expectMap _) fun _ => .view fun _ => rfl
  | keys => exact .bind (.expectMap _) fun _ => .store (fun _ => rfl) fun _ => .newList _

/-- The names of the parameters of a block or function, in a new list. -/
theorem argumentNames_ordinary : (argumentNames use).Ordinary :=
  .bind (.expectInvokable _) fun _ => .store (fun store => by simp) fun _ => .newList _

/-- What is known of a call was recorded when it was made, and is read from its cell. -/
theorem CallPrimitive.run_ordinary (primitive : CallPrimitive) :
    (primitive.run use).Ordinary := by
  unfold run
  split
  · refine .store (fun _ => rfl) fun _ => ?_
    cases primitive <;> exact .answer _
  · exact .mismatch ..

/-- A message tells its name and the number of its arguments without any cell. -/
theorem MessagePrimitive.run_ordinary (primitive : MessagePrimitive) :
    (primitive.run use).Ordinary := by
  unfold run
  split
  · exact .answer _
  · exact .answer _
  · exact .mismatch ..

/-- A scope tells its `self` and its names.  The context of its frame is not among them. -/
theorem LocalsPrimitive.run_ordinary (primitive : LocalsPrimitive) :
    (primitive.run use).Ordinary := by
  cases primitive with
  | self => exact .bind (.expectLocals _) fun _ => .view fun _ => rfl
  | getSlot =>
    exact .bind (.expectString _) fun _ => .bind (.expectLocals _) fun _ =>
      .view fun store => by simp

/-- A thread of execution tells its number, and its label in a new text. -/
theorem CoroutinePrimitive.run_ordinary (primitive : CoroutinePrimitive) :
    (primitive.run use).Ordinary := by
  unfold run
  split
  · refine .store (fun _ => rfl) fun store => ?_
    cases primitive with
    | id => exact .answer _
    | label => exact .newString _
  · exact .mismatch ..

/-- The clock is a part of the state that is visible. -/
theorem DatePrimitive.run_ordinary (primitive : DatePrimitive) : (primitive.run use).Ordinary := by
  cases primitive with
  | now => exact .read (fun _ => rfl) fun _ => .answer _
  | asNumber => exact .bind (.expectDate _) fun _ => .answer _
  | year => exact .bind (.expectDate _) fun _ => .answer _

/-- The text of an error that a program raises: that of the value, and none for nil. -/
theorem ExceptionPrimitive.wording_ordinary (value : Value) : (wording value).Ordinary := by
  cases value with
  | nil => exact .answer _
  | _ => exact .display _

/-- To raise is routine but not ordinary: what it fails with carries the new object. -/
theorem ExceptionPrimitive.raise_routine : (run use .raise).Routine :=
  .bind (Action.Ordinary.newText _).routine fun _ =>
    .bind (Action.Ordinary.newObject _ (.put .empty _ _)).routine fun _ =>
      .bind (wording_ordinary _).routine fun _ => .fail nofun

/-- The message of an exception is looked up like any slot, and nil if it is missing. -/
theorem ExceptionPrimitive.message_ordinary : (run use .message).Ordinary := by
  refine .store (fun store => by simp) fun store => ?_
  split
  · exact .answer _
  · exact .answer _

/-- **Built-ins.** A built-in that activates nothing else is an ordinary action, unless it is the
    one that raises. -/
theorem PlainPrimitive.run_ordinary (primitive : PlainPrimitive)
    (quiet : primitive ≠ .exception .raise) : (primitive.run use).Ordinary := by
  cases primitive with
  | object primitive => exact primitive.run_ordinary use
  | number primitive => exact primitive.run_ordinary use
  | sequence primitive => exact primitive.run_ordinary use
  | list primitive => exact primitive.run_ordinary use
  | map primitive => exact primitive.run_ordinary use
  | blockArgumentNames | functionArgumentNames => exact argumentNames_ordinary use
  | call primitive => exact primitive.run_ordinary use
  | message primitive => exact primitive.run_ordinary use
  | locals primitive => exact primitive.run_ordinary use
  | coroutine primitive => exact primitive.run_ordinary use
  | date primitive => exact primitive.run_ordinary use
  | exception primitive =>
    cases primitive with
    -- The one built-in that is left out.
    | raise => exact absurd rfl quiet
    | message => exact ExceptionPrimitive.message_ordinary use

end BuiltIns

end SlotTalk
