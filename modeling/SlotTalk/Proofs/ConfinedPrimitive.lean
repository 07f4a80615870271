import SlotTalk.Proofs.Confined

namespace SlotTalk

/-!
# Built-ins are confined

A built-in that activates nothing else is confined, on any receiver and inputs that may be held.

* `Invocation.Held` — an invocation on what may be held.
* `PlainPrimitive.run_confined` — the built-ins.
-/

attribute [local irreducible] Value.ofInt

variable {policy : Policy}

/-! ### Items -/

namespace Policy.HoldsItems

variable {items : Array Value} (held : policy.HoldsItems items)
include held

/-- An item of the list, or nil beyond its end. -/
theorem getD (position : Nat) : policy.Holds (items.getD position .nil) := by
  rw [Array.getD_eq_getD_getElem?]
  exact HoldsOption.getD (fun item itemAt => held item (Array.mem_of_getElem? itemAt)) trivial

/-- The last item, or nil if there is none. -/
theorem back : policy.Holds (items.back?.getD .nil) :=
  HoldsOption.getD (fun item last => held item (Array.mem_of_back? last)) trivial

/-- New items after those of the list. -/
theorem append {values : List Value} (new : ∀ value ∈ values, policy.Holds value) :
    policy.HoldsItems (items ++ values) := by
  intro item mem
  rw [Array.mem_def, Array.toList_appendList] at mem
  rcases List.mem_append.mp mem with mem | mem
  · exact held item (Array.mem_def.mpr mem)
  · exact new item mem

/-- A new item in place of one of the list, or the list as it was if there is none in that place. -/
theorem set (position : Nat) {value : Value} (new : policy.Holds value) :
    policy.HoldsItems (items.setIfInBounds position value) := by
  intro item mem
  rcases Array.mem_or_eq_of_mem_setIfInBounds mem with mem | rfl
  · exact held item mem
  · exact new

/-- All items but the last. -/
theorem pop : policy.HoldsItems items.pop := by
  intro item mem
  rw [Array.mem_def, Array.toList_pop] at mem
  exact held item (Array.mem_def.mpr ((List.dropLast_sublist _).mem mem))

end Policy.HoldsItems

/-! ### The built-ins, one for each prototype -/

/-- Receiver and inputs may be held. -/
structure Invocation.Held (policy : Policy) (use : Invocation) : Prop where
  receiver : policy.Holds use.receiver
  inputs : ∀ value ∈ use.inputs, policy.Holds value

/-- An input that was not given is nil. -/
theorem Invocation.Held.input {use : Invocation} (held : use.Held policy) (position : Nat) :
    policy.Holds (use.input position) := by
  rw [Invocation.input, List.getD_eq_getElem?_getD]
  have given : policy.HoldsOption use.inputs[position]? := fun value inputAt =>
    held.inputs value (List.mem_of_getElem? inputAt)
  exact given.getD trivial

section BuiltIns

variable {use : Invocation} (held : use.Held policy)

/-- What stands above a value: the prototype of an object that may be held, or a shared prototype,
    which always may be. -/
theorem ObjectPrimitive.holds_protoOf {store : Store} (linked : policy.Linked store)
    {value : Value} (held : policy.Holds value) : policy.Holds (protoOf store value) := by
  have shared := policy.shared (.ofType value.type)
  cases value with
  | object id =>
    dsimp only [protoOf]
    split
    next next above => exact (linked.object held).prototype next above
    next => trivial
  | _ => exact shared

include held

/-- The built-ins of objects.  What they answer is the receiver, an input, something that is found
    from these, or new. -/
theorem ObjectPrimitive.run_confined (primitive : ObjectPrimitive) :
    (primitive.run use).Confined policy policy.Holds := by
  have receiver := held.receiver
  cases primitive with
  | clone => exact .bind (.cloneOf (Policy.ref_delegate receiver)) fun _ ref => .answer ref
  | proto => exact .view fun _ closed => holds_protoOf closed.toLinked receiver
  | setProto =>
    exact .bind (.expectObject receiver) fun _ ref =>
      .bind (.expectObject (held.input 0)) fun _ next =>
        .edit (fun _ closed => closed.setPrototype ref next) receiver
  | hasSlot => exact .bind (.expectString _) fun _ _ => .view fun _ _ => trivial
  | hasLocalSlot => exact .bind (.expectString _) fun _ _ => .view fun _ _ => trivial
  -- What is found on the receiver is led to by it, and a missing slot is nil.
  | getSlot =>
    refine .bind (.expectString _) fun name _ => .view fun store closed => ?_
    refine Policy.HoldsOption.getD (fun value finds => ?_) trivial
    obtain ⟨found, looked, rfl⟩ := Option.map_eq_some_iff.mp finds
    exact (closed.lookupOn receiver looked).2
  | setSlot =>
    exact .bind (.expectText _) fun name _ => .bind (.expectObject receiver) fun _ ref =>
      .edit (fun _ closed => closed.putSlot ref name (held.input 1)) (held.input 1)
  | updateSlot =>
    exact .bind (.expectString _) fun name _ =>
      .bind (.updateSlot receiver name (held.input 1)) fun _ _ =>
        .ite (.answer (held.input 1)) (.fail trivial)
  -- The value that is removed was held by the receiver.
  | removeSlot =>
    exact .bind (.expectString _) fun name _ => .bind (.expectObject receiver) fun _ ref =>
      .bind (.removeSlot ref name) fun _ removed => .answer (removed.getD trivial)
  | slotNames => exact .store fun _ _ => .newStrings _
  | hasProto =>
    exact .bind (.expectObject (held.input 0)) fun _ _ => .view fun _ _ => trivial
  | equals | notEquals | isNil | not => exact .answer trivial
  | asString => exact .bind (.display _) fun _ _ => .newString _
  | print | println =>
    exact .bind (.display _) fun _ _ => .bind (.print _) fun _ _ => .answer receiver
  -- The inputs become the items of a new list.
  | list => exact .newList held.inputs
  | uniqueId =>
    unfold run
    dsimp only
    split
    · exact .answer (Policy.holds_ofNat _)
    · exact .answer trivial

/-- The built-ins of numbers answer numbers and truth values, or the receiver. -/
theorem NumberPrimitive.run_confined (primitive : NumberPrimitive) :
    (primitive.run use).Confined policy policy.Holds :=
  .ofCalculation held.receiver (primitive.answer_calculates _ _)

omit held in
/-- A number that is read in a text is one in its canonical form, or a float; where there is none
    the answer is nil. -/
theorem SequencePrimitive.holds_numberIn (text : String) : policy.Holds (numberIn text) := by
  unfold numberIn
  dsimp only
  split
  · exact Policy.holds_ofInt _
  · split <;> trivial

omit held in
/-- The built-ins of texts answer texts and numbers. -/
theorem SequencePrimitive.run_confined (primitive : SequencePrimitive) :
    (primitive.run use).Confined policy policy.Holds := by
  cases primitive with
  | size => exact .bind (.expectString _) fun _ _ => .answer (Policy.holds_ofNat _)
  | «at» =>
    refine .bind (.expectString _) fun text _ => .bind (.expectPosition _) fun position _ => ?_
    dsimp only
    split
    · exact .answer (Policy.holds_ofNat _)
    · exact .fail trivial
  | concat => exact .bind (.expectString _) fun _ _ => .bind (.display _) fun _ _ => .newString _
  | asString => exact .bind (.expectText _) fun _ _ => .answer trivial
  | asNumber => exact .bind (.expectString _) fun text _ => .answer (holds_numberIn text)

/-- The built-ins of lists.  What they answer is an item, the receiver or an input. -/
theorem ListPrimitive.run_confined (primitive : ListPrimitive) :
    (primitive.run use).Confined policy policy.Holds := by
  have receiver := held.receiver
  cases primitive with
  | clone => exact .newList nofun
  -- A list that may be held is given items that may be held, so that it leads to nothing new.
  | append =>
    exact .bind (.expectList receiver) fun _ ref =>
      .edit (fun _ closed => closed.modifyList ref ((closed.list ref).append held.inputs)) receiver
  | «at» =>
    exact .bind (.expectList receiver) fun _ ref => .bind (.expectPosition _) fun _ _ =>
      .ite (.answer trivial) (.view fun _ closed => (closed.list ref).getD _)
  | atPut =>
    exact .bind (.expectList receiver) fun _ ref => .bind (.expectPosition _) fun _ _ =>
      .store fun _ _ => .ite (.fail trivial) <|
        .edit (fun _ closed => closed.modifyList ref ((closed.list ref).set _ (held.input 1)))
          (held.input 1)
  | size =>
    exact .bind (.expectList receiver) fun _ _ => .view fun _ _ => Policy.holds_ofNat _
  | first =>
    exact .bind (.expectList receiver) fun _ ref => .view fun _ closed =>
      (closed.list ref).getD 0
  | last =>
    exact .bind (.expectList receiver) fun _ ref => .view fun _ closed => (closed.list ref).back
  | isEmpty => exact .bind (.expectList receiver) fun _ _ => .view fun _ _ => trivial
  -- The answer is read from the list before the item is gone.
  | removeLast =>
    exact .bind (.expectList receiver) fun _ ref => .store fun _ closed =>
      .edit (fun _ closed => closed.modifyList ref (closed.list ref).pop) (closed.list ref).back

/-- The built-ins of maps, in the same way.  Their keys are texts, and texts name no cells. -/
theorem MapPrimitive.run_confined (primitive : MapPrimitive) :
    (primitive.run use).Confined policy policy.Holds := by
  have receiver := held.receiver
  cases primitive with
  | clone => exact .newMap .empty .empty
  | atPut =>
    exact .bind (.expectMap receiver) fun _ ref => .bind (.expectText _) fun key _ =>
      .edit (fun _ closed => closed.putEntry ref key (held.input 1)) receiver
  | «at» =>
    exact .bind (.expectMap receiver) fun _ ref => .bind (.expectString _) fun _ _ =>
      .view fun _ closed => Policy.HoldsOption.getD (fun _ => (closed.map ref).find?) trivial
  | hasKey =>
    exact .bind (.expectMap receiver) fun _ _ => .bind (.expectString _) fun _ _ =>
      .view fun _ _ => trivial
  -- The answer is what the map held under the key.
  | removeAt =>
    exact .bind (.expectMap receiver) fun _ ref => .bind (.expectString _) fun key _ =>
      .store fun _ closed =>
        .edit (fun _ closed => closed.eraseEntry ref key)
          (Policy.HoldsOption.getD (fun _ => (closed.map ref).find?) trivial)
  | size => exact .bind (.expectMap receiver) fun _ _ => .view fun _ _ => Policy.holds_ofNat _
  | keys => exact .bind (.expectMap receiver) fun _ _ => .store fun _ _ => .newStrings _

/-- The names of parameters are texts. -/
theorem argumentNames_confined : (argumentNames use).Confined policy policy.Holds :=
  .bind (.expectInvokable held.receiver) fun _ _ => .store fun _ _ => .newStrings _

/-- A call that may be held leads to all that it tells. -/
theorem CallPrimitive.run_confined (primitive : CallPrimitive) :
    (primitive.run use).Confined policy policy.Holds := by
  have receiver := held.receiver
  unfold run
  split
  next id same =>
    refine .store fun store closed => ?_
    -- The receiver is the call itself.
    rw [same] at receiver
    have call := closed.call receiver
    cases primitive with
    | sender => exact .answer call.sender
    | target => exact .answer call.target
    | slotContext => exact .answer call.slotContext
    | activated => exact .answer call.activated
    | argCount => exact .answer (Policy.holds_ofNat _)
    | coroutine => exact .answer call.coroutine
    | message => exact .answer trivial
  next => exact .fail trivial

omit held in
/-- A message tells a text and a count. -/
theorem MessagePrimitive.run_confined (primitive : MessagePrimitive) :
    (primitive.run use).Confined policy policy.Holds := by
  unfold run
  split
  · exact .answer trivial
  · exact .answer (Policy.holds_ofNat _)
  · exact .fail trivial

/-- A scope tells its `self` and what its names stand for, as evaluation does. -/
theorem LocalsPrimitive.run_confined (primitive : LocalsPrimitive) :
    (primitive.run use).Confined policy policy.Holds := by
  have receiver := held.receiver
  cases primitive with
  | self =>
    exact .bind (.expectLocals receiver) fun _ ref => .view fun _ closed => (closed.scope ref).self
  | getSlot =>
    exact .bind (.expectString _) fun name _ => .bind (.expectLocals receiver) fun _ ref =>
      .view fun _ closed => (closed.readVariable? ref name).getD trivial

omit held in
/-- The number and the label of a thread of execution are no cells. -/
theorem CoroutinePrimitive.run_confined (primitive : CoroutinePrimitive) :
    (primitive.run use).Confined policy policy.Holds := by
  unfold run
  split
  · refine .store fun store _ => ?_
    cases primitive with
    | id => exact .answer trivial
    | label => exact .newString _
  · exact .fail trivial

omit held in
/-- The clock tells a date, and a date tells numbers. -/
theorem DatePrimitive.run_confined (primitive : DatePrimitive) :
    (primitive.run use).Confined policy policy.Holds := by
  cases primitive with
  | now => exact .read fun _ _ => .answer trivial
  | asNumber => exact .bind (.expectDate _) fun _ _ => .answer trivial
  | year => exact .bind (.expectDate _) fun _ _ => .answer (Policy.holds_ofInt _)

omit held in
/-- The text of what is raised is no value. -/
theorem ExceptionPrimitive.wording_confined (value : Value) :
    (wording value).Confined policy fun _ => True := by
  cases value with
  | nil => exact .answer trivial
  | _ => exact .display _

/-- What is raised is a new object below the receiver. -/
theorem ExceptionPrimitive.run_confined (primitive : ExceptionPrimitive) :
    (primitive.run use).Confined policy policy.Holds := by
  have receiver := held.receiver
  cases primitive with
  | raise =>
    -- The receiver is delegated to, and so may stand above the new object.
    have above := Policy.ref_delegate receiver
    refine .bind (.newText _) fun key _ => ?_
    refine .bind (.newObject above (.put .empty _ _) (.put .empty key (held.input 0)))
      fun object holds => ?_
    exact .bind (wording_confined _) fun _ _ => .fail holds
  | message =>
    refine .store fun store closed => ?_
    split
    next found looked =>
      refine .answer ?_
      split
      · trivial
      · exact (closed.lookupOn receiver looked).2
    next => exact .answer trivial

/-- **Built-ins.** A built-in that activates nothing else is confined. -/
theorem PlainPrimitive.run_confined (primitive : PlainPrimitive) :
    (primitive.run use).Confined policy policy.Holds := by
  cases primitive with
  | object primitive => exact primitive.run_confined held
  | number primitive => exact primitive.run_confined held
  | sequence primitive => exact primitive.run_confined
  | list primitive => exact primitive.run_confined held
  | map primitive => exact primitive.run_confined held
  | blockArgumentNames | functionArgumentNames => exact argumentNames_confined held
  | call primitive => exact primitive.run_confined held
  | message primitive => exact primitive.run_confined
  | locals primitive => exact primitive.run_confined held
  | coroutine primitive => exact primitive.run_confined
  | date primitive => exact primitive.run_confined
  | exception primitive => exact primitive.run_confined held

end BuiltIns

end SlotTalk
