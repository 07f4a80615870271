import SlotTalk.Proofs.ConfinedPrimitive
import SlotTalk.Proofs.Deliberate
import SlotTalk.Proofs.SoundStore

namespace SlotTalk

/-!
# Built-ins look before they write

A built-in that activates nothing else fails before it has changed anything, but for the one that
raises.  On a sound store, and on what exists, it leaves a sound store and answers what exists.

* `Invocation.Safe` — such an end of a built-in.
* `PlainPrimitive.run_deliberate` — all built-ins but the one that raises.
-/

open RuntimeError (Plain)

attribute [local irreducible] Value.ofInt

variable {before : Engine}

/-- What exists goes on to exist where the store leads to. -/
theorem Store.Leads.and_holds {store after : Store} (leads : store.Leads after) {value : Value}
    (held : store.known.Holds value) : store.Leads after ∧ after.known.Holds value :=
  ⟨leads, leads.evolves.holds held⟩

/-- The built-in ends well: if the store was sound and all that it was used on existed, the store is
    sound again and the answer exists. -/
def Invocation.Safe (use : Invocation) (before : Engine) (answer : Value) (after : Engine) : Prop :=
  before.store.Sound → use.Held before.store.known →
    before.store.Leads after.store ∧ after.store.known.Holds answer

variable {use : Invocation}

/-- An answer that is no reference, with the store as it was. -/
theorem Invocation.Safe.plain {answer : Value} {after : Engine}
    (store : after.store = before.store) (holds : ∀ policy : Policy, policy.Holds answer) :
    use.Safe before answer after :=
  fun sound _ => ⟨by rw [store]; exact .refl sound, holds _⟩

/-- An answer that is found, with everything as it was. -/
theorem Invocation.Safe.found {answer : Value}
    (holds : before.store.Sound → use.Held before.store.known → before.store.known.Holds answer) :
    use.Safe before answer before :=
  fun sound held => ⟨.refl sound, holds sound held⟩

/-- A list of new texts. -/
theorem Invocation.Safe.texts (texts : List Text) :
    use.Safe before (.list ⟨before.store.lists.size⟩)
      { before with store := (before.store.addList (texts.map .string).toArray).2 } := by
  refine fun sound _ => sound.addList fun item mem => ?_
  obtain ⟨text, -, rfl⟩ := List.mem_map.mp (List.mem_toArray.mp mem)
  trivial

section BuiltIns

open SlotTalk.Action (Looks)

/-- The built-ins of objects look at the receiver and the inputs, and change one object at most. -/
theorem ObjectPrimitive.run_deliberate (primitive : ObjectPrimitive) :
    (primitive.run use).Deliberate Plain before (use.Safe before) := by
  cases primitive with
  | clone =>
    exact fun sound held => sound.addObject (Policy.ref_delegate held.receiver) .empty .empty
  | proto => exact .view (.found fun sound held => holds_protoOf sound.linked held.receiver)
  | setProto =>
    refine .look (Looks.expectObject (plain_mismatch _ _)) fun target _ => ?_
    refine .look (Looks.expectObject (plain_mismatch _ _)) fun next same => ?_
    refine .edit fun sound held => ?_
    -- The new prototype exists, since it is an input.
    have known := held.input 0
    rw [same] at known
    exact (sound.setPrototype target known).and_holds held.receiver
  | hasSlot | hasLocalSlot =>
    exact .look Looks.expectString fun _ _ => .view (.plain rfl fun _ => trivial)
  | getSlot =>
    refine .look Looks.expectString fun name _ => .view (.found fun sound held => ?_)
    refine Policy.HoldsOption.getD (fun value finds => ?_) trivial
    obtain ⟨found, looked, rfl⟩ := Option.map_eq_some_iff.mp finds
    exact (sound.linked.lookupOn held.receiver looked).2
  | setSlot =>
    refine .look Looks.expectText fun name _ => ?_
    refine .look (Looks.expectObject (plain_mismatch _ _)) fun target _ => ?_
    refine .edit fun sound held => ?_
    exact (sound.putSlot target name (held.input 1)).and_holds (held.input 1)
  -- Whether there is an owner is seen before the slot of the owner is changed.
  | updateSlot =>
    refine .look Looks.expectString fun name _ => .updateOwned nofun fun owner _ sound held => ?_
    exact (sound.putSlot owner.holder name (held.input 1)).and_holds (held.input 1)
  | removeSlot =>
    refine .look Looks.expectString fun name _ => ?_
    refine .look (Looks.expectObject (plain_mismatch _ _)) fun target same => ?_
    -- The answer is what the slot held before it was removed.
    refine fun sound held => (sound.eraseSlot target name).and_holds ?_
    have known := held.receiver
    rw [same] at known
    exact Policy.HoldsOption.getD (fun _ => (sound.linked.object known).slots.find?) trivial
  | slotNames => exact .store (.newList (.texts _))
  | hasProto =>
    exact .look (Looks.expectObject (plain_mismatch _ _)) fun _ _ =>
      .view (.plain rfl fun _ => trivial)
  | equals | notEquals | isNil | not => exact .answer (.plain rfl fun _ => trivial)
  | asString => exact Invocation.Safe.plain rfl fun _ => trivial
  | print | println => exact fun sound held => ⟨.refl sound, held.receiver⟩
  | list => exact fun sound held => sound.addList fun item mem =>
      held.inputs item (List.mem_toArray.mp mem)
  -- A number of an identity, or nil: neither is a reference.
  | uniqueId =>
    unfold run
    dsimp only
    split
    · exact .answer (.plain rfl fun _ => Policy.holds_ofNat _)
    · exact .answer (.plain rfl fun _ => trivial)

/-- A calculation fails or gives a number, and no cell is touched. -/
theorem NumberPrimitive.run_deliberate (primitive : NumberPrimitive) :
    (primitive.run use).Deliberate Plain before (use.Safe before) := by
  refine .ofCalculation (primitive.answer_calculates _ _) (fun _ => plain_of_calculation)
    (fun value calculated => ?_) fun n calculated => ?_
  · exact .found fun sound held => Policy.holds_of_calculated held.receiver calculated
  -- A big result has got an identity; the store is the same.
  · exact fun sound _ => ⟨.refl sound, trivial⟩

/-- The built-ins of texts change nothing, and answer texts and numbers. -/
theorem SequencePrimitive.run_deliberate (primitive : SequencePrimitive) :
    (primitive.run use).Deliberate Plain before (use.Safe before) := by
  cases primitive with
  | size =>
    exact .look Looks.expectString fun _ _ => .answer (.plain rfl fun _ => Policy.holds_ofNat _)
  | «at» =>
    refine .look Looks.expectString fun text _ => .look Looks.expectPosition fun position _ => ?_
    dsimp only
    split
    · exact .answer (.plain rfl fun _ => Policy.holds_ofNat _)
    · exact .fail (plain_outOfBounds _ _)
  | concat => exact .look Looks.expectString fun _ _ => Invocation.Safe.plain rfl fun _ => trivial
  | asString => exact .look Looks.expectText fun _ _ => .answer (.plain rfl fun _ => trivial)
  | asNumber =>
    exact .look Looks.expectString fun text _ => .answer (.plain rfl fun _ => holds_numberIn text)

/-- The built-ins of lists look at all arguments, and at the bounds where these matter, before the
    list is changed. -/
theorem ListPrimitive.run_deliberate (primitive : ListPrimitive) :
    (primitive.run use).Deliberate Plain before (use.Safe before) := by
  -- The list that the receiver is exists.
  have known : ∀ {list}, use.receiver = .list list → use.Held before.store.known →
      before.store.known.ref list := fun same held => by
    have receiver := held.receiver
    rw [same] at receiver
    exact receiver
  -- And so do its items.
  have items : ∀ {list}, use.receiver = .list list → before.store.Sound →
      use.Held before.store.known → before.store.known.HoldsItems (before.store.list list) :=
    fun same sound held => sound.linked.list (known same held)
  cases primitive with
  | clone => exact fun sound held => sound.addList nofun
  | append =>
    refine .look Looks.expectList fun list same => .edit fun sound held => ?_
    exact (sound.modifyList fun _ => (items same sound held).append held.inputs).and_holds
      held.receiver
  | «at» =>
    refine .look Looks.expectList fun list same => .look Looks.expectPosition fun position _ => ?_
    exact .ite (fun _ => .answer (.plain rfl fun _ => trivial)) fun _ =>
      .view (.found fun sound held => (items same sound held).getD _)
  | atPut =>
    refine .look Looks.expectList fun list same => .look Looks.expectPosition fun position _ => ?_
    -- A position out of bounds is refused before the write.
    refine .store (.ite (fun _ => .fail (plain_outOfBounds _ _)) fun _ => ?_)
    refine .edit fun sound held => ?_
    exact (sound.modifyList fun _ => (items same sound held).set _ (held.input 1)).and_holds
      (held.input 1)
  | size =>
    exact .look Looks.expectList fun _ _ => .view (.plain rfl fun _ => Policy.holds_ofNat _)
  | first =>
    exact .look Looks.expectList fun _ same =>
      .view (.found fun sound held => (items same sound held).getD 0)
  | last =>
    exact .look Looks.expectList fun _ same =>
      .view (.found fun sound held => (items same sound held).back)
  | isEmpty => exact .look Looks.expectList fun _ _ => .view (.plain rfl fun _ => trivial)
  | removeLast =>
    refine .look Looks.expectList fun list same => .store (.edit fun sound held => ?_)
    exact (sound.modifyList fun _ => (items same sound held).pop).and_holds
      (items same sound held).back

/-- The built-ins of maps, in the same way. -/
theorem MapPrimitive.run_deliberate (primitive : MapPrimitive) :
    (primitive.run use).Deliberate Plain before (use.Safe before) := by
  -- The values of the map that the receiver is exist.
  have entries : ∀ {map}, use.receiver = .map map → before.store.Sound →
      use.Held before.store.known → (before.store.map map).All before.store.known.Holds :=
    fun same sound held => by
      have receiver := held.receiver
      rw [same] at receiver
      exact sound.linked.map receiver
  cases primitive with
  | clone => exact fun sound held => sound.addMap .empty .empty
  | atPut =>
    refine .look Looks.expectMap fun map _ => .look Looks.expectText fun key _ =>
      .edit fun sound held => ?_
    exact (sound.putEntry map key (held.input 1)).and_holds held.receiver
  | «at» =>
    refine .look Looks.expectMap fun map same => .look Looks.expectString fun key _ =>
      .view (.found fun sound held => ?_)
    exact Policy.HoldsOption.getD (fun _ => (entries same sound held).find?) trivial
  | hasKey =>
    exact .look Looks.expectMap fun _ _ => .look Looks.expectString fun _ _ =>
      .view (.plain rfl fun _ => trivial)
  | removeAt =>
    refine .look Looks.expectMap fun map same => .look Looks.expectString fun key _ =>
      .store (.edit fun sound held => ?_)
    exact (sound.eraseEntry map key).and_holds
      (Policy.HoldsOption.getD (fun _ => (entries same sound held).find?) trivial)
  | size => exact .look Looks.expectMap fun _ _ => .view (.plain rfl fun _ => Policy.holds_ofNat _)
  | keys => exact .look Looks.expectMap fun _ _ => .store (.newList (.texts _))

/-- The names of the parameters go into a new list. -/
theorem argumentNames_deliberate :
    (argumentNames use).Deliberate Plain before (use.Safe before) :=
  .look Looks.expectInvokable fun _ _ => .store (.newList (.texts _))

/-- What a call tells exists if the call does. -/
theorem CallPrimitive.run_deliberate (primitive : CallPrimitive) :
    (primitive.run use).Deliberate Plain before (use.Safe before) := by
  unfold run
  split
  next id same =>
    -- All that was recorded with a call goes on to exist.
    have call : before.store.Sound → use.Held before.store.known →
        before.store.known.HoldsCall (before.store.call id) := fun sound held => by
      have receiver := held.receiver
      rw [same] at receiver
      exact sound.linked.call receiver
    refine .store ?_
    cases primitive with
    | sender => exact .answer (.found fun sound held => (call sound held).sender)
    | target => exact .answer (.found fun sound held => (call sound held).target)
    | slotContext => exact .answer (.found fun sound held => (call sound held).slotContext)
    | activated => exact .answer (.found fun sound held => (call sound held).activated)
    | argCount => exact .answer (.plain rfl fun _ => Policy.holds_ofNat _)
    | coroutine => exact .answer (.found fun sound held => (call sound held).coroutine)
    | message => exact .answer (.plain rfl fun _ => trivial)
  next => exact .fail (plain_mismatch _ _)

/-- A message tells its name and a number. -/
theorem MessagePrimitive.run_deliberate (primitive : MessagePrimitive) :
    (primitive.run use).Deliberate Plain before (use.Safe before) := by
  unfold run
  split
  · exact .answer (.plain rfl fun _ => trivial)
  · exact .answer (.plain rfl fun _ => Policy.holds_ofNat _)
  · exact .fail (plain_mismatch _ _)

/-- A scope tells its `self`, and what its names stand for. -/
theorem LocalsPrimitive.run_deliberate (primitive : LocalsPrimitive) :
    (primitive.run use).Deliberate Plain before (use.Safe before) := by
  -- The scope that the receiver is exists.
  have scope : ∀ {id}, use.receiver = .locals id → use.Held before.store.known →
      before.store.known.ref id := fun same held => by
    have receiver := held.receiver
    rw [same] at receiver
    exact receiver
  cases primitive with
  | self =>
    exact .look Looks.expectLocals fun id same =>
      .view (.found fun sound held => (sound.linked.scope (scope same held)).self)
  | getSlot =>
    refine .look Looks.expectString fun name _ => .look Looks.expectLocals fun id same =>
      .view (.found fun sound held => ?_)
    exact (sound.linked.readVariable? (scope same held) name).getD trivial

/-- The number and the label of a thread of execution. -/
theorem CoroutinePrimitive.run_deliberate (primitive : CoroutinePrimitive) :
    (primitive.run use).Deliberate Plain before (use.Safe before) := by
  unfold run
  split
  · refine .store ?_
    cases primitive with
    | id => exact .answer (.plain rfl fun _ => trivial)
    | label => exact Invocation.Safe.plain rfl fun _ => trivial
  · exact .fail (plain_mismatch _ _)

/-- The time of day is read from the state, which stays as it is. -/
theorem DatePrimitive.run_deliberate (primitive : DatePrimitive) :
    (primitive.run use).Deliberate Plain before (use.Safe before) := by
  cases primitive with
  | now => exact Invocation.Safe.plain rfl fun _ => trivial
  | asNumber => exact .look Looks.expectDate fun _ _ => .answer (.plain rfl fun _ => trivial)
  | year =>
    exact .look Looks.expectDate fun _ _ => .answer (.plain rfl fun _ => Policy.holds_ofInt _)

/-- The message of an exception is found like any slot. -/
theorem ExceptionPrimitive.message_deliberate :
    (run use .message).Deliberate Plain before (use.Safe before) := by
  refine .store ?_
  split
  next found looked =>
    refine .answer (.found fun sound held => ?_)
    split
    · trivial
    · exact (sound.linked.lookupOn held.receiver looked).2
  next => exact .answer (.plain rfl fun _ => trivial)

/-- **Built-ins.** A built-in that neither activates something else nor raises looks before it
    writes, and ends well. -/
theorem PlainPrimitive.run_deliberate (primitive : PlainPrimitive)
    (quiet : primitive ≠ .exception .raise) :
    (primitive.run use).Deliberate Plain before (use.Safe before) := by
  cases primitive with
  | object primitive => exact primitive.run_deliberate
  | number primitive => exact primitive.run_deliberate
  | sequence primitive => exact primitive.run_deliberate
  | list primitive => exact primitive.run_deliberate
  | map primitive => exact primitive.run_deliberate
  | blockArgumentNames | functionArgumentNames => exact argumentNames_deliberate
  | call primitive => exact primitive.run_deliberate
  | message primitive => exact primitive.run_deliberate
  | locals primitive => exact primitive.run_deliberate
  | coroutine primitive => exact primitive.run_deliberate
  | date primitive => exact primitive.run_deliberate
  | exception primitive =>
    cases primitive with
    -- This one makes an object before it fails.
    | raise => exact absurd rfl quiet
    | message => exact ExceptionPrimitive.message_deliberate

end BuiltIns

end SlotTalk
