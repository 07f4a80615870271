import SlotTalk.Proofs.Session

namespace SlotTalk

/-!
# Invariants of the state

Whatever programs do, and however they end, every object has a prototype, no table has a key twice,
and a big integer is one that does not fit in a word.

* `Store.Tidy`, `Store.kept_tidy` — prototypes and keys, which every step on the store keeps.
* `Value.Represents`, `Value.Canonical` — the one value of each integer.
* `canonicalIntegers` — the policy of holding an integer as a big one only where it has to be.
* `session_keeps_state_invariants` — all of it after any session.
-/

/-! ### Prototypes and keys -/

/-- The object has a prototype, and no name twice. -/
structure Object.Tidy (object : Object) : Prop where
  prototype : object.prototype.isSome = true
  slots : object.slots.Distinct

namespace Store

/-- All objects are tidy, and neither maps nor frames have a key twice. -/
structure Tidy (store : Store) : Prop where
  object {id : ObjectId} : id.index < store.objects.size → (store.object id).Tidy
  map (id : MapId) : (store.map id).Distinct
  frame (id : FrameId) : (store.frame id).vars.Distinct

section Tidy

variable {store : Store} (tidy : store.Tidy)
include tidy

/-- An object may be changed as long as it stays tidy. -/
theorem Tidy.modifyObject (id : ObjectId) {change : Object → Object}
    (kept : ∀ {object : Object}, object.Tidy → (change object).Tidy) :
    (store.modifyObject id change).Tidy := by
  refine { tidy with object := fun {other} inObjects => ?_ }
  have before := tidy.object (Nat.lt_of_lt_of_eq inObjects (Array.size_modify ..))
  rw [object_modifyObject]
  exact Policy.holds_of_write (fun _ => kept before) before

/-- A map may be changed as long as no key comes twice. -/
theorem Tidy.modifyMap (id : MapId) {change : Table Value → Table Value}
    (kept : ∀ {entries : Table Value}, entries.Distinct → (change entries).Distinct) :
    (store.modifyMap id change).Tidy := by
  refine { tidy with map := fun other => ?_ }
  have before := tidy.map other
  rw [map_modifyMap]
  exact Policy.holds_of_write (fun _ => kept before) before

/-- A variable that is written keeps its place among the others. -/
theorem Tidy.putVariable (id : FrameId) (name : Text) (value : Value) :
    (store.putVariable id name value).Tidy := by
  refine { tidy with frame := fun other => ?_ }
  have before := tidy.frame other
  rw [Store.putVariable, frame_modifyFrame]
  split
  · exact before.put name value
  · exact before

/-- A new object has to be tidy itself. -/
theorem Tidy.addObject {new : Object} (added : new.Tidy) : (store.addObject new).2.Tidy := by
  refine { tidy with object := fun {id} inObjects => ?_ }
  rw [object_addObject]
  split
  next => exact added
  -- Any other index that is inside now was inside before.
  next old =>
    have inside : id.index < store.objects.size + 1 :=
      Nat.lt_of_lt_of_eq inObjects (Array.size_push ..)
    exact tidy.object (by omega)

/-- A new map has to have its keys apart. -/
theorem Tidy.addMap {new : Table Value} (distinct : new.Distinct) :
    (store.addMap new).2.Tidy := by
  refine { tidy with map := fun id => ?_ }
  rw [map_addMap]
  exact Policy.holds_of_new distinct (tidy.map id)

/-- A new frame has to have its variables apart. -/
theorem Tidy.addFrame {new : Frame} (distinct : new.vars.Distinct) :
    (store.addFrame new).2.Tidy := by
  refine { tidy with frame := fun id => ?_ }
  rw [frame_addFrame]
  split
  · exact distinct
  · exact tidy.frame id

end Tidy

/-- No step on the store takes the prototype from an object, or gives a table a key twice. -/
theorem kept_tidy : Store.Kept Store.Tidy where
  change := by
    intro change step store tidy
    cases step with
    | putSlot id key value =>
      exact tidy.modifyObject id fun before => ⟨before.prototype, before.slots.put key value⟩
    | eraseSlot id key =>
      exact tidy.modifyObject id fun before => ⟨before.prototype, before.slots.erase key⟩
    | setPrototype id prototype =>
      exact tidy.modifyObject id fun before => ⟨rfl, before.slots⟩
    | modifyList id change => exact { tidy with }
    | putEntry id key value => exact tidy.modifyMap id fun before => before.put key value
    | eraseEntry id key => exact tidy.modifyMap id fun before => before.erase key
    | putVariable id name value => exact tidy.putVariable id name value
  extend := by
    intro α change step store tidy
    cases step with
    | addObject prototype distinct => exact tidy.addObject ⟨rfl, distinct⟩
    | addMap distinct => exact tidy.addMap distinct
    | addFrame distinct => exact tidy.addFrame distinct
    | _ => exact { tidy with }

end Store

/-! ### Integers -/

/-- The value is the one of the integer: in a word if it fits, and otherwise a big integer. -/
def Value.Represents (value : Value) (n : Int) : Prop :=
  if SlotTalk.fitsWord n then value = .int (Int64.ofInt n) else ∃ identity, value = .big n identity

/-- If the value is an integer, it is the one of this integer. -/
def Value.Canonical (value : Value) : Prop := ∀ n, value.int? = some n → value.Represents n

/-- Each word fits, and a canonical value is a big integer only where it does not. -/
theorem Value.canonical_of {value : Value}
    (wide : ∀ n identity, value = .big n identity → SlotTalk.fitsWord n = false) :
    value.Canonical := by
  intro n denotes
  cases value with
  | int word =>
    obtain rfl := Option.some.inj denotes
    rw [Represents, if_pos (fitsWord_toInt word), Int64.ofInt_toInt]
  | big n identity =>
    obtain rfl := Option.some.inj denotes
    rw [Represents, if_neg (Bool.eq_false_iff.mp (wide n identity rfl))]
    exact ⟨identity, rfl⟩
  | _ => exact nomatch denotes

/-- Everything may be held but big integers that fit in a word. -/
def canonicalIntegers : Policy :=
  { Policy.everything with
    big := fun n => fitsWord n = false
    wide := id }

namespace canonicalIntegers

/-- What the policy allows is canonical. -/
theorem canonical_of_holds {value : Value} (holds : canonicalIntegers.Holds value) :
    value.Canonical := by
  refine Value.canonical_of fun n identity same => ?_
  rw [same] at holds
  exact holds

/-- The policy restricts nothing but integers. -/
theorem holds_of_no_integer {value : Value} (noInteger : value.int? = none) :
    canonicalIntegers.Holds value := by
  cases value with
  | big => exact nomatch noInteger
  | _ => trivial

end canonicalIntegers

/-! ### A new engine -/

namespace World

/-- A new engine is tidy, and holds no integers. -/
theorem objects_tidy : ∀ object ∈ objects.toList, object.prototype.isSome = true
    ∧ object.slots.names.Nodup ∧ ∀ entry ∈ object.slots.entries, entry.2.int? = none := by
  decide +kernel

variable (label : String)

/-- The objects of a new engine are those that are listed. -/
theorem object_mem {id : ObjectId} (inside : id.index < objects.size) :
    (store label).object id ∈ objects.toList := by
  have read : (store label).object id = objects[id.index] := by
    rw [Store.object, Array.getD]
    exact dif_pos inside
  rw [read]
  exact Array.getElem_mem_toList ..

/-- The frames of a new engine hold no variables, and there is no other frame. -/
theorem frame_store (id : FrameId) : (store label).frame id = {} := by
  rcases id with ⟨_ | index⟩ <;> rfl

/-- Every scope of a new engine is that of the module. -/
theorem scope_store (id : LocalsId) :
    (store label).scope id = { self := .object lobbyObject, frame := moduleFrame } := by
  rcases id with ⟨_ | index⟩ <;> rfl

/-- A new engine is tidy: its objects were looked at one by one. -/
theorem tidy_store : (store label).Tidy where
  object inside :=
    have holds := objects_tidy _ (object_mem label inside)
    ⟨holds.1, holds.2.1⟩
  map _ := .empty
  frame id := (frame_store label id).symm ▸ .empty

/-- A new engine holds canonical integers only, for it holds none. -/
theorem canonical_store : canonicalIntegers.Closed (store label) where
  fresh _ := trivial
  object {id} _ := by
    rcases Nat.lt_or_ge id.index objects.size with inside | beyond
    · obtain ⟨-, -, noInteger⟩ := objects_tidy _ (object_mem label inside)
      exact ⟨fun _ _ => trivial,
        fun entry mem => canonicalIntegers.holds_of_no_integer (noInteger entry mem)⟩
    · have empty : (store label).object id = {} := Store.getD_of_size_le objects beyond _
      rw [empty]
      exact ⟨Policy.links_none, .empty⟩
  list _ := Policy.holdsItems_empty
  map _ := .empty
  frame {id} _ := by
    rw [frame_store]
    exact ⟨trivial, .empty, Policy.links_none⟩
  scope {id} _ := by
    rw [scope_store]
    exact ⟨trivial, trivial⟩
  call _ := ⟨trivial, trivial, trivial, trivial, trivial⟩
  function _ := ⟨trivial, .inl trivial⟩
  block _ := ⟨⟨trivial, .inl trivial⟩, trivial, trivial⟩
  method _ := ⟨⟨trivial, .inl trivial⟩, trivial, fun _ _ => trivial⟩

end World

/-! ### Sessions -/

/-- The value stands somewhere in the store. -/
inductive Store.Contains (store : Store) : Value → Prop where
  | slot {id : ObjectId} {entry : Text × Value}
    (mem : entry ∈ (store.object id).slots.entries) : Contains store entry.2
  | item {id : ListId} {value : Value} (mem : value ∈ store.list id) : Contains store value
  | entry {id : MapId} {entry : Text × Value} (mem : entry ∈ (store.map id).entries) :
    Contains store entry.2
  | var {id : FrameId} {entry : Text × Value} (mem : entry ∈ (store.frame id).vars.entries) :
    Contains store entry.2
  | context (id : FrameId) : Contains store (store.frame id).context
  | self (id : LocalsId) : Contains store (store.scope id).self
  | target (id : CallId) : Contains store (store.call id).target
  | slotContext (id : CallId) : Contains store (store.call id).slotContext

/-- Where all cells may be held, so may all that they contain. -/
theorem Policy.Closed.holds_of_contains {policy : Policy} {store : Store}
    (closed : policy.Closed store) (all : ∀ {cell : Cell} (id : Ref cell), policy.ref id)
    {value : Value} (contains : store.Contains value) : policy.Holds value := by
  cases contains with
  | slot mem => exact (closed.object (all _)).slots _ mem
  | item mem => exact closed.list (all _) _ mem
  | entry mem => exact closed.map (all _) _ mem
  | var mem => exact (closed.frame (all _)).vars _ mem
  | context id => exact (closed.frame (all id)).context
  | self id => exact (closed.scope (all id)).self
  | target id => exact (closed.call (all id)).target
  | slotContext id => exact (closed.call (all id)).slotContext

/-- An object answers its prototype. -/
theorem ObjectPrimitive.proto_on {use : Invocation} {id above : ObjectId} {engine : Engine}
    (receiver : use.receiver = .object id)
    (same : (engine.store.object id).prototype = some above) :
    (run use .proto).on engine = (.ok (.object above), engine) := by
  show (Except.ok (protoOf engine.store use.receiver), engine) = _
  rw [receiver, protoOf, same]

/-- What the host gets is canonical: the value of a program, or the value that was raised. -/
def CanonicalResult : Except ErrorReport Value → Prop
  | .ok value => value.Canonical
  | .error report => ∀ value text, report.error = .exception value text → value.Canonical

/-- **Invariants.**  After any number of programs, each of which ended in some way, all objects have
    a prototype and no slot table, map or frame has a key twice, so that `proto` answers an object
    for each object; and all values in the store are canonical, as is what the next program ends
    with. -/
theorem session_keeps_state_invariants {config : Config} {programs : List Node} {engine : Engine}
    (session : Engine.Session config programs engine) :
    engine.store.Tidy
      ∧ (∀ (use : Invocation) (id : ObjectId), use.receiver = .object id →
        id.index < engine.store.objects.size →
          ∃ above, (ObjectPrimitive.proto.run use).on engine = (.ok (.object above), engine))
      ∧ (∀ value, engine.store.Contains value → value.Canonical)
      ∧ ∀ fuel program result after, engine.run fuel program = some (result, after) →
        CanonicalResult result := by
  have tidy := Store.kept_tidy.session session (World.tidy_store _)
  have closed := Policy.closed_of_session session (World.canonical_store _) fun _ _ _ => trivial
  refine ⟨tidy, ?proto, ?values, ?results⟩
  case proto =>
    intro use id receiver inObjects
    obtain ⟨above, same⟩ := Option.isSome_iff_exists.mp (tidy.object inObjects).prototype
    exact ⟨above, ObjectPrimitive.proto_on receiver same⟩
  case values =>
    exact fun value contains =>
      canonicalIntegers.canonical_of_holds (closed.holds_of_contains (fun _ => trivial) contains)
  case results =>
    intro fuel program result after ended
    obtain ⟨outcome, rfl, -, holds, -⟩ := Policy.ends_of_run closed trivial ended
    match outcome with
    | .ok value | .error (.returned value) => exact canonicalIntegers.canonical_of_holds holds
    | .error (.failed report) =>
      intro value text raised
      have held : canonicalIntegers.Raises report.error := holds
      rw [raised] at held
      exact canonicalIntegers.canonical_of_holds held
    | .error (.broke value) | .error .continued => exact nofun

/-- Defines the largest integer that fits in a word. -/
def largestWord : Node := .define none "x" (.integer 9223372036854775807)

/-- A new engine on which this was run. -/
def largestWordEngine : Engine :=
  { Engine.new {} with
    store := (Engine.new {}).store.putSlot lobbyObject (.numbered "x" World.nextIdentity)
      (.int 9223372036854775807)
    nextIdentity := World.nextIdentity + 1 }

/-- Adds one to it. -/
def nextInteger : Node := .send (some (.send none "x" [] none)) "+" [.integer 1] none

/-- The sum does not fit in a word, and is the one big integer of its kind. -/
theorem sum_beyond_the_words :
    ∃ value after, largestWordEngine.run 5 nextInteger = some (.ok value, after)
      ∧ value.Represents 9223372036854775808 := by
  have ended : (Engine.new {}).run 2 largestWord
      = some (.ok (.int 9223372036854775807), largestWordEngine) := rfl
  have session : Engine.Session {} [largestWord] largestWordEngine := .run .fresh ended
  obtain ⟨-, -, -, canonical⟩ := session_keeps_state_invariants session
  have summed : (largestWordEngine.run 5 nextInteger).any (fun ending =>
      ending.1.toOption.any fun value => value.int? = some 9223372036854775808) = true := by
    decide +kernel
  obtain ⟨⟨result, after⟩, ended, denotes⟩ := (Option.any_eq_true _ _).mp summed
  cases result with
  | error report => cases denotes
  | ok value => exact ⟨value, after, ended, canonical _ _ _ _ ended _ (of_decide_eq_true denotes)⟩

end SlotTalk
