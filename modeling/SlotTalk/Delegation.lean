import SlotTalk.Store

namespace SlotTalk

/-!
# Delegation

A slot that an object does not own is looked for on its prototype, on the prototype of that, and so
on.  The prototypes of the engine itself form a cycle, so a walk remembers the objects it has
visited and ends where it would visit one again.  It ends at all because each step leaves fewer
objects that were not visited.

* `Store.lookup` — the first object from `start` on that owns the key, with the value there.
* `Store.hasPrototype` — an object is met above another one.
* `Store.definingFrame?` — a walk along the enclosing frames, bounded by their number.
-/

/-- The objects that exist from the start, in a fixed place. -/
def objectPrototype : ObjectId := ⟨0⟩

/-- Holds the shared prototypes by name. -/
def protosObject : ObjectId := ⟨1⟩

/-- The `self` of the top level. -/
def lobbyObject : ObjectId := ⟨2⟩

/-- The place of a shared prototype. -/
def Prototype.id : Prototype → ObjectId
  | .ofType .object => objectPrototype
  | .ofType .nil => ⟨3⟩
  | .ofType .true => ⟨4⟩
  | .ofType .false => ⟨5⟩
  | .ofType .number => ⟨6⟩
  | .ofType .sequence => ⟨7⟩
  | .ofType .list => ⟨8⟩
  | .ofType .map => ⟨9⟩
  | .ofType .message => ⟨10⟩
  | .ofType .call => ⟨11⟩
  | .ofType .locals => ⟨12⟩
  | .ofType .coroutine => ⟨13⟩
  | .ofType .date => ⟨14⟩
  | .ofType .function => ⟨15⟩
  | .ofType .block => ⟨16⟩
  | .ofType .method => ⟨17⟩
  | .exception => ⟨18⟩

/-- Where a lookup on the value begins: an object owns its slots, every other value delegates to the
    shared prototype of its kind. -/
def Value.delegate : Value → ObjectId
  | .object id => id
  | value => (Prototype.ofType value.type).id

/-- A slot and the object that owns it. -/
structure Found where
  holder : ObjectId
  value : Value

namespace Store

/-! ### Objects -/

/-- Positions of the objects that a walk has not visited. -/
def unvisited (store : Store) (visited : List ObjectId) : List Nat :=
  (List.range store.objects.size).filter (⟨·⟩ ∉ visited)

/-- A visit to an object with a prototype leaves fewer that were not visited. -/
theorem unvisited_cons_lt (store : Store) {visited : List ObjectId} {id next : ObjectId}
    (new : id ∉ visited) (h : (store.object id).prototype = some next) :
    (store.unvisited (id :: visited)).length < (store.unvisited visited).length := by
  have inObjects : id.index < store.objects.size := by
    refine Nat.lt_of_not_le fun beyond => ?_
    rw [object, Array.getD_eq_getD_getElem?, Array.getElem?_eq_none beyond] at h
    exact nomatch h
  have split : store.unvisited (id :: visited)
      = (store.unvisited visited).filter (· ≠ id.index) := by
    rw [unvisited, unvisited, List.filter_filter]
    refine List.filter_congr fun index _ => ?_
    have same : (⟨index⟩ : ObjectId) = id ↔ index = id.index :=
      ⟨fun h => h ▸ rfl, fun h => h ▸ rfl⟩
    simp [same]
  rw [split, List.length_filter_lt_length_iff_exists]
  exact ⟨id.index, by simp [unvisited, inObjects, new], by simp⟩

/-- The first owner of the key from `current` on, unless the walk comes back to where it was. -/
def lookupFrom (store : Store) (key : String) (visited : List ObjectId) (current : ObjectId) :
    Option Found :=
  if _ : current ∉ visited then
    match (store.object current).slots.find? key with
    | some value => some ⟨current, value⟩
    | none =>
      match _ : (store.object current).prototype with
      | some next => store.lookupFrom key (current :: visited) next
      | none => none
  else
    none
termination_by (store.unvisited visited).length
decreasing_by exact store.unvisited_cons_lt ‹_› ‹_›

/-- The first owner of the key from `start` on. -/
def lookup (store : Store) (start : ObjectId) (key : String) : Option Found :=
  store.lookupFrom key [] start

/-- The slots of the value itself; only objects have some. -/
def ownSlots (store : Store) : Value → Table Value
  | .object id => (store.object id).slots
  | _ => {}

/-- Look the key up on any value. -/
def lookupOn (store : Store) (receiver : Value) (key : String) : Option Found :=
  store.lookup receiver.delegate key

/-- What is found is known by its holder and by the code that it is. -/
theorem lookup_eq_of_code {store : Store} {start holder : ObjectId} {key : String} {value : Value}
    {code : Invokable} (runs : value.invokable? = some code)
    (found : (store.lookup start key).map (fun found => (found.holder, found.value.invokable?))
      = some (holder, some code)) : store.lookup start key = some ⟨holder, value⟩ := by
  obtain ⟨⟨owner, other⟩, looked, same⟩ := Option.map_eq_some_iff.mp found
  obtain ⟨rfl, runs'⟩ := Prod.mk.inj same
  obtain rfl : code.toValue = other := Value.toValue_of_invokable? runs'
  rw [looked, Value.toValue_of_invokable? runs]

/-- The candidate is met from `current` on, before the walk comes back to where it was. -/
def meetsFrom (store : Store) (candidate : ObjectId) (visited : List ObjectId)
    (current : ObjectId) : Bool :=
  if current = candidate then true
  else if _ : current ∉ visited then
    match _ : (store.object current).prototype with
    | some next => store.meetsFrom candidate (current :: visited) next
    | none => false
  else
    false
termination_by (store.unvisited visited).length
decreasing_by exact store.unvisited_cons_lt ‹_› ‹_›

/-- The candidate is met above `start`. -/
def hasPrototype (store : Store) (start candidate : ObjectId) : Bool :=
  match (store.object start).prototype with
  | some next => store.meetsFrom candidate [start] next
  | none => false

/-! ### Frames -/

/-- The first of `steps` frames from `start` outward that defines the name. -/
def definingFrameWithin (store : Store) (name : String) : Nat → FrameId → Option FrameId
  | 0, _ => none
  | steps + 1, start =>
    if (store.frame start).vars.contains name then some start
    else
      match (store.frame start).outer with
      | some next => store.definingFrameWithin name steps next
      | none => none

/-- The nearest frame from `start` outward that defines the name. -/
def definingFrame? (store : Store) (start : FrameId) (name : String) : Option FrameId :=
  store.definingFrameWithin name store.frames.size start

/-- The value of a variable in the nearest frame that defines it. -/
def readFrame? (store : Store) (start : FrameId) (name : String) : Option Value :=
  (store.definingFrame? start name).bind fun frame => (store.frame frame).vars.find? name

end Store

end SlotTalk
