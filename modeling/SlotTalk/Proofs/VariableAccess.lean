import SlotTalk.Proofs.FrameChain
import SlotTalk.Proofs.SlotUpdate

namespace SlotTalk

/-!
# Reading what was written

A name that is read after it was written has the value that was written, in a frame as well as on an
object.

* `definingFrame?_congr` — walks on frames of the same shape find the same.
* `Store.Binds` — what the own place of a scope holds, and `Binds.reads` what a name stands for
  then.
* `Store.Definable` — what is defined in the scope is found there.
* `resolve_writeBinding`, `readVariable?_writeBinding` — what names stand for, and what they are
  read as, after a write to a place that holds a value.
* `updateVariable_reads`, `Definable.defines` — a name after an update, and after a definition.
-/

namespace Store

variable {store after : Store} {name : String}

/-! ### Walks -/

/-- Walks end at the same place if frames lie inside the same frames and define the name alike. -/
theorem definingFrameWithin_congr (outer : ∀ id, (after.frame id).outer = (store.frame id).outer)
    (defines : ∀ id, (after.frame id).vars.contains name = (store.frame id).vars.contains name)
    (steps : Nat) (start : FrameId) :
    after.definingFrameWithin name steps start = store.definingFrameWithin name steps start := by
  induction steps generalizing start with
  | zero => rfl
  | succ steps ih => simp only [definingFrameWithin, outer, defines, ih]

theorem definingFrame?_congr (size : after.frames.size = store.frames.size)
    (outer : ∀ id, (after.frame id).outer = (store.frame id).outer)
    (defines : ∀ id, (after.frame id).vars.contains name = (store.frame id).vars.contains name)
    (start : FrameId) : after.definingFrame? start name = store.definingFrame? start name := by
  rw [definingFrame?, definingFrame?, size, definingFrameWithin_congr outer defines]

/-- A frame that defines the name is the end of the walk. -/
theorem definingFrame?_of_contains {start : FrameId} (inFrames : start.index < store.frames.size)
    (defines : (store.frame start).vars.contains name = true) :
    store.definingFrame? start name = some start := by
  obtain ⟨steps, size⟩ := Nat.exists_eq_add_of_le' (Nat.lt_of_le_of_lt (Nat.zero_le _) inFrames)
  rw [definingFrame?, size, definingFrameWithin, if_pos defines]

/-- An outermost frame without variables defines nothing. -/
theorem definingFrame?_of_bare {start : FrameId}
    (bare : (store.frame start).vars.entries = [])
    (outermost : (store.frame start).outer = none) : store.definingFrame? start name = none := by
  have lacks : (store.frame start).vars.contains name = false := by
    rw [Table.contains, Table.find?, bare]
    rfl
  rw [definingFrame?]
  cases store.frames.size with
  | zero => rfl
  | succ steps => rw [definingFrameWithin, lacks, outermost, if_neg Bool.false_ne_true]

/-! ### Variables of a frame -/

section PutVariable

variable (id other : FrameId) (key : Text) (value : Value)

theorem outer_putVariable :
    ((store.putVariable id key value).frame other).outer = (store.frame other).outer := by
  rw [putVariable, frame_modifyFrame]
  split <;> rfl

/-- A frame that exists holds the variable that was written, and no other variable is changed. -/
theorem find?_putVariable (inFrames : id.index < store.frames.size) (name : String) :
    ((store.putVariable id key value).frame other).vars.find? name
      = if id = other ∧ key.content = name then some value
        else (store.frame other).vars.find? name := by
  have index : id.index = other.index ↔ id = other :=
    ⟨fun same => congrArg Ref.mk same, fun same => congrArg Ref.index same⟩
  rw [putVariable, frame_modifyFrame]
  by_cases same : id = other
  · subst same
    simp only [inFrames, and_self, ↓reduceIte, Table.find?_put, true_and]
  · simp only [index, same, false_and, ↓reduceIte]

/-- A frame defines the same names as before if it gets another value for one that it defines. -/
theorem contains_putVariable (defines : (store.frame id).vars.contains key.content = true) :
    ((store.putVariable id key value).frame other).vars.contains name
      = (store.frame other).vars.contains name := by
  rw [putVariable, frame_modifyFrame]
  split
  next here =>
    obtain rfl : id = other := congrArg Ref.mk here.1
    show ((store.frame id).vars.put key value).contains name = _
    rw [Table.contains, Table.find?_put]
    split
    next same => exact same ▸ defines.symm
    next => rfl
  next => rfl

/-- Only a frame that exists defines names. -/
theorem exists_of_contains {id : FrameId} (defines : (store.frame id).vars.contains name = true) :
    id.index < store.frames.size := by
  refine Nat.lt_of_not_le fun beyond => ?_
  have missing : store.frame id = {} := getD_of_size_le _ beyond {}
  rw [missing] at defines
  exact nomatch defines

end PutVariable

/-! ### Updates -/

section Update

variable {binding : Binding} {old : Value}

/-- A name stands only for what holds a value under it. -/
theorem exists_of_resolve {scope : LocalsId} (stands : store.resolve scope name = some binding) :
    ∃ old, store.readBinding? name binding = some old := by
  cases binding with
  | inFrame frame => exact Option.isSome_iff_exists.mp (contains_of_resolve stands)
  | onObject holder =>
    obtain ⟨-, old, looked⟩ := resolve_onObject_iff.mp stands
    exact ⟨old, (firstOwner_iff.mp (lookup_eq_some_iff.mp looked)).2⟩

/-- A name that stands for nothing has no value. -/
theorem readVariable?_of_unresolved {scope : LocalsId}
    (stands : store.resolve scope name = none) : store.readVariable? scope name = none := by
  rw [readVariable?, stands, Option.bind_none]

/-- A name has the value that is held where it stands. -/
theorem readVariable?_of_resolve {scope : LocalsId}
    (stands : store.resolve scope name = some binding) :
    store.readVariable? scope name = store.readBinding? name binding := by
  rw [readVariable?, stands, Option.bind_some]

variable (held : store.readBinding? name binding = some old) (value : Value)
include held

/-- A write where there is a value changes nothing about what any name stands for. -/
theorem resolve_writeBinding (scope : LocalsId) (other : String) :
    (store.writeBinding name value binding).resolve scope other = store.resolve scope other := by
  cases binding with
  | inFrame frame =>
    have defines : (store.frame frame).vars.contains name = true := Option.isSome_of_mem held
    have walks : ∀ start, (store.putVariable frame name value).definingFrame? start other
        = store.definingFrame? start other :=
      definingFrame?_congr Array.size_modify (fun id => outer_putVariable frame id name value)
        fun id => contains_putVariable frame id name value defines
    have lookups : ∀ receiver, (store.putVariable frame name value).lookupOn receiver other
        = store.lookupOn receiver other := fun _ => lookup_congr_of_objects fun _ => rfl
    rw [writeBinding, resolve, resolve, walks, lookups]
    rfl
  | onObject holder =>
    have walks : ∀ start, (store.putSlot holder name value).definingFrame? start other
        = store.definingFrame? start other :=
      definingFrame?_congr rfl (fun _ => rfl) fun _ => rfl
    -- The slot is found with another value, but on the same holder.
    have lookups : ∀ receiver,
        ((store.putSlot holder name value).lookupOn receiver other).map Found.holder
          = (store.lookupOn receiver other).map Found.holder := by
      intro receiver
      rw [lookupOn, lookup_putSlot_of_owned (name : Text) value held, Option.map_map]
      congr 1
      funext found
      simp only [Function.comp_apply]
      split <;> rfl
    have holders : ∀ found : Option Found,
        (found.map fun found => Binding.onObject found.holder)
          = (found.map Found.holder).map .onObject := fun found => by rw [Option.map_map]; rfl
    rw [writeBinding, resolve, resolve, walks, holders, holders, lookups]
    rfl

/-- What holds a value under a name gets the one that is written, and nothing else gets another. -/
theorem readBinding?_writeBinding (place : Binding) (other : String) :
    (store.writeBinding name value binding).readBinding? other place
      = if binding = place ∧ name = other then some value
        else store.readBinding? other place := by
  cases binding with
  | inFrame frame =>
    have inFrames := exists_of_contains (Option.isSome_of_mem held)
    cases place with
    | inFrame id =>
      simp only [writeBinding, readBinding?, Binding.inFrame.injEq]
      exact find?_putVariable frame id name value inFrames other
    | onObject id => simp [writeBinding, readBinding?, putVariable, modifyFrame, object]
  | onObject holder =>
    have inObjects := exists_of_owns held
    cases place with
    | inFrame id => simp [writeBinding, readBinding?, putSlot, modifyObject, frame]
    | onObject id =>
      simp only [writeBinding, readBinding?, Binding.onObject.injEq]
      exact find?_putSlot store holder id name value inObjects other

/-- A name has another value than before only where it stands for what was written. -/
theorem readVariable?_writeBinding (scope : LocalsId) (other : String) :
    (store.writeBinding name value binding).readVariable? scope other
      = if store.resolve scope other = some binding ∧ name = other then some value
        else store.readVariable? scope other := by
  rw [readVariable?, readVariable?, resolve_writeBinding held]
  cases store.resolve scope other with
  | none => simp
  | some place =>
    rw [Option.bind_some, Option.bind_some, readBinding?_writeBinding held]
    simp only [Option.some_inj, eq_comm]

end Update

/-- An update writes what the name stands for. -/
theorem updateVariable_of_resolve {engine : Engine} {scope : LocalsId} {binding : Binding}
    (value : Value) (stands : engine.store.resolve scope name = some binding) :
    (Action.updateVariable scope name value).on engine
      = (.ok (), { engine with store := engine.store.writeBinding name value binding }) := by
  have looked : Action.store.on engine = (.ok engine.store, engine) := rfl
  rw [Action.updateVariable, Action.on_bind, looked]
  dsimp only
  rw [stands]
  rfl

/-- An update of a name that stands for nothing fails, and changes nothing. -/
theorem updateVariable_of_unresolved {engine : Engine} {scope : LocalsId} (value : Value)
    (unknown : engine.store.resolve scope name = none) :
    (Action.updateVariable scope name value).on engine
      = (.error (.undefinedName name none), engine) := by
  have looked : Action.store.on engine = (.ok engine.store, engine) := rfl
  rw [Action.updateVariable, Action.on_bind, looked]
  dsimp only
  rw [unknown]
  rfl

/-- A name that has a value can be updated, and then has the new one. -/
theorem updateVariable_reads {engine : Engine} {scope : LocalsId} {old : Value} (value : Value)
    (reads : engine.store.readVariable? scope name = some old) :
    ∃ after, (Action.updateVariable scope name value).on engine = (.ok (), after)
      ∧ after.store.readVariable? scope name = some value := by
  obtain ⟨binding, stands, held⟩ := Option.bind_eq_some_iff.mp reads
  refine ⟨_, updateVariable_of_resolve value stands, ?_⟩
  rw [readVariable?_writeBinding held, if_pos ⟨stands, rfl⟩]

/-! ### Own places -/

section OwnPlace

variable {scope : LocalsId} {value : Value}

/-- A frame that does not exist is no frame of an activation. -/
theorem exists_of_inner {scope : LocalsId} (inner : store.isModule scope = false) :
    (store.scope scope).frame.index < store.frames.size := by
  refine Nat.lt_of_not_le fun beyond => ?_
  have missing : store.frame (store.scope scope).frame = {} := getD_of_size_le _ beyond {}
  rw [isModule, missing] at inner
  exact nomatch inner

/-- The own place of the scope holds the value under the name. -/
inductive Binds (store : Store) (scope : LocalsId) (name : String) (value : Value) : Prop where
  | inFrame (inner : store.isModule scope = false)
    (held : (store.frame (store.scope scope).frame).vars.find? name = some value)
  | onSelf {id : ObjectId} (module : store.isModule scope = true)
    (self : (store.scope scope).self = .object id)
    (held : (store.object id).slots.find? name = some value)

/-- What the own place holds is what the name stands for, unless a frame of the top level comes
    first. -/
theorem Binds.reads (binds : store.Binds scope name value)
    (first : store.isModule scope = true →
      store.definingFrame? (store.scope scope).frame name = none) :
    store.readVariable? scope name = some value := by
  cases binds with
  | inFrame inner held =>
    have defines : (store.frame (store.scope scope).frame).vars.contains name = true := by
      rw [Table.contains, held]
      rfl
    have stands : store.resolve scope name = some (.inFrame (store.scope scope).frame) :=
      resolve_inFrame_iff.mpr (definingFrame?_of_contains (exists_of_inner inner) defines)
    exact (readVariable?_of_resolve stands).trans held
  | @onSelf id module self held =>
    have found : store.lookupOn (store.scope scope).self name = some ⟨id, value⟩ := by
      rw [self]
      exact lookup_eq_some_iff.mpr (firstOwner_iff.mpr ⟨.self, held⟩)
    have stands : store.resolve scope name = some (.onObject id) :=
      resolve_onObject_iff.mpr ⟨first module, value, found⟩
    exact (readVariable?_of_resolve stands).trans held

end OwnPlace

/-! ### Definitions -/

section Define

variable {engine : Engine} {scope : LocalsId} (key : Text) (value : Value)

/-- In an activation, a definition writes a variable of the frame. -/
theorem defineVariable_inner (inner : engine.store.isModule scope = false) :
    (Action.defineVariable scope key value).on engine = (.ok (), { engine with
      store := engine.store.putVariable (engine.store.scope scope).frame key value }) := by
  show (if engine.store.isModule scope then _ else _ : Action Unit).on engine = _
  rw [inner]
  rfl

/-- At the top level, a definition writes a slot of `self`. -/
theorem defineVariable_top {id : ObjectId} (module : engine.store.isModule scope = true)
    (self : (engine.store.scope scope).self = .object id) :
    (Action.defineVariable scope key value).on engine
      = (.ok (), { engine with store := engine.store.putSlot id key value }) := by
  show (if engine.store.isModule scope then _ else _ : Action Unit).on engine = _
  rw [module, self]
  rfl

/-- A write to a variable leaves frames what they are. -/
theorem isModule_putVariable (id : FrameId) :
    (store.putVariable id key value).isModule scope = store.isModule scope := by
  show (((store.putVariable id key value).frame (store.scope scope).frame).kind == _) = _
  rw [putVariable, frame_modifyFrame]
  split <;> rfl

end Define

/-- What is defined in the scope is found there: it is one of an activation, or one of the top level
    whose `self` is an object and whose frame defines nothing.  That object exists and that frame
    lies inside no other one, as is the case wherever references lead to cells and the top level is
    outermost. -/
inductive Definable (store : Store) (scope : LocalsId) : Prop where
  | activation (inner : store.isModule scope = false)
  | top {id : ObjectId} (module : store.isModule scope = true)
    (self : (store.scope scope).self = .object id) (inObjects : id.index < store.objects.size)
    (bare : (store.frame (store.scope scope).frame).vars.entries = [])
    (outermost : (store.frame (store.scope scope).frame).outer = none)

/-- A name that was defined in the scope has the value that it was given. -/
theorem Definable.defines {engine : Engine} {scope : LocalsId}
    (definable : engine.store.Definable scope) (key : Text) (value : Value) :
    ∃ after, (Action.defineVariable scope key value).on engine = (.ok (), after)
      ∧ after.store.readVariable? scope key.content = some value := by
  cases definable with
  | activation inner =>
    have still := (isModule_putVariable key value (engine.store.scope scope).frame).trans inner
    have held := find?_putVariable (engine.store.scope scope).frame
      (engine.store.scope scope).frame key value (exists_of_inner inner) key.content
    rw [if_pos ⟨rfl, rfl⟩] at held
    exact ⟨_, defineVariable_inner key value inner,
      Binds.reads (.inFrame still held) fun module => nomatch still.symm.trans module⟩
  | @top id module self inObjects bare outermost =>
    have found : (engine.store.putSlot id key value).lookupOn (.object id) key.content
        = some ⟨id, value⟩ := lookup_putSlot_of_met key value inObjects .self
    have held := (firstOwner_iff.mp (lookup_eq_some_iff.mp found)).2
    have binds : (engine.store.putSlot id key value).Binds scope key.content value :=
      .onSelf module self held
    exact ⟨_, defineVariable_top key value module self,
      binds.reads fun _ => definingFrame?_of_bare bare outermost⟩

end Store

end SlotTalk
