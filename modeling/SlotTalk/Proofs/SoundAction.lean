import SlotTalk.Proofs.FrameChain
import SlotTalk.Proofs.SoundPrimitive

namespace SlotTalk

/-!
# Actions on sound stores

Taken in a state whose store is sound, and with what exists there, an action leads to a sound store,
and what it answers or fails with exists in that store.

* `Action.Preserves` — such an action, with what is known of its answers in the store it leaves.
* `Preserves.bind`, `Preserves.of_deliberate` and the others — how to show it.
* `Preserves.defineVariable`, `Preserves.newBlock` and the others — names and new cells.
* `ExceptionPrimitive.raise_on`, `PlainPrimitive.run_preserves` — the built-ins.
-/

attribute [local irreducible] Value.ofInt

open RuntimeError (Plain OfAssignment)

variable {α β : Type}

/-- Only a raise makes an error carry a value. -/
theorem Store.raises_of_plain (store : Store) {error : RuntimeError} (plain : error.Plain) :
    store.known.Raises error := by
  cases error with
  | exception value text => exact absurd rfl (plain value text)
  | _ => trivial

namespace Action

variable {before : Engine}

/-- The action leads to a sound store, in which its answer has the property, or what its error
    carries exists. -/
def Preserves (action : Action α) (before : Engine) (answers : Store → α → Prop) : Prop :=
  before.store.Leads (action.on before).2.store
    ∧ (action.on before).2.store.known.Ends (answers (action.on before).2.store)
      (action.on before).1

namespace Preserves

/-! ### Closure -/

section Closure

variable {answers : Store → α → Prop}

/-- The second action begins in the sound store that the first has left, and knows what was answered
    there. -/
theorem bind {x : Action α} {f : α → Action β} {answers' : Store → β → Prop}
    (first : x.Preserves before answers)
    (rest : ∀ value after, before.store.Leads after.store → answers after.store value →
      (f value).Preserves after answers') : (x >>= f).Preserves before answers' := by
  obtain ⟨leads, ended⟩ := first
  rw [Preserves, on_bind]
  split
  next value after acted =>
    rw [acted] at leads ended
    obtain ⟨leads', ended'⟩ := rest value after leads ended
    exact ⟨leads.trans leads', ended'⟩
  next error after failed =>
    rw [failed] at leads ended
    exact ⟨leads, ended⟩

/-- What is done with the store is done with a sound one. -/
theorem store {view : Store → Action α} (rest : (view before.store).Preserves before answers) :
    (Action.store >>= view).Preserves before answers := rest

variable (sound : before.store.Sound)
include sound

/-- An answer without an action. -/
theorem answer {value : α} (h : answers before.store value) :
    (pure value : Action α).Preserves before answers := ⟨.refl sound, h⟩

/-- An error whose value, if it carries one, exists. -/
theorem fail {error : RuntimeError} (h : before.store.known.Raises error) :
    (throw error : Action α).Preserves before answers := ⟨.refl sound, h⟩

/-- What a deliberate action fails with carries nothing, and leaves the store as it was. -/
theorem of_deliberate {fails : RuntimeError → Prop} {action : Action α}
    (h : action.Deliberate fails before fun value after =>
      before.store.Leads after.store ∧ answers after.store value)
    (plain : ∀ error, fails error → error.Plain) : action.Preserves before answers := by
  unfold Deliberate at h
  unfold Preserves
  split at h
  next value after acted =>
    rw [acted]
    exact h
  -- Nothing has been written by the time it fails.
  next error after failed =>
    rw [failed]
    obtain ⟨failing, rfl⟩ := h
    exact ⟨.refl sound, Store.raises_of_plain _ (plain error failing)⟩

/-- A look at a value. -/
theorem of_looks {fails : RuntimeError → Prop} {action : Action α} {found : α → Prop}
    (h : action.Looks fails before found) (plain : ∀ error, fails error → error.Plain) :
    action.Preserves before fun _ => found := by
  refine of_deliberate sound (h.mono (fun _ => id) fun value after ended => ?_) plain
  obtain ⟨holds, rfl⟩ := ended
  exact ⟨.refl sound, holds⟩

/-- A calculation on an operand that exists. -/
theorem ofCalculation {operand : Value} (held : before.store.known.Holds operand)
    {result : Except RuntimeError Value} (ended : Calculates (Value.Calculated operand) result) :
    (Action.ofCalculation result).Preserves before fun store => store.known.Holds := by
  refine of_deliberate sound (Deliberate.ofCalculation ended (fun _ => plain_of_calculation)
    (fun value calculated => ?_) fun n _ => ?_) fun _ => id
  · exact ⟨.refl sound, Policy.holds_of_calculated held calculated⟩
  · exact ⟨.refl sound, trivial⟩

/-- A result that was calculated before. -/
theorem ofExcept {result : Except RuntimeError α} {found : α → Prop}
    (ended : Calculates found result) :
    (Action.ofExcept result).Preserves before fun _ => found := by
  cases result with
  | ok value => exact ⟨.refl sound, ended⟩
  | error error => exact ⟨.refl sound, Store.raises_of_plain _ (plain_of_calculation ended)⟩

end Closure

/-! ### New cells -/

section NewCells

variable (sound : before.store.Sound)
include sound

/-- A new text that is a value. -/
theorem newString (content : String) :
    (Action.newString content).Preserves before fun store => store.known.Holds :=
  ⟨.refl sound, trivial⟩

/-- A new text. -/
theorem newText (content : String) :
    (Action.newText content).Preserves before fun _ _ => True :=
  ⟨.refl sound, trivial⟩

/-- A new list of what exists. -/
theorem newList {items : List Value} (held : ∀ item ∈ items, before.store.known.Holds item) :
    (Action.newList items).Preserves before fun store => store.known.Holds :=
  sound.addList fun item mem => held item (List.mem_toArray.mp mem)

/-- A new object below one that exists, with slots that exist. -/
theorem newObject {prototype : ObjectId} (above : before.store.known.ref prototype)
    {slots : Table Value} (distinct : slots.Distinct) (held : slots.All before.store.known.Holds) :
    (Action.newObject { prototype := some prototype, slots := slots }).Preserves before
      fun store => store.known.Holds :=
  sound.addObject above distinct held

end NewCells

/-! ### Names -/

section Names

variable (sound : before.store.Sound)
include sound

/-- What is found from a value that exists, and its owner, exist. -/
theorem findOn {receiver : Value} (held : before.store.known.Holds receiver) (name : String) :
    (Action.findOn receiver name).Preserves before fun store result =>
      ∀ found, result = some found → store.known.ref found.holder ∧ store.known.Holds found.value :=
  ⟨.refl sound, fun _ finds => sound.linked.lookupOn held finds⟩

/-- A frame that defines a name is not the one of the top level, which defines nothing. -/
theorem updateVariable (scope : LocalsId) (name : String) {value : Value}
    (held : before.store.known.Holds value) :
    (Action.updateVariable scope name value).Preserves before fun _ _ => True := by
  refine of_deliberate sound (Deliberate.updateVariable fun binding stands => ?_)
    fun _ => plain_of_assignment
  cases binding with
  | onObject holder => exact ⟨sound.putSlot holder name held, trivial⟩
  | inFrame frame =>
    have own : frame ≠ World.moduleFrame := by
      rintro rfl
      have defines := Store.contains_of_resolve stands
      rw [Table.contains, Table.find?, sound.lexical.bare] at defines
      exact Bool.false_ne_true defines
    exact ⟨sound.putVariable own name held, trivial⟩

/-- An update in a scope, or on any other value in the object that owns the name. -/
theorem updateOn (target : Value) (name : String) {value : Value}
    (held : before.store.known.Holds value) :
    (SlotTalk.updateOn target name value).Preserves before fun _ _ => True := by
  -- The owner is found before it is written to, so that a missing one leaves all as it was.
  have owned : (do
      if ← Action.updateSlot target name value then return () else throw (.undefinedName name none)
      : Action Unit).Preserves before fun _ _ => True :=
    of_deliberate sound (Deliberate.updateOwned (.undefinedName name none) fun owner _ =>
      ⟨sound.putSlot owner.holder name held, trivial⟩) fun _ => plain_of_assignment
  cases target with
  | locals id => exact updateVariable sound id name held
  | _ => exact owned

variable {scope : LocalsId} (ref : before.store.known.ref scope)
include ref

/-- The `self` of a scope that exists. -/
theorem selfOf : (Action.selfOf scope).Preserves before fun store => store.known.Holds :=
  ⟨.refl sound, (sound.linked.scope ref).self⟩

/-- The variable of a frame around the scope. -/
theorem findVariable (name : String) :
    (Action.findVariable scope name).Preserves before fun store => store.known.HoldsOption :=
  ⟨.refl sound, sound.linked.readFrame? (sound.linked.scope ref).frame name⟩

/-- A scope that is not one of the top level has a frame of its own. -/
theorem defineVariable (name : Text) {value : Value} (held : before.store.known.Holds value) :
    (Action.defineVariable scope name value).Preserves before fun _ _ => True := by
  refine of_deliberate sound (Deliberate.defineVariable (fun _ id _ => ?_) fun inner => ?_)
    fun _ => plain_of_assignment
  · exact ⟨sound.putSlot id name held, trivial⟩
  -- A scope of the top level would have its definitions put on `self`.
  · have own : (before.store.scope scope).frame ≠ World.moduleFrame := fun same =>
      Bool.eq_false_iff.mp inner ((sound.isModule_iff ref).mpr same)
    exact ⟨sound.putVariable own name held, trivial⟩

omit ref in
/-- A definition on an object or in a scope that exists. -/
theorem defineOn {target : Value} (on : before.store.known.Holds target) (name : Text)
    {value : Value} (held : before.store.known.Holds value) :
    (SlotTalk.defineOn target name value).Preserves before fun _ _ => True := by
  cases target with
  | object id => exact ⟨sound.putSlot id name held, trivial⟩
  | locals id => exact defineVariable sound on name held
  | _ => exact ⟨.refl sound, trivial⟩

/-! ### Code literals -/

/-- A new block remembers a scope that exists. -/
theorem newBlock (code : Code) :
    (SlotTalk.newBlock scope code).Preserves before fun store => store.known.Holds :=
  sound.addBlock ref

/-- A new method remembers the frame of its scope, which exists, or none. -/
theorem newMethod (code : Code) :
    (SlotTalk.newMethod scope code).Preserves before fun store => store.known.Holds := by
  have home : before.store.known.Links (methodHome before.store scope) := by
    unfold methodHome
    split
    · exact nofun
    · exact Policy.links_some (sound.linked.scope ref).frame
  exact sound.addMethod home

omit ref in
/-- A new function remembers nothing. -/
theorem newFunction (code : Code) :
    (SlotTalk.newFunction code).Preserves before fun store => store.known.Holds :=
  sound.addFunction code

/-- The running call exists, as the frame leads to it. -/
theorem readCall :
    (SlotTalk.readCall scope).Preserves before fun store => store.known.Holds := by
  have context := (sound.linked.frame (sound.linked.scope ref).frame).context
  refine ⟨.refl sound, ?_⟩
  show before.store.known.Holds (currentCall before.store scope)
  unfold currentCall
  split
  next id same => exact same ▸ context
  next => trivial

end Names

end Preserves

end Action

/-! ### Built-ins -/

namespace ExceptionPrimitive

variable {before : Engine}

/-- To word an error changes nothing, and never fails. -/
theorem wording_on (value : Value) (engine : Engine) :
    ∃ text, (wording value).on engine = (.ok text, engine) := by
  cases value <;> exact ⟨_, rfl⟩

/-- The object that stands for what is raised. -/
def raised (use : Invocation) (before : Engine) : Object where
  prototype := some use.receiver.delegate
  slots := Table.empty.put ⟨"message", .numbered before.nextIdentity⟩ (use.input 0)

/-- **Raising.** A new object is made and is the value of the error; nothing else happens. -/
theorem raise_on (use : Invocation) (before : Engine) :
    ∃ text, (run use .raise).on before
      = (.error (.exception (.object ⟨before.store.objects.size⟩) text),
        { before with
          store := (before.store.addObject (raised use before)).2
          nextIdentity := before.nextIdentity + 1 }) := by
  let after : Engine := { before with
    store := (before.store.addObject (raised use before)).2
    nextIdentity := before.nextIdentity + 1 }
  obtain ⟨text, worded⟩ := wording_on (use.input 0) after
  refine ⟨text, ?_⟩
  show (wording (use.input 0) >>= fun text =>
    throw (.exception (.object ⟨before.store.objects.size⟩) text) : Action Value).on after = _
  rw [Action.on_bind, worded]
  rfl

end ExceptionPrimitive

/-- **Built-ins.** A built-in that activates nothing else leads to a sound store, whether it fails
    or not. -/
theorem PlainPrimitive.run_preserves {before : Engine} (sound : before.store.Sound)
    {use : Invocation} (held : use.Held before.store.known) (primitive : PlainPrimitive) :
    (primitive.run use).Preserves before fun store => store.known.Holds := by
  by_cases raises : primitive = .exception .raise
  · rw [raises]
    obtain ⟨text, raised⟩ := ExceptionPrimitive.raise_on use before
    have done : (PlainPrimitive.run use (.exception .raise)).on before = _ := raised
    rw [Action.Preserves, done]
    exact sound.addObject (Policy.ref_delegate held.receiver) (.put .empty _ _)
      (.put .empty _ (held.input 0))
  -- All others look before they write.
  · have careful : (primitive.run use).Deliberate Plain before (use.Safe before) :=
      primitive.run_deliberate raises
    refine .of_deliberate sound (careful.mono (fun _ => id) fun answer after ended => ?_)
      fun _ => id
    exact ended sound held

end SlotTalk
