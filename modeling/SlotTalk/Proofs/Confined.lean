import SlotTalk.Proofs.Policy

namespace SlotTalk

/-!
# Confined actions

An action is confined by a policy if, from any state that is closed under it, it keeps the policy
and ends as the policy allows.

* `Action.Confined` — the actions, with what is known of their answers.
* `Confined.bind`, `Confined.store` and the others — how confined actions are put together.
* `Confined.newList`, `Confined.updateVariable` and the others — new cells, kinds of values, names.
-/

variable {policy : Policy} {α β : Type}

namespace Policy

/-- No error of a calculation carries a value. -/
theorem raises_of_calculation {error : RuntimeError} (h : error.OfCalculation) :
    policy.Raises error := by
  cases h <;> trivial

/-- An integer in its canonical form is a big one only where it has to be. -/
theorem holds_ofInt (n : Int) : policy.Holds (.ofInt n) := by
  unfold Value.ofInt
  split
  next => trivial
  next wide => exact policy.wide (Bool.eq_false_iff.mpr wide)

/-- What a calculation makes of an operand that may be held may be held. -/
theorem holds_of_calculated {operand value : Value} (held : policy.Holds operand)
    (h : Value.Calculated operand value) : policy.Holds value := by
  cases h with
  | integer n => exact holds_ofInt n
  | float | truth => trivial
  | operand => exact held

-- Otherwise the range test is computed wherever such a value is matched.
attribute [local irreducible] Value.ofInt

/-- A count is an integer like any other. -/
theorem holds_ofNat (n : Nat) : policy.Holds (.ofNat n) := holds_ofInt n

end Policy

namespace Action

/-- The policy is kept, and the answers have the property. -/
def Confined (policy : Policy) (action : Action α) (answers : α → Prop) : Prop :=
  ∀ before, policy.Closed before.store →
    policy.Step before.store (action.on before).2.store
      ∧ policy.Ends answers (action.on before).1

namespace Confined

variable {answers : α → Prop}

/-! ### Closure -/

/-- What is answered without an action has to have the property itself. -/
theorem answer {value : α} (h : answers value) : Confined policy (pure value) answers :=
  fun _ closed => ⟨.refl closed, h⟩

/-- An error may be raised if the value that it carries, if any, may be held. -/
theorem fail {error : RuntimeError} (raises : policy.Raises error) :
    Confined policy (throw error : Action α) answers :=
  fun _ closed => ⟨.refl closed, raises⟩

/-- The second action begins in a store that the first has kept closed, and may rely on what is
    known of the answer. -/
theorem bind {x : Action α} {f : α → Action β} {answers' : β → Prop}
    (first : x.Confined policy answers)
    (rest : ∀ value, answers value → (f value).Confined policy answers') :
    (x >>= f).Confined policy answers' := by
  intro before closed
  obtain ⟨step, ended⟩ := first before closed
  rw [on_bind]
  split
  -- The steps of both actions make one step, since each writes only to cells that may be held.
  next value between acted =>
    rw [acted] at step ended
    obtain ⟨step', ended'⟩ := rest value ended between step.closed
    exact ⟨step.trans step', ended'⟩
  -- What failed ends both, and its step is the whole one.
  next error between failed =>
    rw [failed] at step ended
    exact ⟨step, ended⟩

/-- A choice between confined actions is confined, whichever way is taken. -/
theorem ite {condition : Prop} [Decidable condition] {x y : Action α}
    (hx : x.Confined policy answers) (hy : y.Confined policy answers) :
    (if condition then x else y).Confined policy answers := by
  split
  · exact hx
  · exact hy

/-- What is done with the state may rely on its being closed. -/
theorem read {view : Engine → Action α}
    (rest : ∀ engine, policy.Closed engine.store → (view engine).Confined policy answers) :
    (get >>= view).Confined policy answers :=
  fun before closed => rest before closed before closed

/-- What is done with the store may rely on its being closed. -/
theorem store {view : Store → Action α}
    (rest : ∀ store, policy.Closed store → (view store).Confined policy answers) :
    (Action.store >>= view).Confined policy answers :=
  fun before closed => rest before.store closed before closed

/-- An answer made of the store. -/
theorem view {view : Store → α} (h : ∀ store, policy.Closed store → answers (view store)) :
    Confined policy (return view (← Action.store)) answers :=
  store fun store closed => answer (h store closed)

/-- A change of a cell is confined if the policy is kept from any closed store. -/
theorem change {change : Store → Store}
    (step : ∀ store, policy.Closed store → policy.Step store (change store)) :
    (modifyStore change).Confined policy fun _ => True :=
  fun before closed => ⟨step before.store closed, trivial⟩

/-- A changed cell, and an answer. -/
theorem edit {change : Store → Store} {value : α}
    (step : ∀ store, policy.Closed store → policy.Step store (change store)) (h : answers value) :
    Confined policy (do modifyStore change; return value) answers :=
  bind (.change step) fun _ _ => answer h

/-- A new cell is confined if the policy is kept with it, and its reference is known of from there
    on. -/
theorem extend {change : Store → α × Store}
    (step : ∀ store, policy.Closed store →
      policy.Step store (change store).2 ∧ answers (change store).1) :
    (updateStore change).Confined policy answers :=
  fun before closed => step before.store closed

/-- A result that was calculated before, as an answer or an error. -/
theorem ofExcept {result : Except RuntimeError α} (ended : Calculates answers result) :
    (Action.ofExcept result).Confined policy answers := by
  cases result with
  | ok value => exact answer ended
  | error error => exact fail (Policy.raises_of_calculation ended)

/-! ### Texts, calculations and new cells -/

/-- To print changes no cell. -/
theorem print (text : String) : (Action.print text).Confined policy fun _ => True :=
  fun _ closed => ⟨.refl closed, trivial⟩

/-- To display a value only reads cells, and a text names none. -/
theorem display (value : Value) : (Action.display value).Confined policy fun _ => True :=
  fun _ closed => ⟨.refl closed, trivial⟩

/-- A new text takes an identity, which is no cell. -/
theorem newText (content : String) : (Action.newText content).Confined policy fun _ => True :=
  fun _ closed => ⟨.refl closed, trivial⟩

/-- A new text that is a value takes an identity as well. -/
theorem newString (content : String) : (Action.newString content).Confined policy policy.Holds :=
  fun _ closed => ⟨.refl closed, trivial⟩

/-- A result of a calculation may be held if its operand may: it is a number, a truth value or that
    operand. -/
theorem ofCalculation {operand : Value} (held : policy.Holds operand)
    {result : Except RuntimeError Value} (ended : Calculates (Value.Calculated operand) result) :
    (Action.ofCalculation result).Confined policy policy.Holds := by
  refine bind (ofExcept ended) fun value calculated => ?_
  have holds := Policy.holds_of_calculated held calculated
  split
  -- A big integer that gets an identity stays the same integer.
  · exact fun _ closed => ⟨.refl closed, holds⟩
  · exact answer holds

/-- A new object below one that may be held, with slots that may be held, may be held itself. -/
theorem newObject {prototype : ObjectId} (above : policy.ref prototype) {slots : Table Value}
    (distinct : slots.Distinct) (held : slots.All policy.Holds) :
    (Action.newObject { prototype := some prototype, slots := slots }).Confined policy
      policy.Holds :=
  bind (extend fun _ closed => closed.addObject above distinct held) fun _ ref => answer ref

/-- A clone has no slots of its own. -/
theorem cloneOf {prototype : ObjectId} (above : policy.ref prototype) :
    (Action.cloneOf prototype).Confined policy policy.ref :=
  extend fun _ closed => closed.addObject above .empty .empty

/-- A new list of what may be held. -/
theorem newList {items : List Value} (held : ∀ item ∈ items, policy.Holds item) :
    (Action.newList items).Confined policy policy.Holds := by
  have all : policy.HoldsItems items.toArray := fun item mem => held item (List.mem_toArray.mp mem)
  exact bind (extend fun _ closed => closed.addList all) fun _ ref => answer ref

/-- A new map with values that may be held.  Its keys are texts. -/
theorem newMap {entries : Table Value} (distinct : entries.Distinct)
    (held : entries.All policy.Holds) : (Action.newMap entries).Confined policy policy.Holds :=
  bind (extend fun _ closed => closed.addMap distinct held) fun _ ref => answer ref

/-- Texts name no cells. -/
theorem newStrings (texts : List Text) :
    (Action.newList (texts.map .string)).Confined policy policy.Holds := by
  refine newList fun item mem => ?_
  obtain ⟨text, -, rfl⟩ := List.mem_map.mp mem
  trivial

/-! ### Kinds of values -/

section Kinds

variable {value : Value}

/-- A value of the wrong kind is refused before anything is done with it; the error tells only what
    was expected and the kind of what was found. -/
theorem expectObject (held : policy.Holds value) :
    value.expectObject.Confined policy policy.ref := by
  cases value with
  | object id => exact answer held
  | _ => exact fail trivial

/-- The list that the value is may be held if the value may. -/
theorem expectList (held : policy.Holds value) : value.expectList.Confined policy policy.ref := by
  cases value with
  | list id => exact answer held
  | _ => exact fail trivial

/-- The map that the value is may be held if the value may. -/
theorem expectMap (held : policy.Holds value) : value.expectMap.Confined policy policy.ref := by
  cases value with
  | map id => exact answer held
  | _ => exact fail trivial

/-- The scope that the value is may be held if the value may. -/
theorem expectLocals (held : policy.Holds value) :
    (LocalsPrimitive.expectLocals value).Confined policy policy.ref := by
  cases value with
  | locals id => exact answer held
  | _ => exact fail trivial

/-- Code is held as the value that it was. -/
theorem expectInvokable (held : policy.Holds value) :
    (SlotTalk.expectInvokable value).Confined policy fun code => policy.Holds code.toValue := by
  cases value with
  | primitive | function | block | method => exact answer held
  | _ => exact fail trivial

/-- A text may always be held. -/
theorem expectText (value : Value) : value.expectText.Confined policy fun _ => True := by
  cases value with
  | string text => exact answer trivial
  | _ => exact fail trivial

/-- Its content is no value at all. -/
theorem expectString (value : Value) : value.expectString.Confined policy fun _ => True :=
  bind (expectText value) fun _ _ => answer trivial

/-- A date names no cell either. -/
theorem expectDate (value : Value) :
    (DatePrimitive.expectDate value).Confined policy fun _ => True := by
  cases value with
  | date date => exact answer trivial
  | _ => exact fail trivial

/-- A position is an integer in a word, or a float that is one. -/
theorem expectPosition (value : Value) : value.expectPosition.Confined policy fun _ => True := by
  unfold Value.expectPosition
  split
  · exact answer trivial
  · split
    · exact answer trivial
    · exact fail trivial
  · exact fail trivial

end Kinds

/-! ### Names -/

section Names

variable {scope : LocalsId} (ref : policy.ref scope)
include ref

/-- A scope that may be held leads to its `self`. -/
theorem selfOf : (Action.selfOf scope).Confined policy policy.Holds :=
  view fun _ closed => (closed.scope ref).self

/-- The frames around it lead to the values of their variables. -/
theorem findVariable (name : String) :
    (Action.findVariable scope name).Confined policy policy.HoldsOption :=
  view fun _ closed => closed.readFrame? (closed.scope ref).frame name

/-- A definition is put on `self` at the top level, and in the frame of the scope elsewhere; either
    may be held, for the scope leads to it. -/
theorem defineVariable (name : Text) {value : Value} (held : policy.Holds value) :
    (Action.defineVariable scope name value).Confined policy fun _ => True := by
  refine store fun store closed => ite ?_ ?_
  -- At the top level `self` may be any value, and has to be an object.
  · exact bind (expectObject (closed.scope ref).self) fun id self =>
      change fun _ closed => closed.putSlot self name held
  · exact change fun _ closed' => closed'.putVariable (closed.scope ref).frame name held

/-- The place that a name stands for in a scope may be held, so that it may be written to. -/
theorem updateVariable (name : String) {value : Value} (held : policy.Holds value) :
    (Action.updateVariable scope name value).Confined policy fun _ => True := by
  refine store fun store closed => ?_
  split
  next binding stands =>
    have place := closed.resolve ref stands
    cases binding with
    | inFrame frame => exact change fun _ closed => closed.putVariable place name held
    | onObject holder => exact change fun _ closed => closed.putSlot place name held
  next => exact fail trivial

end Names

/-- What is found from a value that may be held, and the object that holds it, may be held. -/
theorem findOn {receiver : Value} (held : policy.Holds receiver) (name : String) :
    (Action.findOn receiver name).Confined policy
      fun result => ∀ found, result = some found →
        policy.ref found.holder ∧ policy.Holds found.value :=
  view fun _ closed _ finds => closed.lookupOn held finds

/-- The object that is updated is the one that the slot is found on. -/
theorem updateSlot {receiver value : Value} (on : policy.Holds receiver) (key : String)
    (held : policy.Holds value) :
    (Action.updateSlot receiver key value).Confined policy fun _ => True := by
  refine store fun store closed => ?_
  split
  next found finds =>
    have holder := (closed.lookupOn on finds).1
    exact edit (fun _ closed => closed.putSlot holder key held) trivial
  next => exact answer trivial

/-- What is removed from an object was held by it. -/
theorem removeSlot {id : ObjectId} (ref : policy.ref id) (key : String) :
    (Action.removeSlot id key).Confined policy policy.HoldsOption :=
  store fun _ closed => edit (fun _ closed => closed.eraseSlot ref key)
    fun _ finds => (closed.object ref).slots.find? finds

end Confined

end Action

end SlotTalk
