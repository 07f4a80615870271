import SlotTalk.Eval.Evaluator
import SlotTalk.Proofs.Ordinary
import SlotTalk.Proofs.SlotUpdate

namespace SlotTalk

/-!
# Deliberate actions

A deliberate action looks before it writes: all that can fail comes before the first change, so that
an action that fails leaves the state as it was.

* `Action.Deliberate` — the actions, with what they may fail with and how they end otherwise.
* `Action.Looks` — the ones that change nothing at all.
* `Deliberate.look` and the others — how deliberate actions are put together.
* `Looks.expectObject`, `Deliberate.updateVariable` and the others — kinds of values, and names.
-/

/-- A mismatch tells what was expected and what kind of value was found. -/
theorem plain_mismatch (expected : String) (got : Value) :
    (RuntimeError.mismatch expected got).Plain := nofun

/-- A position out of bounds is told as a number. -/
theorem plain_outOfBounds (position : Int) (length : Nat) :
    (RuntimeError.outOfBounds position length).Plain := nofun

/-- What an assignment fails with: the target cannot hold the name, or nothing has it. -/
inductive RuntimeError.OfAssignment : RuntimeError → Prop where
  | mismatch (got : Value) : OfAssignment (.mismatch "Object" got)
  | undefinedName (name : String) (location : Option Location) :
    OfAssignment (.undefinedName name location)

/-- No error of an assignment carries a value. -/
theorem plain_of_assignment {error : RuntimeError} (h : error.OfAssignment) : error.Plain := by
  cases h <;> exact nofun

namespace Action

open RuntimeError (Plain OfAssignment)

variable {α β : Type} {fails : RuntimeError → Prop} {before : Engine}

/-- The action fails in one of the given ways and without any change, or ends as described. -/
def Deliberate (fails : RuntimeError → Prop) (action : Action α) (before : Engine)
    (ends : α → Engine → Prop) : Prop :=
  match action.on before with
  | (.ok answer, after) => ends answer after
  | (.error error, after) => fails error ∧ after = before

/-- The action changes nothing, and its answer has the property. -/
def Looks (fails : RuntimeError → Prop) (action : Action α) (before : Engine)
    (found : α → Prop) : Prop :=
  action.Deliberate fails before fun answer after => found answer ∧ after = before

namespace Deliberate

variable {ends : α → Engine → Prop}

/-! ### How they end -/

/-- A failure has left the state as it was. -/
theorem error {action : Action α} (h : action.Deliberate fails before ends) {error : RuntimeError}
    {after : Engine} (failed : action.on before = (.error error, after)) :
    fails error ∧ after = before := by
  rw [Deliberate, failed] at h
  exact h

/-- Fewer errors and a stronger end are enough. -/
theorem mono {weaker : RuntimeError → Prop} {ends' : α → Engine → Prop} {action : Action α}
    (h : action.Deliberate fails before ends) (error : ∀ error, fails error → weaker error)
    (ok : ∀ answer after, ends answer after → ends' answer after) :
    action.Deliberate weaker before ends' := by
  unfold Deliberate at h ⊢
  split at h
  next answer after acted => exact ok answer after h
  next failure after failed => exact ⟨error failure h.1, h.2⟩

/-! ### Closure -/

/-- An answer without an action. -/
theorem answer {value : α} (h : ends value before) :
    (pure value : Action α).Deliberate fails before ends := h

/-- A failure without an action. -/
theorem fail {error : RuntimeError} (h : fails error) :
    (throw error : Action α).Deliberate fails before ends := ⟨h, rfl⟩

/-- After a look all is as before. -/
theorem look {x : Action α} {f : α → Action β} {found : α → Prop} {ends : β → Engine → Prop}
    (first : x.Looks fails before found)
    (rest : ∀ answer, found answer → (f answer).Deliberate fails before ends) :
    (x >>= f).Deliberate fails before ends := by
  unfold Looks Deliberate at first
  rw [Deliberate, on_bind]
  -- Either the look fails with the state as it was, or what comes next begins in that state.
  cases acted : x.on before with
  | mk result after =>
    rw [acted] at first
    cases result with
    | ok answer =>
      obtain ⟨holds, rfl⟩ := first
      exact rest answer holds
    | error error => exact first

/-- What was tested is known in either case. -/
theorem ite {condition : Prop} [Decidable condition] {x y : Action α}
    (hx : condition → x.Deliberate fails before ends)
    (hy : ¬ condition → y.Deliberate fails before ends) :
    (if condition then x else y).Deliberate fails before ends := by
  split
  next holds => exact hx holds
  next not => exact hy not

/-- Reading the store is a look. -/
theorem store {view : Store → Action α} (rest : (view before.store).Deliberate fails before ends) :
    (Action.store >>= view).Deliberate fails before ends := rest

/-- An answer made of the store. -/
theorem view {view : Store → α} (h : ends (view before.store) before) :
    Deliberate fails (return view (← Action.store)) before ends := h

/-- One change of a cell, after which nothing can fail any more. -/
theorem change {change : Store → Store} {ends : Unit → Engine → Prop}
    (h : ends () { before with store := change before.store }) :
    (modifyStore change).Deliberate fails before ends := h

/-- A changed cell, and an answer. -/
theorem edit {change : Store → Store} {value : α}
    (h : ends value { before with store := change before.store }) :
    Deliberate fails (do modifyStore change; return value) before ends := h

/-! ### New cells and texts -/

/-- A new list, after which nothing can fail either. -/
theorem newList {items : List Value} {ends : Value → Engine → Prop}
    (h : ends (.list ⟨before.store.lists.size⟩)
      { before with store := (before.store.addList items.toArray).2 }) :
    (Action.newList items).Deliberate fails before ends := h

/-- A big integer that a calculation made gets an identity, and stays the same integer. -/
theorem ofCalculation {result : Except RuntimeError Value} {answers : Value → Prop}
    (calculated : Calculates answers result)
    (failing : ∀ error : RuntimeError, error.OfCalculation → fails error)
    {ends : Value → Engine → Prop}
    (small : ∀ value, answers value → ends value before)
    (big : ∀ n, answers (.big n .unassigned) →
      ends (.big n (.numbered before.nextIdentity))
        { before with nextIdentity := before.nextIdentity + 1 }) :
    (Action.ofCalculation result).Deliberate fails before ends := by
  cases result with
  | error error => exact ⟨failing error calculated, rfl⟩
  | ok value =>
    refine .look (x := Action.ofExcept (.ok value)) ⟨calculated, rfl⟩ fun value holds => ?_
    split
    · exact big _ holds
    · exact small _ holds

end Deliberate

namespace Looks

/-! ### Kinds of values -/

variable {value : Value}

/-- A value that has to be an object; the error is one of the given ways to fail. -/
theorem expectObject (failing : fails (.mismatch "Object" value)) :
    value.expectObject.Looks fails before fun id => value = .object id := by
  cases value with
  | object id => exact ⟨rfl, rfl⟩
  | _ => exact ⟨failing, rfl⟩

/-- A value that has to be a list. -/
theorem expectList : value.expectList.Looks Plain before fun id => value = .list id := by
  cases value with
  | list id => exact ⟨rfl, rfl⟩
  | _ => exact .fail (plain_mismatch _ _)

/-- A value that has to be a map. -/
theorem expectMap : value.expectMap.Looks Plain before fun id => value = .map id := by
  cases value with
  | map id => exact ⟨rfl, rfl⟩
  | _ => exact .fail (plain_mismatch _ _)

/-- A value that has to be a scope. -/
theorem expectLocals :
    (LocalsPrimitive.expectLocals value).Looks Plain before fun id => value = .locals id := by
  cases value with
  | locals id => exact ⟨rfl, rfl⟩
  | _ => exact .fail (plain_mismatch _ _)

/-- A value that has to be a date. -/
theorem expectDate : (DatePrimitive.expectDate value).Looks Plain before fun _ => True := by
  cases value with
  | date date => exact ⟨trivial, rfl⟩
  | _ => exact .fail (plain_mismatch _ _)

/-- A value that has to be a text. -/
theorem expectText : value.expectText.Looks Plain before fun _ => True := by
  cases value with
  | string text => exact ⟨trivial, rfl⟩
  | _ => exact .fail (plain_mismatch _ _)

/-- The content of such a value. -/
theorem expectString : value.expectString.Looks Plain before fun _ => True :=
  Deliberate.look expectText fun _ _ => .answer ⟨trivial, rfl⟩

/-- A value that has to be a position: an integer in a word, or a float that is one. -/
theorem expectPosition : value.expectPosition.Looks Plain before fun _ => True := by
  unfold Value.expectPosition
  split
  · exact ⟨trivial, rfl⟩
  · split
    · exact ⟨trivial, rfl⟩
    · exact .fail (plain_mismatch _ _)
  · exact .fail (plain_mismatch _ _)

/-- A value that has to be code. -/
theorem expectInvokable :
    (SlotTalk.expectInvokable value).Looks Plain before fun code => code.toValue = value := by
  unfold SlotTalk.expectInvokable
  split
  next code same => exact ⟨Value.toValue_of_invokable? same, rfl⟩
  next => exact .fail (plain_mismatch _ _)

end Looks

/-! ### Names -/

namespace Deliberate

variable {ends : Unit → Engine → Prop}

/-- A name is defined as a slot of `self` at the top level, and else as a variable. -/
theorem defineVariable {scope : LocalsId} {name : Text} {value : Value}
    (slot : before.store.isModule scope = true → ∀ id,
      (before.store.scope scope).self = .object id →
        ends () { before with store := before.store.putSlot id name value })
    (inner : before.store.isModule scope = false →
      ends () { before with
        store := before.store.putVariable (before.store.scope scope).frame name value }) :
    (Action.defineVariable scope name value).Deliberate OfAssignment before ends := by
  refine .store (.ite (fun module => ?_) fun other => ?_)
  · refine .look (.expectObject (.mismatch _)) fun id self => .change (slot module id self)
  · exact .change (inner (Bool.eq_false_iff.mpr other))

/-- A name is updated where it stands for something. -/
theorem updateVariable {scope : LocalsId} {name : String} {value : Value}
    (h : ∀ binding, before.store.resolve scope name = some binding →
      ends () { before with store := before.store.writeBinding name value binding }) :
    (Action.updateVariable scope name value).Deliberate OfAssignment before ends := by
  refine .store ?_
  split
  next binding stands => exact .change (h binding stands)
  next => exact .fail (.undefinedName name none)

/-- A slot is updated on the object that owns it, and it is an error if there is none. -/
theorem updateOwned {receiver value : Value} {key : String} {result : β} {missing : RuntimeError}
    {ends : β → Engine → Prop} (failing : fails missing)
    (found : ∀ owner, before.store.lookupOn receiver key = some owner →
      ends result { before with store := before.store.putSlot owner.holder key value }) :
    Deliberate fails
      (do if ← Action.updateSlot receiver key value then return result else throw missing)
      before ends := by
  rw [Deliberate, on_bind, updateSlot_on]
  cases looked : before.store.lookupOn receiver key with
  | some owner => exact found owner looked
  | none => exact ⟨failing, rfl⟩

end Deliberate

end Action

end SlotTalk
