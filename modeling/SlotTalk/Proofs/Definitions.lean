import SlotTalk.Proofs.Moments
import SlotTalk.Proofs.SoundStore
import SlotTalk.Proofs.VariableAccess

namespace SlotTalk

/-!
# What definitions leave behind

A definition writes the own place of its scope: a variable of the frame of an activation, or at the
top level a slot of `self`.  A scope that takes definitions goes on taking them, whatever runs in
between, and one definition leaves those of other names as they are.

* `Store.TakesDefinitions` — the scopes in which definitions succeed.
* `TakesDefinitions.evolves`, `TakesDefinitions.defines` — later states, and definitions.
* `takesDefinitions_iff` — how it shows that a scope takes definitions.
-/

namespace Store

variable {store after : Store} {scope : LocalsId} {name : String} {value : Value}

/-! ### Own places -/

/-- The scope exists and is one of an activation, or one of the top level with an object as its
    `self`. -/
structure TakesDefinitions (store : Store) (scope : LocalsId) : Prop where
  scope_lt : scope.index < store.locals.size
  frame_lt : (store.scope scope).frame.index < store.frames.size
  self : store.isModule scope = true →
    ∃ id, (store.scope scope).self = .object id ∧ id.index < store.objects.size

/-! ### While the store evolves -/

theorem kept_evolves (base : Store) : Kept base.Evolves where
  change step store evolves := evolves.trans (step.evolves store)
  extend step store evolves := evolves.trans (step.evolves store)

theorem isModule_of_evolves (evolves : store.Evolves after)
    (takes : store.TakesDefinitions scope) : after.isModule scope = store.isModule scope := by
  rw [isModule, isModule, evolves.scope takes.scope_lt, (evolves.frame takes.frame_lt).kind]

/-- A scope that takes definitions goes on taking them. -/
theorem TakesDefinitions.evolves (takes : store.TakesDefinitions scope)
    (evolves : store.Evolves after) : after.TakesDefinitions scope where
  scope_lt := Nat.lt_of_lt_of_le takes.scope_lt (evolves.count .locals)
  frame_lt := by
    rw [evolves.scope takes.scope_lt]
    exact Nat.lt_of_lt_of_le takes.frame_lt (evolves.count .frame)
  self module := by
    rw [isModule_of_evolves evolves takes] at module
    obtain ⟨id, self, inObjects⟩ := takes.self module
    rw [evolves.scope takes.scope_lt]
    exact ⟨id, self, Nat.lt_of_lt_of_le inObjects (evolves.count .object)⟩

/-! ### Definitions -/

/-- A definition succeeds, and changes what the own place holds under the name and nothing that it
    holds under others. -/
theorem TakesDefinitions.defines {engine : Engine} (takes : engine.store.TakesDefinitions scope)
    (key : Text) (value : Value) :
    ∃ after, (Action.defineVariable scope key value).on engine = (.ok (), after)
      ∧ after.store.Binds scope key.content value
      ∧ (∀ other old, key.content ≠ other → engine.store.Binds scope other old →
        after.store.Binds scope other old)
      ∧ after.store.lists = engine.store.lists := by
  cases module : engine.store.isModule scope with
  | false =>
    let frame := (engine.store.scope scope).frame
    have still := (isModule_putVariable key value frame).trans module
    have holds : ∀ other, ((engine.store.putVariable frame key value).frame frame).vars.find? other
        = if key.content = other then some value
          else (engine.store.frame frame).vars.find? other := by
      intro other
      simpa only [true_and] using find?_putVariable frame frame key value takes.frame_lt other
    refine ⟨_, defineVariable_inner key value module,
      .inFrame still ((holds _).trans (if_pos rfl)), ?_, rfl⟩
    intro other old differs binds
    cases binds with
    | inFrame inner held =>
      exact .inFrame still ((holds other).trans ((if_neg differs).trans held))
    | onSelf top => exact nomatch module.symm.trans top
  | true =>
    obtain ⟨id, self, inObjects⟩ := takes.self module
    have holds : ∀ other, ((engine.store.putSlot id key value).object id).slots.find? other
        = if key.content = other then some value
          else (engine.store.object id).slots.find? other := by
      intro other
      rw [putSlot, object_modifyObject, if_pos ⟨rfl, inObjects⟩]
      exact Table.find?_put ..
    refine ⟨_, defineVariable_top key value module self,
      .onSelf module self ((holds _).trans (if_pos rfl)), ?_, rfl⟩
    intro other old differs binds
    cases binds with
    | inFrame inner =>
      rw [module] at inner
      cases inner
    | onSelf _ same held =>
      obtain rfl := Value.object.inj (self.symm.trans same)
      exact .onSelf module self ((holds other).trans ((if_neg differs).trans held))

/-- **Definitions.**  In a sound store the scopes that take definitions are those in which a
    definition can succeed. -/
theorem takesDefinitions_iff {engine : Engine} (sound : engine.store.Sound)
    (inScopes : scope.index < engine.store.locals.size) :
    engine.store.TakesDefinitions scope ↔ ∃ (key : Text) (value : Value) (after : Engine),
      (Action.defineVariable scope key value).on engine = (.ok (), after) := by
  constructor
  · intro takes
    obtain ⟨after, defined, -⟩ := takes.defines "" .nil
    exact ⟨"", .nil, after, defined⟩
  · rintro ⟨key, value, after, defined⟩
    refine ⟨inScopes, sound.lt_of_ref (sound.holds_scope scope).frame, fun module => ?_⟩
    have held := (sound.holds_scope scope).self
    change (if engine.store.isModule scope then _ else _ : Action Unit).on engine = _ at defined
    rw [if_pos module] at defined
    generalize (engine.store.scope scope).self = self at defined held ⊢
    cases self with
    | object id => exact ⟨id, rfl, sound.lt_of_ref held⟩
    | _ => exact nomatch defined

end Store

end SlotTalk
