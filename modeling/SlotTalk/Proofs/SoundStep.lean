import SlotTalk.Proofs.ConfinedStep
import SlotTalk.Proofs.SoundAction

namespace SlotTalk

/-!
# Steps of the evaluator on sound stores

What activations, loops and handlers do by themselves leads from a sound store to a sound store, if
what they are given exists.

* `Activation.Known` — activations of code that exists, found in a place.
* `openBlock_preserves`, `openMethod_preserves` — opening the scope of a body; the calls that are
  recorded on the way agree with the code.
* `Counting.advance_preserves`, `Elements.next_preserves` and the others — what loops do between the
  runs of their bodies.
* `exceptionOf_preserves` — the object for a handler.
-/

attribute [local irreducible] Value.ofInt

open SlotTalk.Action (Preserves Looks)

variable {before : Engine}

/-! ### What goes on existing -/

/-- All that the activation carries exists, and its code was found in an object or a scope. -/
structure Activation.Known (store : Store) (activation : Activation) : Prop where
  held : activation.Held store.known
  place : activation.slotContext.IsPlace

namespace Store.Evolves

variable {store after : Store} (evolves : store.Evolves after)
include evolves

/-- An activation goes on to carry what exists, and its code was found where it was found. -/
theorem activation {activation : Activation} (known : activation.Known store) :
    activation.Known after where
  held :=
    { caller := evolves.ref known.held.caller
      code := evolves.holds known.held.code
      receiver := evolves.holds known.held.receiver
      slotContext := evolves.holds known.held.slotContext
      arguments := evolves.holdsList known.held.arguments
      sent := trivial }
  place := known.place

/-- What is left to visit goes on to exist, whatever the body of the loop does. -/
theorem elements {elements : Elements} (held : elements.Held store.known) :
    elements.Held after.known := by
  cases elements with
  | characters => trivial
  | items => exact evolves.ref held
  | entries rest => exact fun entry mem => evolves.holds (held entry mem)

end Store.Evolves

/-! ### Activations -/

/-- Whether the arguments are refused or not, nothing is changed. -/
theorem checkArgumentCount_preserves (sound : before.store.Sound) (code : Invokable)
    (name : String) (supplied : Nat) :
    (checkArgumentCount code name supplied).Preserves before fun _ _ => True := by
  rw [Preserves, checkArgumentCount_on]
  split
  · exact ⟨.refl sound, trivial⟩
  · exact ⟨.refl sound, trivial⟩

/-- A frame that is opened encloses nothing yet, and lies within one that exists. -/
theorem openScope_preserves (sound : before.store.Sound) {code : Code} {arguments : List Value}
    (held : ∀ value ∈ arguments, before.store.known.Holds value) {self context : Value}
    (holdsSelf : before.store.known.Holds self) (holdsContext : before.store.known.Holds context)
    {outer : Option FrameId} (links : before.store.known.Links outer) :
    (openScope code arguments self context outer).Preserves before fun store opened =>
      store.known.ref opened.scope := by
  have vars : (Table.ofList (code.parameters.zip (padTo code.arity arguments))).All
      before.store.known.Holds :=
    .ofList fun entry mem => holds_padTo held _ _ (List.of_mem_zip mem).2
  have frame : (Action.updateStore (·.addFrame
      ⟨.activation, context, .ofList (code.parameters.zip (padTo code.arity arguments)), outer⟩)
      ).Preserves before fun store frame => store.known.ref frame :=
    sound.addFrame (.ofList _) rfl ⟨holdsContext, vars, links⟩
  refine .bind frame fun frame between leads ref => ?_
  -- The frame may be named by now, and `self` still exists.
  have scope : (Action.updateStore (·.addLocals ⟨self, frame⟩)).Preserves between fun store scope =>
      store.known.ref scope := leads.sound.addLocals ⟨leads.evolves.holds holdsSelf, ref⟩
  exact .bind scope fun scope after leads ref => .answer leads.sound ref

namespace Activation

variable {activation : Activation} (sound : before.store.Sound)
  (known : activation.Known before.store)
include sound known

/-- A recorded call agrees with its code: the code asks for one, and sender and target are those of
    a block or of a method. -/
theorem newCall_preserves {sender : LocalsId} {target : Value}
    (ref : before.store.known.ref sender) (holds : before.store.known.Holds target)
    (uses : before.store.usesCallContext activation.code = true)
    (block : ∀ {id : BlockId}, activation.code = .block id →
      sender = (before.store.block id).sender ∧ target = .locals sender)
    (method : ∀ {id : MethodId}, activation.code = .method id →
      target = (before.store.scope sender).self) :
    (activation.newCall sender target).Preserves before fun store => store.known.Holds :=
  sound.addCall ⟨ref, holds, known.held.slotContext, known.held.code, Policy.thread _⟩
    ⟨uses, block, method, known.place⟩

/-- A function is opened on the lobby, within no other frame. -/
theorem openFunction_preserves (id : FunctionId) :
    (activation.openFunction id).Preserves before fun store opened =>
      store.known.ref opened.scope := by
  have lobby : before.store.known.Holds (.object lobbyObject) := before.store.known.lobby
  exact openScope_preserves sound known.held.arguments lobby known.held.receiver nofun

/-- The call of a block comes from the scope that the block was written in. -/
theorem openBlock_preserves {id : BlockId} (code : activation.code = .block id) :
    (activation.openBlock id).Preserves before fun store opened =>
      store.known.ref opened.scope := by
  have ref := known.held.code
  rw [code] at ref
  have block := sound.linked.block ref
  have context : (activation.blockContext (before.store.block id)).Preserves before fun store =>
      store.known.Holds := by
    unfold blockContext
    split
    next uses =>
      -- Sender and target are what the block remembers, whoever calls it.
      refine newCall_preserves sound known block.sender block.sender ?_ (fun same => ?_)
        fun same => ?_
      · rw [code]
        exact uses
      · obtain rfl := Invokable.block.inj (code.symm.trans same)
        exact ⟨rfl, rfl⟩
      · exact nomatch code.symm.trans same
    next => exact .answer sound known.held.receiver
  -- The scope that the block was written in is read after the call is made, and exists all the
  -- same.
  refine .store (.bind context fun context between leads holds => .store ?_)
  have home := leads.sound.linked.scope (leads.evolves.ref block.sender)
  exact openScope_preserves leads.sound (leads.evolves.holdsList known.held.arguments) home.self
    holds (Policy.links_some home.frame)

/-- The call of a method comes from a scope made for it, whose `self` is the receiver. -/
theorem openMethod_preserves {id : MethodId} (code : activation.code = .method id) :
    (activation.openMethod id).Preserves before fun store opened =>
      store.known.ref opened.scope := by
  have ref := known.held.code
  rw [code] at ref
  have method := sound.linked.method ref
  have context : (activation.methodContext (before.store.method id)).Preserves before fun store =>
      store.known.Holds := by
    unfold methodContext
    split
    next uses =>
      -- The sender is the scope that is made here, on the frame of the caller.
      have home : before.store.known.HoldsScope
          ⟨activation.receiver, (before.store.scope activation.caller).frame⟩ :=
        ⟨known.held.receiver, (sound.linked.scope known.held.caller).frame⟩
      obtain ⟨leads, ref⟩ := sound.addLocals home
      have self := congrArg Locals.self (before.store.scope_addLocals_new
        ⟨activation.receiver, (before.store.scope activation.caller).frame⟩)
      have sender : (Action.updateStore (·.addLocals
          ⟨activation.receiver, (before.store.scope activation.caller).frame⟩)).Preserves before
          fun store sender =>
            store.known.ref sender ∧ (store.scope sender).self = activation.receiver :=
        ⟨leads, ref, self⟩
      refine .store (.bind sender fun sender between leads made => ?_)
      have known' := leads.evolves.activation known
      refine newCall_preserves leads.sound known' made.1 known'.held.receiver ?_ (fun same => ?_)
        fun _ => made.2.symm
      -- New cells do not change what the code asks for.
      · rw [sound.usesCallContext_of_evolves leads.evolves known.held.code, code]
        exact uses
      · exact nomatch code.symm.trans same
    next => exact .answer sound known.held.receiver
  refine .store (.bind context fun context between leads holds => ?_)
  exact openScope_preserves leads.sound (leads.evolves.holdsList known.held.arguments)
    (leads.evolves.holds known.held.receiver) holds (leads.evolves.links method.outer)

end Activation

/-! ### Loops -/

/-- The numbers are only looked at. -/
theorem expectNumbers_preserves (sound : before.store.Sound) (values : List Value) :
    (expectNumbers values).Preserves before fun _ _ => True := by
  induction values with
  | nil => exact .answer sound trivial
  | cons value rest ih =>
    unfold expectNumbers
    split
    · exact ih
    · exact .fail sound trivial

namespace Counting

variable (counting : Counting) {scope : LocalsId} (sound : before.store.Sound)
  (ref : before.store.known.ref scope)
include sound ref

/-- The value of the counter exists, as it is read from a scope that does. -/
theorem value_preserves :
    (counting.value scope).Preserves before fun store => store.known.Holds :=
  ⟨.refl sound, (sound.linked.readVariable? ref _).getD trivial⟩

/-- A comparison changes nothing. -/
theorem inRange_preserves : (counting.inRange scope).Preserves before fun _ _ => True :=
  .bind (value_preserves counting sound ref) fun _ _ leads _ =>
    .bind (.ofExcept leads.sound (Number.compare_calculates _ _)) fun _ _ leads _ =>
      .answer leads.sound trivial

/-- The sum is put where the counter stands. -/
theorem advance_preserves : (counting.advance scope).Preserves before fun _ _ => True := by
  refine .bind (value_preserves counting sound ref) fun value between leads held => ?_
  refine .bind (.ofCalculation leads.sound held (Number.add_calculates _ _))
    fun next after leads holds => ?_
  exact .updateVariable leads.sound scope _ holds

end Counting

namespace Elements

/-- What is left to visit of a value exists if the value does. -/
theorem ofValue_preserves (sound : before.store.Sound) {value : Value}
    (held : before.store.known.Holds value) :
    (ofValue value).Preserves before fun store => Held store.known := by
  cases value with
  | string text => exact ⟨.refl sound, trivial⟩
  | list id => exact ⟨.refl sound, held⟩
  | map id => exact ⟨.refl sound, sound.linked.map held⟩
  | _ => exact ⟨.refl sound, trivial⟩

/-- The next element exists, and so does what is left after it. -/
theorem next_preserves (sound : before.store.Sound) {elements : Elements}
    (held : elements.Held before.store.known) :
    elements.next.Preserves before fun store result =>
      ∀ value rest, result = some (value, rest) →
        store.known.Holds value ∧ rest.Held store.known := by
  unfold next
  split
  next text position =>
    split
    next =>
      refine .answer sound fun value rest same => ?_
      obtain ⟨rfl, rfl⟩ := Prod.mk.inj (Option.some.inj same)
      exact ⟨Policy.holds_ofNat _, trivial⟩
    next => exact .answer sound fun _ _ same => nomatch same
  -- The list is read as it is now, and what it holds exists now.
  next list position =>
    refine .store ?_
    split
    next item itemAt =>
      refine .answer sound fun value rest same => ?_
      obtain ⟨rfl, rfl⟩ := Prod.mk.inj (Option.some.inj same)
      exact ⟨sound.linked.list held _ (Array.mem_of_getElem? itemAt), held⟩
    next => exact .answer sound fun _ _ same => nomatch same
  next => exact .answer sound fun _ _ same => nomatch same
  -- The pair is a new list; what is left of the entries goes on to exist beside it.
  next key value others =>
    obtain ⟨first, rest⟩ := List.forall_mem_cons.mp held
    have pair : ∀ item ∈ [Value.string key, value], before.store.known.Holds item :=
      List.forall_mem_cons.mpr ⟨trivial, List.forall_mem_singleton.mpr first⟩
    refine .bind (.newList sound pair) fun list after leads holds =>
      .answer leads.sound fun value left same => ?_
    obtain ⟨rfl, rfl⟩ := Prod.mk.inj (Option.some.inj same)
    exact ⟨holds, fun entry mem => leads.evolves.holds (rest entry mem)⟩

end Elements

/-- Both names are defined, one after the other. -/
theorem bindElement_preserves (sound : before.store.Sound) {scope : LocalsId}
    (ref : before.store.known.ref scope) (index : Option Text) (element : Text) (position : Nat)
    {value : Value} (held : before.store.known.Holds value) :
    (bindElement scope index element position value).Preserves before fun _ _ => True := by
  cases index with
  | some name =>
    -- The element still exists after the first definition.
    exact .bind (.defineVariable sound ref name (Policy.holds_ofNat position))
      fun _ after leads _ => .defineVariable leads.sound (leads.evolves.ref ref) element
        (leads.evolves.holds held)
  | none => exact .defineVariable sound ref element held

/-! ### Handlers -/

/-- New texts for the lines of a backtrace.  By induction on the lines, from any sound store. -/
theorem newStrings_preserves (sound : before.store.Sound) (contents : List String) :
    (contents.mapM Action.newString).Preserves before fun store values =>
      ∀ value ∈ values, store.known.Holds value := by
  induction contents generalizing before with
  | nil => exact .answer sound nofun
  | cons content rest ih =>
    rw [List.mapM_cons]
    exact .bind (.newString sound content) fun _ _ leads first =>
      .bind (ih leads.sound) fun _ _ leads others => .answer leads.sound
        (List.forall_mem_cons.mpr ⟨leads.evolves.holds first, others⟩)

/-- The value for a handler exists: it was raised, or it is made here. -/
theorem exceptionOf_preserves (sound : before.store.Sound) {report : ErrorReport}
    (raises : before.store.known.Raises report.error) :
    (exceptionOf report).Preserves before fun store => store.known.Holds := by
  unfold exceptionOf
  split
  next value text same =>
    rw [same] at raises
    exact .answer sound raises
  next =>
    refine .bind (newStrings_preserves sound _) fun lines _ leads held => ?_
    refine .bind (.newList leads.sound held) fun backtrace withList leads holdsBacktrace => ?_
    refine .bind (.newText leads.sound _) fun nameKey _ leads₁ _ => ?_
    refine .bind (.newString leads₁.sound _) fun name withName leads₂ holdsName => ?_
    refine .bind (.newText leads₂.sound _) fun messageKey _ leads₃ _ => ?_
    refine .bind (.newString leads₃.sound _) fun message withMessage leads₄ holdsMessage => ?_
    refine .bind (.newText leads₄.sound _) fun backtraceKey last leads₅ _ => ?_
    -- What was made first still exists when the object is made.
    have afterName : withName.store.Leads last.store := leads₃.trans (leads₄.trans leads₅)
    have afterList : withList.store.Leads last.store := leads₁.trans (leads₂.trans afterName)
    refine .newObject leads₅.sound (last.store.known.shared .exception) (.ofList _) (.ofList ?_)
    exact List.forall_mem_cons.mpr ⟨afterName.evolves.holds holdsName,
      List.forall_mem_cons.mpr ⟨leads₅.evolves.holds holdsMessage,
        List.forall_mem_singleton.mpr (afterList.evolves.holds holdsBacktrace)⟩⟩

end SlotTalk
