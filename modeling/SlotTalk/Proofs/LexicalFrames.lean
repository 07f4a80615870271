import SlotTalk.Proofs.SoundSession

namespace SlotTalk

/-!
# Frames are lexical

A frame lies inside one that was made before it, so that every walk outward ends.  It keeps its
place and its variables for good; all that a step can do to it is to write a variable or to add one.
The frame of the top level never gets a variable: what is defined there becomes a slot of `self`.

* `Store.WalksOut` — the frames that a name is looked for in.
* `Engine.DefinesOnSelf` — what a definition comes to at the top level.
* `frames_are_lexical` — all of it at each moment of any session.
-/

namespace Store

/-! ### Walks -/

/-- These are the frames from the first one outward.  Each is older than the ones inside it, and a
    name stands for a variable of the first of them that defines it. -/
structure WalksOut (store : Store) (start : FrameId) (frames : List FrameId) : Prop where
  chain : store.Chain start frames
  older : frames.Pairwise fun inner outer => outer.index < inner.index
  finds (name : String) : store.definingFrame? start name
    = frames.find? fun id => (store.frame id).vars.contains name

/-- By induction on the place of the frame, which is above that of the one around it. -/
theorem Lexical.exists_chain {store : Store} (lexical : store.Lexical) (start : FrameId) :
    ∃ frames, store.Chain start frames ∧ frames.length ≤ start.index + 1
      ∧ (∀ id ∈ frames, id.index ≤ start.index)
      ∧ frames.Pairwise fun inner outer => outer.index < inner.index := by
  obtain ⟨index⟩ := start
  induction index using Nat.strongRecOn with
  | ind index ih =>
    cases outer : (store.frame ⟨index⟩).outer with
    | none =>
      exact ⟨[⟨index⟩], .outermost outer, Nat.le_add_left 1 index,
        List.forall_mem_singleton.mpr (Nat.le_refl index), List.pairwise_singleton ..⟩
    | some next =>
      have older : next.index < index := lexical.older outer
      obtain ⟨frames, chain, length, below, ordered⟩ := ih next.index older
      have inside : ∀ id ∈ frames, id.index < index := fun id mem =>
        Nat.lt_of_le_of_lt (below id mem) older
      refine ⟨⟨index⟩ :: frames, .inside outer chain, ?_, ?_, ?_⟩
      · exact Nat.succ_le_succ (Nat.le_trans length older)
      · exact List.forall_mem_cons.mpr ⟨Nat.le_refl index, fun id mem =>
          Nat.le_of_lt (inside id mem)⟩
      · exact List.pairwise_cons.mpr ⟨inside, ordered⟩

/-- From a frame that exists, a walk has enough steps to come to the outermost one. -/
theorem Sound.walksOut {store : Store} (sound : store.Sound) {start : FrameId}
    (inFrames : start.index < store.frames.size) : ∃ frames, store.WalksOut start frames := by
  obtain ⟨frames, chain, length, -, older⟩ := sound.lexical.exists_chain start
  have enough : frames.length ≤ store.frames.size := Nat.le_trans length inFrames
  exact ⟨frames, chain, older, fun name => definingFrameWithin_eq_find? chain enough⟩

end Store

/-! ### The top level -/

/-- Both ways to define a name in a scope, with the scope as a target and without, write a slot of
    its `self`.  Where that is no object, they fail with a type error and change nothing. -/
def Engine.DefinesOnSelf (engine : Engine) (scope : LocalsId) : Prop :=
  ∀ (name : Text) (value : Value), ∀ define ∈
      [Action.defineVariable scope name value, defineOn (.locals scope) name value],
    (∀ id, (engine.store.scope scope).self = .object id →
      define.on engine = (.ok (), { engine with store := engine.store.putSlot id name value }))
    ∧ ((engine.store.scope scope).self.object? = none →
      define.on engine
        = (.error (.mismatch "Object" (engine.store.scope scope).self), engine))

theorem Engine.definesOnSelf_of_isModule {engine : Engine} {scope : LocalsId}
    (module : engine.store.isModule scope = true) : engine.DefinesOnSelf scope := by
  intro name value
  have both : ∀ define ∈
      [Action.defineVariable scope name value, defineOn (.locals scope) name value],
      define = Action.defineVariable scope name value :=
    List.forall_mem_cons.mpr ⟨rfl, List.forall_mem_singleton.mpr rfl⟩
  intro define mem
  have written : define.on engine = (do
      let self ← (engine.store.scope scope).self.expectObject
      Action.modifyStore (·.putSlot self name value) : Action Unit).on engine := by
    rw [both define mem]
    show (if engine.store.isModule scope then _ else _ : Action Unit).on engine = _
    rw [if_pos module]
  rw [written]
  generalize (engine.store.scope scope).self = self
  constructor
  · rintro id rfl
    rfl
  · intro noObject
    cases self with
    | object => exact nomatch noObject
    | _ => rfl

/-! ### Sessions -/

/-- What is true of the frames at any time. -/
structure Engine.FramesAreLexical (engine : Engine) : Prop where
  walks {start : FrameId} : start.index < engine.store.frames.size →
    ∃ frames, engine.store.WalksOut start frames
  bare : (engine.store.frame World.moduleFrame).vars.entries = []
  top {scope : LocalsId} : (engine.store.scope scope).frame = World.moduleFrame →
    engine.DefinesOnSelf scope

theorem Engine.framesAreLexical_of_sound {engine : Engine} (sound : engine.store.Sound) :
    engine.FramesAreLexical where
  walks := sound.walksOut
  bare := sound.lexical.bare
  top := fun {scope} same => by
    refine Engine.definesOnSelf_of_isModule ?_
    rw [Store.isModule, same, sound.lexical.top]
    rfl

/-- **Frames.**  At each moment of each program of a session, every walk outward ends, and goes to
    older frames all the way; the frame of the top level has no variables, and what is defined in
    any scope on it becomes a slot of the `self` of that scope, or fails.  So it is after the next
    step, whatever that is: each frame is still there then, with the same kind, context and
    enclosing frame, and with the variables that it had, in their order, before any new ones. -/
theorem frames_are_lexical {config : Config} {programs : List Node} {engine : Engine}
    (session : Engine.Session config programs engine) {program : Node}
    {inside : List Activation} {rest : Script Value} {state : Engine}
    (reached : (Script.evaluate (engine.jobOf program)).Reaches (engine.load program).2 inside rest
      state) :
    state.FramesAreLexical
      ∧ ∀ after, rest.Steps state after → after.FramesAreLexical
        ∧ ∀ id : FrameId, id.index < state.store.frames.size →
          id.index < after.store.frames.size
            ∧ (state.store.frame id).Evolves (after.store.frame id) := by
  have sound := Engine.sound_of_session session
  refine ⟨Engine.framesAreLexical_of_sound (Engine.sound_of_reaches sound reached), ?_⟩
  intro after steps
  have leads := Engine.leads_of_steps sound reached steps
  refine ⟨Engine.framesAreLexical_of_sound leads.sound, fun id inFrames => ⟨?_, ?_⟩⟩
  · exact Nat.lt_of_lt_of_le inFrames (leads.evolves.count .frame)
  · exact leads.evolves.frame inFrames

/-- Defines a name. -/
def topLevelDefinition : Node := .define none "x" (.integer 1)

/-- At the top level it becomes a slot of the lobby, and the frame stays without variables. -/
theorem top_level_definition_is_a_slot :
    ∃ rest state after, (Script.evaluate ((Engine.new {}).jobOf topLevelDefinition)).Reaches
        ((Engine.new {}).load topLevelDefinition).2 [] rest state
      ∧ rest.Steps state after
      ∧ after.store
        = state.store.putSlot lobbyObject (.numbered "x" World.nextIdentity) (.int 1)
      ∧ (after.store.frame World.moduleFrame).vars.entries = [] := by
  let name : Text := .numbered "x" World.nextIdentity
  let state := ((Engine.new {}).load topLevelDefinition).2
  let defining : Script Value :=
    .act (Action.defineVariable World.moduleLocals name (.int 1)) fun _ => .done (.ok (.int 1))
  have value : Finishes (.eval (.integer 1) World.moduleLocals) state (.ok (.int 1)) state :=
    ⟨1, rfl⟩
  have inner : (doJob 0 ((Engine.new {}).jobOf topLevelDefinition)).Reaches state [] defining
      state := .afterAsk value .here
  obtain ⟨lexical, onward⟩ := frames_are_lexical .fresh (.within inner)
  have steps : defining.Steps state _ := .act _ _ state
  have top : (state.store.scope World.moduleLocals).frame = World.moduleFrame := rfl
  have defines := (lexical.top top name (.int 1) _ List.mem_cons_self).1 lobbyObject rfl
  refine ⟨defining, state, _, .within inner, steps, ?_, (onward _ steps).1.bare⟩
  rw [defines]

end SlotTalk
