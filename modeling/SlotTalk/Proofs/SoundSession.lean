import SlotTalk.Proofs.SoundScript
import SlotTalk.Proofs.StateInvariants

namespace SlotTalk

/-!
# Sessions on sound stores

The store of a new engine is sound, and so it is sound after any programs, and at each moment of a
program that runs.

* `World.sound_store` — a new engine.
* `Engine.sound_of_session`, `Engine.leads_of_run` — after programs.
* `Script.Steps` — one action, or one job, of what is left of a script.
* `Engine.sound_of_reaches`, `Engine.leads_of_steps` — at each moment, and from one to the next.
-/

/-! ### A new engine -/

namespace World

/-- What may be held where the objects of a new engine may be. -/
theorem holds_slotsOf {policy : Policy} (index : Nat) {slots : List (String × Value)}
    (held : ∀ entry ∈ slots, policy.Holds entry.2) :
    (slotsOf index slots).All policy.Holds := by
  refine .ofList fun entry mem => ?_
  obtain ⟨⟨⟨key, value⟩, position⟩, numbered, rfl⟩ := List.mem_map.mp mem
  have original := held _ (List.fst_mem_of_mem_zipIdx numbered)
  cases value with
  | string => trivial
  | _ => exact original

theorem holds_prototypeObject {policy : Policy} (prototype : Prototype) :
    policy.HoldsObject (prototypeObject prototype) where
  prototype := by
    refine Policy.links_some ?_
    rw [parentOf]
    split
    · exact policy.lobby
    · exact policy.shared (.ofType .object)
  slots := by
    refine holds_slotsOf _ (List.forall_mem_cons.mpr ⟨trivial, fun entry mem => ?_⟩)
    obtain ⟨builtIn, -, rfl⟩ := List.mem_map.mp mem
    trivial

theorem holds_protos {policy : Policy} : policy.HoldsObject protos where
  prototype := Policy.links_some (policy.shared (.ofType .object))
  slots := by
    refine holds_slotsOf _ (List.forall_mem_append.mpr ⟨fun entry mem => ?_, ?_⟩)
    · obtain ⟨prototype, -, rfl⟩ := List.mem_map.mp mem
      exact policy.shared prototype
    · exact List.forall_mem_singleton.mpr trivial

theorem holds_lobby {policy : Policy} (ref : policy.ref protosObject) :
    policy.HoldsObject lobby where
  prototype := Policy.links_some ref
  slots := holds_slotsOf _ (by simp [Policy.Holds, policy.lobby, ref])

variable (label : String)

/-- A new engine refers to nothing but its own cells. -/
theorem linked_store : (store label).known.Linked (store label) where
  object {id} ref := by
    have inside : id.index < objects.size := ref.elim (fun below => below) fun below => below
    have listed : objects.toList = [prototypeObject (.ofType .object), protos, lobby]
        ++ (Prototype.all.drop 1).map prototypeObject := Array.toList_appendList
    have mem := object_mem label inside
    rw [listed, List.mem_append, List.mem_cons, List.mem_cons, List.mem_singleton] at mem
    rcases mem with (first | second | third) | others
    · exact first ▸ holds_prototypeObject _
    · exact second ▸ holds_protos
    · exact third ▸ holds_lobby (.inr (show 1 < 19 by decide))
    · obtain ⟨prototype, -, same⟩ := List.mem_map.mp others
      exact same ▸ holds_prototypeObject prototype
  list _ := Policy.holdsItems_empty
  map _ := .empty
  frame {id} _ := by
    rw [frame_store]
    exact ⟨trivial, .empty, Policy.links_none⟩
  scope {id} _ := by
    rw [scope_store]
    exact ⟨Policy.lobby _, .inr Nat.one_pos⟩
  call _ := ⟨Policy.topScope _, trivial, trivial, trivial, Policy.thread _⟩
  function _ := ⟨trivial, .inl trivial⟩
  block _ := ⟨⟨trivial, .inl trivial⟩, trivial, Policy.topScope _⟩
  method _ := ⟨⟨trivial, .inl trivial⟩, trivial, Policy.links_none⟩

theorem sound_store : (store label).Sound where
  founded cell := Nat.le_of_eq (count_store label cell).symm
  oneThread := rfl
  linked := linked_store label
  lexical :=
    { older := fun {id next} outer => by
        rw [frame_store] at outer
        exact nomatch outer
      single := fun {id} inside _ => congrArg Ref.mk (Nat.lt_one_iff.mp inside)
      top := rfl
      bare := rfl }
  calls inside := nomatch inside

end World

/-! ### Sessions -/

section Runs

variable {engine after : Engine} {program : Node}

/-- A program leads from a sound store to a sound store, and what it ends with exists. -/
theorem Engine.leads_of_run (sound : engine.store.Sound) {fuel : Nat}
    {result : Except ErrorReport Value} (ended : engine.run fuel program = some (result, after)) :
    engine.store.Leads after.store
      ∧ ∃ outcome, result = Engine.finish outcome
        ∧ after.store.known.Outcome after.store.known.Holds outcome := by
  obtain ⟨outcome, finished, same⟩ := Engine.finishes_of_run ended
  obtain ⟨leads, holds⟩ := (soundness_kept engine.store).finishes finished
    ⟨.refl sound, engine.store.known.topScope⟩
  exact ⟨leads, outcome, same, holds⟩

/-- After any programs the store is sound. -/
theorem Engine.sound_of_session {config : Config} {programs : List Node}
    (session : Engine.Session config programs engine) : engine.store.Sound := by
  induction session with
  | fresh => exact World.sound_store _
  | run earlier ended ih => exact (Engine.leads_of_run ih ended).1.sound

/-! ### Moments -/

/-- From the first state on, the script takes an action that leads to the second state, or has a job
    done that ends there. -/
inductive Script.Steps : Script Value → Engine → Engine → Prop where
  | act {β : Type} (action : Action β) (next : β → Script Value) (before : Engine) :
    Steps (act action next) before (action.on before).2
  | ask {job : Job} {next : Except Unwind Value → Script Value} {before after : Engine}
    {outcome : Except Unwind Value} (answered : Finishes job before outcome after) :
    Steps (ask job next) before after

variable (sound : engine.store.Sound) {inside : List Activation} {rest : Script Value}
  {state : Engine}
  (reached : (Script.evaluate (engine.jobOf program)).Reaches (engine.load program).2 inside rest
    state)
include sound reached

/-- At each moment of a program, what is left of it keeps to the contract. -/
theorem Engine.keeps_of_reaches : ∃ post, rest.Keeps (soundness engine.store) state post := by
  have start : engine.store.Leads (engine.load program).2.store := .refl sound
  have ref : (engine.load program).2.store.known.ref World.moduleLocals :=
    engine.store.known.topScope
  exact (soundness_kept engine.store).reaches reached (Script.Preserves.evaluate ref start)

theorem Engine.sound_of_reaches : state.store.Sound := by
  obtain ⟨post, keeps⟩ := Engine.keeps_of_reaches sound reached
  exact keeps.always.sound

/-- From one moment to the next the store evolves, and stays sound. -/
theorem Engine.leads_of_steps (steps : rest.Steps state after) :
    state.store.Leads after.store := by
  obtain ⟨post, keeps⟩ := Engine.keeps_of_reaches sound reached
  cases steps with
  | act => exact keeps.2.1
  | ask answered => exact ((soundness_kept engine.store).finishes answered keeps.2.1).1

end Runs

end SlotTalk
