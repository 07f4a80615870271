import SlotTalk.Host
import SlotTalk.Proofs.ConfinedScript
import SlotTalk.Proofs.Moments

namespace SlotTalk

/-!
# Sessions

A session is a new engine on which programs were run one after the other.  What every step on the
store keeps holds after a session if it holds of the store of a new engine, and so does a policy
that allows the programs.

* `Engine.Session` — programs run one after the other on a new engine.
* `Engine.jobOf`, `Engine.finishes_of_run` — the evaluation of a program, and how it ends.
* `Store.Kept.session` — what is kept all the time.
* `Policy.ends_of_run`, `Policy.closed_of_session` — what is kept by programs that a policy allows.
-/

/-- The programs were run one after the other at the top level of a new engine, and each of them
    ended. -/
inductive Engine.Session (config : Config) : List Node → Engine → Prop where
  | fresh : Session config [] (.new config)
  | run {programs : List Node} {before after : Engine} {fuel : Nat} {program : Node}
    {result : Except ErrorReport Value} (earlier : Session config programs before)
    (ended : before.run fuel program = some (result, after)) :
    Session config (programs ++ [program]) after

/-- The evaluation of a program that was loaded. -/
def Engine.jobOf (engine : Engine) (program : Node) : Job :=
  .eval (engine.load program).1 World.moduleLocals

variable {engine after : Engine} {program : Node} {fuel : Nat} {result : Except ErrorReport Value}

/-- What a host gets is how the evaluation of the program ends. -/
theorem Engine.finishes_of_run (ended : engine.run fuel program = some (result, after)) :
    ∃ outcome, Finishes (engine.jobOf program) (engine.load program).2 outcome after
      ∧ result = Engine.finish outcome := by
  obtain ⟨⟨outcome, state⟩, evaluated, same⟩ := Option.map_eq_some_iff.mp ended
  obtain ⟨rfl, rfl⟩ := Prod.mk.inj same
  exact ⟨outcome, ⟨fuel, evaluated⟩, rfl⟩

/-- What every step on the store keeps is kept by whole programs. -/
theorem Store.Kept.session {property : Store → Prop} (kept : Store.Kept property)
    {config : Config} {programs : List Node} (session : Engine.Session config programs engine)
    (start : property (World.store config.label)) : property engine.store := by
  induction session with
  | fresh => exact start
  | run earlier ended ih =>
    obtain ⟨outcome, finished, -⟩ := Engine.finishes_of_run ended
    exact kept.finishes finished ih

namespace Policy

variable {policy : Policy}

/-- A program that may be evaluated ends as the policy says, and leaves everything closed. -/
theorem ends_of_run (closed : policy.Closed engine.store)
    (may : policy.node (engine.load program).1)
    (ended : engine.run fuel program = some (result, after)) :
    ∃ outcome, result = Engine.finish outcome ∧ (engine.jobOf program).Gives outcome
      ∧ policy.Outcome policy.Holds outcome ∧ policy.Closed after.store := by
  obtain ⟨outcome, finished, same⟩ := Engine.finishes_of_run ended
  obtain ⟨given, holds, step⟩ :=
    (confinement_kept _ _).finishes finished ⟨⟨may, policy.topScope⟩, .refl closed⟩
  exact ⟨outcome, same, given, holds, step.closed⟩

/-- What is left at some moment of a program that may be evaluated keeps to the contract. -/
theorem keeps_of_reaches (closed : policy.Closed engine.store)
    (may : policy.node (engine.load program).1) {inside : List Activation} {rest : Script Value}
    {state : Engine} (reached : (Script.evaluate (engine.jobOf program)).Reaches
      (engine.load program).2 inside rest state) :
    ∃ post, rest.Keeps (policy.contract engine.store) state post := by
  have confined : (Script.evaluate (engine.jobOf program)).Confined policy policy.Holds :=
    .evaluate ⟨may, policy.topScope⟩
  have kept := confined.keeps_of_reaches reached
  exact kept closed

/-- Programs that may be evaluated leave everything closed. -/
theorem closed_of_session {config : Config} {programs : List Node}
    (session : Engine.Session config programs engine)
    (start : policy.Closed (World.store config.label))
    (may : ∀ program ∈ programs, ∀ engine : Engine, policy.node (engine.load program).1) :
    policy.Closed engine.store := by
  induction session with
  | fresh => exact start
  | run earlier ended ih =>
    obtain ⟨before, last⟩ := List.forall_mem_append.mp may
    obtain ⟨-, -, -, -, closed⟩ := ends_of_run (ih before) (last _ List.mem_cons_self _) ended
    exact closed

end Policy

end SlotTalk
