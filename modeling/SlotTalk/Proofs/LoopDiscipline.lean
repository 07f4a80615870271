import SlotTalk.Proofs.Session
import SlotTalk.Proofs.WrittenCode

namespace SlotTalk

/-!
# The loop discipline

Where each `break` and `continue` is written in the body of a loop, none of them ever comes to the
end of an activation or of a program.  Code that runs is found in slots, variables and lists, and so
this is a matter of all code in the store: it was written in one of the programs run so far.

* `loopDiscipline` — the policy of evaluating only what is well placed.
* `session_closed` — after well placed programs all code in the store is well placed.
* `Script.Fails`, `no_signal_outside_loops` — no step of a well placed program fails for a signal
  that found no loop.
-/

/-- The next step of the script fails with the error: its action does, or the job that it asks for
    ends with a report of the error. -/
inductive Script.Fails : Script Value → Engine → RuntimeError → Prop where
  | act {β : Type} {action : Action β} {next : β → Script Value} {state after : Engine}
    {error : RuntimeError} (failed : action.on state = (.error error, after)) :
    Fails (act action next) state error
  | ask {job : Job} {next : Except Unwind Value → Script Value} {state after : Engine}
    {report : ErrorReport} (failed : Finishes job state (.error (.failed report)) after) :
    Fails (ask job next) state report.error

/-- A step of a script that keeps to a policy fails only with errors that may be raised. -/
theorem Policy.raises_of_fails {policy : Policy} {base : Store} {script : Script Value}
    {state : Engine} {error : RuntimeError} (failed : script.Fails state error)
    {post : Except Unwind Value → Engine → Prop}
    (keeps : script.Keeps (policy.contract base) state post) : policy.Raises error := by
  cases failed with
  | act failed => exact keeps.2.1 _ _ failed
  | ask failed => exact ((confinement_kept policy base).finishes failed keeps.2.1).2.1

/-- All cells may be held, and what is evaluated has no stray signals in its literals. -/
def loopDiscipline : Policy :=
  { Policy.everything with
    node := Node.LiteralsEnclosed
    stray := False
    empty := .of_parts nofun nofun nofun
    part := fun enclosed mem inner code within => enclosed inner code (.part mem within)
    body := fun enclosed loop inner code within => enclosed inner code (.body loop within)
    literal := fun enclosed written =>
      ⟨fun inner other within => enclosed inner other (.literal written within),
        .inr (enclosed _ _ .here written)⟩
    closes := fun _ _ => trivial }

namespace loopDiscipline

theorem lenient : loopDiscipline.Lenient := ⟨fun _ => trivial, fun _ => trivial⟩

theorem runs_default : loopDiscipline.Runs default :=
  ⟨loopDiscipline.empty, .inr (.of_parts nofun nofun)⟩

/-- A new engine holds no code but its built-ins. -/
theorem closed_new (config : Config) : loopDiscipline.Closed (Engine.new config).store :=
  lenient.closed_of_code (fun _ => runs_default) (fun _ => ⟨runs_default, trivial⟩)
    fun _ => ⟨runs_default, trivial⟩

end loopDiscipline

/-! ### Runs of programs -/

section Runs

variable {engine after : Engine} {program : Node} (closed : loopDiscipline.Closed engine.store)
  (placed : program.WellPlaced)
include closed placed

/-- No step of its evaluation fails for a stray signal. -/
theorem no_stray_step {inside : List Activation} {rest : Script Value} {state : Engine}
    (reached : (Script.evaluate (engine.jobOf program)).Reaches (engine.load program).2 inside
      rest state) (signal : String) : ¬ rest.Fails state (.signalOutsideLoop signal) := by
  -- What is left of a script at some moment keeps to the contract that the whole of it keeps to.
  obtain ⟨post, later⟩ :=
    Policy.keeps_of_reaches closed (wellPlaced_load engine placed).2 reached
  exact fun failed => Policy.raises_of_fails failed later

/-- Its end is no stray signal, and leaves only code that is well placed. -/
theorem program_ends {fuel : Nat} {result : Except ErrorReport Value}
    (ended : engine.run fuel program = some (result, after)) :
    loopDiscipline.Closed after.store
      ∧ ∀ report signal, result = .error report → report.error ≠ .signalOutsideLoop signal := by
  obtain ⟨outcome, rfl, given, holds, closed'⟩ :=
    Policy.ends_of_run closed (wellPlaced_load engine placed).2 ended
  refine ⟨closed', fun report signal failed same => ?_⟩
  -- A signal at the end of the program would be free in it.
  have enclosed := (wellPlaced_load engine placed).1
  match outcome with
  | .error (.failed inner) =>
    obtain rfl := Except.error.inj failed
    have raised : loopDiscipline.Raises inner.error := holds
    rw [same] at raised
    exact raised
  | .error (.broke value) => exact enclosed.1 (given .breaks rfl)
  | .error .continued => exact enclosed.2 (given .continues rfl)
  | .ok value | .error (.returned value) => exact nomatch failed

end Runs

/-- **Code.** After programs that are well placed, all code in the store is well placed. -/
theorem session_closed {config : Config} {programs : List Node} {engine : Engine}
    (session : Engine.Session config programs engine)
    (placed : ∀ program ∈ programs, program.WellPlaced) : loopDiscipline.Closed engine.store :=
  Policy.closed_of_session session (loopDiscipline.closed_new config) fun program mem engine =>
    (wellPlaced_load engine (placed program mem)).2

/-- **Loops.** After any number of programs that are well placed, and each of which ended, a further
    such program is run without a signal that found no loop: at no moment of its evaluation does a
    step fail for one, whether the error is caught later or not and whether the evaluation ends or
    not, and no end of the run is one. -/
theorem no_signal_outside_loops {config : Config} {programs : List Node} {engine : Engine}
    (session : Engine.Session config programs engine)
    (earlier : ∀ program ∈ programs, program.WellPlaced) {program : Node}
    (placed : program.WellPlaced) (signal : String) :
    (∀ inside rest state,
        (Script.evaluate (engine.jobOf program)).Reaches (engine.load program).2 inside rest
          state → ¬ rest.Fails state (.signalOutsideLoop signal))
      ∧ ∀ fuel report after, engine.run fuel program = some (.error report, after) →
        report.error ≠ .signalOutsideLoop signal := by
  have closed := session_closed session earlier
  constructor
  · exact fun inside rest state reached => no_stray_step closed placed reached signal
  · exact fun fuel report after ended => (program_ends closed placed ended).2 report signal rfl

/-- A block with a loop that is left at once. -/
def loopingBlock : Node :=
  .define none "f" (.block [] (.whileLoop (.bool true) (.breakLoop none)) false)

/-- A call of the block, under a handler. -/
def guardedCall : Node := .tryCatch (.send none "f" [] none) "e" .nil

theorem wellPlaced_loopingBlock : loopingBlock.WellPlaced := by
  have condition : (Node.bool true).WellPlaced :=
    ⟨.of_parts nofun nofun, .of_parts nofun nofun nofun⟩
  have broken : (Node.breakLoop none).LiteralsEnclosed := .of_parts nofun nofun nofun
  -- The `break` is the body of a loop, which is where it may be.
  have loop : (Node.whileLoop (.bool true) (.breakLoop none)).WellPlaced :=
    ⟨.of_parts nofun (List.forall_mem_singleton.mpr condition.1),
      .of_parts (List.forall_mem_singleton.mpr condition.2)
        (fun _ same => Option.some.inj same ▸ broken) nofun⟩
  have block : (Node.block [] (.whileLoop (.bool true) (.breakLoop none)) false).WellPlaced :=
    ⟨.of_parts nofun nofun, .of_parts nofun nofun fun _ same => Option.some.inj same ▸ loop⟩
  exact ⟨.of_parts nofun (List.forall_mem_singleton.mpr block.1),
    .of_parts (List.forall_mem_singleton.mpr block.2) nofun nofun⟩

theorem wellPlaced_guardedCall : guardedCall.WellPlaced := by
  have sent : (Node.send none "f" [] none).WellPlaced :=
    ⟨.of_parts nofun nofun, .of_parts nofun nofun nofun⟩
  have handler : Node.nil.WellPlaced := ⟨.of_parts nofun nofun, .of_parts nofun nofun nofun⟩
  exact ⟨.of_parts nofun
      (List.forall_mem_cons.mpr ⟨sent.1, List.forall_mem_singleton.mpr handler.1⟩),
    .of_parts (List.forall_mem_cons.mpr ⟨sent.2, List.forall_mem_singleton.mpr handler.2⟩)
      nofun nofun⟩

/-- The block is defined by one program and called by the next, which never sees a stray signal. -/
theorem guarded_call_after_looping_block :
    ∃ engine, Engine.Session {} [loopingBlock] engine
      ∧ ∀ inside rest state,
        (Script.evaluate (engine.jobOf guardedCall)).Reaches (engine.load guardedCall).2 inside rest
          state → ¬ rest.Fails state (.signalOutsideLoop "break") := by
  obtain ⟨result, engine, ended⟩ :
      ∃ result engine, (Engine.new {}).run 5 loopingBlock = some (result, engine) := ⟨_, _, rfl⟩
  have session : Engine.Session {} [loopingBlock] engine := .run .fresh ended
  have earlier : ∀ program ∈ [loopingBlock], program.WellPlaced :=
    List.forall_mem_singleton.mpr wellPlaced_loopingBlock
  exact ⟨engine, session,
    (no_signal_outside_loops session earlier wellPlaced_guardedCall "break").1⟩

end SlotTalk
