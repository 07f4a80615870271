import SlotTalk.Proofs.Contract

namespace SlotTalk

/-!
# Traces

The trace of a script tells which jobs it has done, one after the other, and how each of them ends.
A script with a trace ends as the trace says, and so does the job that it is the script of.

* `Answered`, `Script.Trace` — a job that was done, and all of them in order.
* `Trace.bind`, `Trace.bind_error` — the trace of scripts that are put together.
* `Trace.of_acted`, `Trace.of_evaluate`, `Trace.of_bind`, `Trace.of_loop` — what the trace of a
  script is made of.
* `Trace.ends`, `Trace.finishes` — with enough fuel, scripts and jobs end as traced.
* `Script.exists_trace`, `Finishes.traced` — what ends has a trace.
* `Trace.ends_bind_iff`, `finishes_iff_ends` — how a script ends, by what is left of it.
-/

/-- A job that was asked for in one state, with how it ended and the state it left. -/
structure Answered where
  job : Job
  before : Engine
  outcome : Except Unwind Value
  after : Engine

namespace Script

variable {α β : Type}

/-- From the first state on, the script has these jobs done, and ends in this way and state. -/
inductive Trace : Script α → Engine → List Answered → Except Unwind α → Engine → Prop where
  | done (outcome : Except Unwind α) (before : Engine) :
    Trace (done outcome) before [] outcome before
  | act {γ : Type} {action : Action γ} {next : γ → Script α} {answer : γ}
    {before between after : Engine} {asked : List Answered} {outcome : Except Unwind α}
    (acted : action.on before = (.ok answer, between))
    (later : Trace (next answer) between asked outcome after) :
    Trace (act action next) before asked outcome after
  | failed {γ : Type} {action : Action γ} {next : γ → Script α} {error : RuntimeError}
    {before after : Engine} (acted : action.on before = (.error error, after)) :
    Trace (act action next) before [] (.error (.ofError error)) after
  | ask {job : Job} {next : Except Unwind Value → Script α} {answer : Except Unwind Value}
    {before between after : Engine} {asked : List Answered} {outcome : Except Unwind α}
    (answered : Finishes job before answer between)
    (later : Trace (next answer) between asked outcome after) :
    Trace (ask job next) before (⟨job, before, answer, between⟩ :: asked) outcome after

namespace Trace

/-- The trace of what comes first goes before that of the rest. -/
theorem bind {x : Script α} {f : α → Script β} {before between after : Engine}
    {asked asked' : List Answered} {value : α} {outcome : Except Unwind β}
    (first : x.Trace before asked (.ok value) between)
    (rest : (f value).Trace between asked' outcome after) :
    (x >>= f).Trace before (asked ++ asked') outcome after := by
  -- By induction on the trace of the first script, which ends with the value.
  generalize same : Except.ok value = result at first
  induction first with
  | done =>
    subst same
    exact rest
  | act acted later ih => exact .act acted (ih rest same)
  | failed => exact nomatch same
  | ask answered later ih => exact .ask answered (ih rest same)

/-- Where the first unwinds, nothing of the rest is done. -/
theorem bind_error {x : Script α} (f : α → Script β) {before after : Engine}
    {asked : List Answered} {unwind : Unwind}
    (first : x.Trace before asked (.error unwind) after) :
    (x >>= f).Trace before asked (.error unwind) after := by
  generalize same : Except.error unwind = result at first
  induction first with
  | done =>
    subst same
    exact .done _ _
  | act acted later ih => exact .act acted (ih same)
  | failed acted =>
    obtain rfl := Except.error.inj same
    exact .failed acted
  | ask answered later ih => exact .ask answered (ih same)

/-- A job that is evaluated ends the script as it ends. -/
theorem evaluated {job : Job} {before after : Engine} {outcome : Except Unwind Value}
    (answered : Finishes job before outcome after) :
    (Script.evaluate job).Trace before [⟨job, before, outcome, after⟩] outcome after :=
  .ask answered (.done outcome after)

/-- What the rest reaches after the first is reached by both together. -/
theorem reaches_bind {x : Script α} {f : α → Script Value} {before between state : Engine}
    {asked : List Answered} {value : α} {inside : List Activation} {rest : Script Value}
    (first : x.Trace before asked (.ok value) between)
    (reached : (f value).Reaches between inside rest state) :
    (x >>= f).Reaches before inside rest state := by
  generalize same : Except.ok value = result at first
  induction first with
  | done =>
    subst same
    exact reached
  | act acted later ih => exact .afterAct acted (ih reached same)
  | failed => exact nomatch same
  | ask answered later ih => exact .afterAsk answered (ih reached same)

/-! ### Parts -/

/-- A script that starts with an action goes on with its answer, or fails with it. -/
theorem of_act {γ : Type} {action : Action γ} {next : γ → Script α} {before after : Engine}
    {asked : List Answered} {outcome : Except Unwind α}
    (trace : (Script.act action next).Trace before asked outcome after) :
    (∃ answer between, action.on before = (.ok answer, between)
        ∧ (next answer).Trace between asked outcome after)
      ∨ ∃ error, action.on before = (.error error, after) ∧ asked = []
        ∧ outcome = .error (.ofError error) := by
  cases trace with
  | act acted later => exact .inl ⟨_, _, acted, later⟩
  | failed acted => exact .inr ⟨_, acted, rfl, rfl⟩

/-- Where the answer of the action is known, the script goes on with it. -/
theorem of_acted {γ : Type} {action : Action γ} {next : γ → Script α} {answer : γ}
    {before between after : Engine} {asked : List Answered} {outcome : Except Unwind α}
    (acted : action.on before = (.ok answer, between))
    (trace : (Script.act action next).Trace before asked outcome after) :
    (next answer).Trace between asked outcome after := by
  rcases of_act trace with ⟨answer', between', acted', later⟩ | ⟨error, failed, -⟩
  · obtain ⟨same, rfl⟩ := Prod.mk.inj (acted.symm.trans acted')
    obtain rfl := Except.ok.inj same
    exact later
  · exact nomatch acted.symm.trans failed

/-- An action that another script follows hands its answer on, or ends both with its error. -/
theorem of_ofAction {γ : Type} {action : Action γ} {f : γ → Script α} {before after : Engine}
    {asked : List Answered} {outcome : Except Unwind α}
    (trace : (ofAction action >>= f).Trace before asked outcome after) :
    (∃ answer between, action.on before = (.ok answer, between)
        ∧ (f answer).Trace between asked outcome after)
      ∨ ∃ error, action.on before = (.error error, after) ∧ asked = []
        ∧ outcome = .error (.ofError error) :=
  of_act trace

/-- A script that starts with a job has it done, and goes on with how it ended. -/
theorem of_answered {job : Job} {next : Except Unwind Value → Script α} {before after : Engine}
    {asked : List Answered} {outcome : Except Unwind α}
    (trace : (Script.ask job next).Trace before asked outcome after) :
    ∃ answer between rest, asked = ⟨job, before, answer, between⟩ :: rest
      ∧ Finishes job before answer between ∧ (next answer).Trace between rest outcome after := by
  cases trace with
  | ask answered later => exact ⟨_, _, _, rfl, answered, later⟩

/-- A script that starts with a job has it for the first entry of its trace. -/
theorem of_ask {job : Job} {next : Except Unwind Value → Script α} {before after : Engine}
    {asked : List Answered} {outcome : Except Unwind α}
    (trace : (Script.ask job next).Trace before asked outcome after) :
    ∃ first rest, asked = first :: rest ∧ first.job = job
      ∧ (next first.outcome).Trace first.after rest outcome after := by
  obtain ⟨answer, between, rest, rfl, -, later⟩ := of_answered trace
  exact ⟨_, rest, rfl, rfl, later⟩

/-- A script that has a job evaluated goes on with its value, or ends like it. -/
theorem of_evaluate {job : Job} {f : Value → Script α} {before after : Engine}
    {asked : List Answered} {outcome : Except Unwind α}
    (trace : (evaluate job >>= f).Trace before asked outcome after) :
    ∃ first rest, asked = first :: rest ∧ first.job = job
      ∧ ((∃ value, first.outcome = .ok value ∧ (f value).Trace first.after rest outcome after)
        ∨ ∃ unwind, first.outcome = .error unwind ∧ rest = [] ∧ outcome = .error unwind
          ∧ after = first.after) := by
  obtain ⟨⟨job, before, result, between⟩, rest, rfl, rfl, later⟩ := of_ask trace
  refine ⟨_, rest, rfl, rfl, ?_⟩
  cases result with
  | ok value => exact .inl ⟨value, rfl, later⟩
  | error unwind => cases later with | done => exact .inr ⟨unwind, rfl, rfl, rfl, rfl⟩

/-- Scripts that are put together end after the first, if that unwinds, or after both. -/
theorem of_bind {x : Script α} {f : α → Script β} {before after : Engine} {asked : List Answered}
    {outcome : Except Unwind β} (trace : (x >>= f).Trace before asked outcome after) :
    (∃ value between first rest, asked = first ++ rest ∧ x.Trace before first (.ok value) between
        ∧ (f value).Trace between rest outcome after)
      ∨ ∃ unwind, outcome = .error unwind ∧ x.Trace before asked (.error unwind) after := by
  -- By induction on the first script: each step of the trace is a step of the first, until it is
  -- done.
  induction x generalizing before asked with
  | done result =>
    cases result with
    | ok value => exact .inl ⟨value, before, [], asked, rfl, .done _ before, trace⟩
    | error unwind =>
      cases trace with
      | done => exact .inr ⟨unwind, rfl, .done _ _⟩
  | outOfFuel => exact nomatch trace
  | act action next ih =>
    rcases of_act trace with ⟨answer, between, acted, later⟩ | ⟨error, failed, rfl, rfl⟩
    · rcases ih answer later with
        ⟨value, middle, first, rest, rfl, left, right⟩ | ⟨unwind, same, left⟩
      · exact .inl ⟨value, middle, first, rest, rfl, .act acted left, right⟩
      · exact .inr ⟨unwind, same, .act acted left⟩
    · exact .inr ⟨_, rfl, .failed failed⟩
  | ask job next ih =>
    cases trace with
    | @ask _ _ answer _ between _ asked _ answered later =>
      rcases ih answer later with
        ⟨value, middle, first, rest, rfl, left, right⟩ | ⟨unwind, same, left⟩
      · exact .inl ⟨value, middle, _ :: first, rest, rfl, .ask answered left, right⟩
      · exact .inr ⟨unwind, same, .ask answered left⟩

/-- What holds of the last pass of a loop, and of any pass with the ones after it, holds of all its
    passes together. -/
theorem of_loop {σ : Type} {pass : σ → Script (Pass σ)}
    (property : σ → Engine → List Answered → Except Unwind Value → Engine → Prop)
    (proceeds : ∀ {state next before between after asked rest outcome},
      (pass state).Trace before asked (.ok (.proceed next)) between →
      property next between rest outcome after →
      property state before (asked ++ rest) outcome after)
    (exits : ∀ {state before after asked value},
      (pass state).Trace before asked (.ok (.exit value)) after →
      property state before asked (.ok value) after)
    (unwinds : ∀ {state before after asked unwind},
      (pass state).Trace before asked (.error unwind) after →
      property state before asked (.error unwind) after)
    {passes : Nat} {state : σ} {before after : Engine} {asked : List Answered}
    {outcome : Except Unwind Value}
    (trace : (loop pass passes state).Trace before asked outcome after) :
    property state before asked outcome after := by
  induction passes generalizing state before asked with
  | zero => exact nomatch trace
  | succ passes ih =>
    rcases of_bind trace with ⟨result, between, first, rest, rfl, one, others⟩ | ⟨unwind, rfl, one⟩
    · cases result with
      | proceed next => exact proceeds one (ih others)
      | exit value =>
        cases others with
        | done => exact (List.append_nil first).symm ▸ exits one
    · exact unwinds one

/-! ### Ends -/

/-- By induction on the trace: the jobs and the rest end with the greater amount of fuel. -/
theorem ends {x : Script α} {before after : Engine} {asked : List Answered}
    {outcome : Except Unwind α} (trace : x.Trace before asked outcome after) :
    x.Ends before outcome after := by
  induction trace with
  | done => exact ⟨0, rfl⟩
  | act acted later ih =>
    obtain ⟨fuel, ends⟩ := ih
    refine ⟨fuel, ?_⟩
    rw [Script.run, acted]
    exact ends
  | failed acted =>
    refine ⟨0, ?_⟩
    rw [Script.run, acted]
  | @ask job next answer before between after asked outcome answered later ih =>
    obtain ⟨fuel, ends⟩ := ih
    obtain ⟨fuel', answers⟩ := answered
    refine ⟨max fuel fuel', ?_⟩
    rw [Script.run, evaluator_refines (Nat.le_max_right fuel fuel') job _ _ answers]
    exact Refines.of_evaluator (evaluator_refines (Nat.le_max_left fuel fuel')) _ _ _ ends

/-- A job ends as its script does. -/
theorem finishes {passes : Nat} {job : Job} {before after : Engine} {asked : List Answered}
    {outcome : Except Unwind Value} (trace : (doJob passes job).Trace before asked outcome after) :
    Finishes job before outcome after := by
  obtain ⟨fuel, ends⟩ := trace.ends
  let enough := max passes fuel
  have refines := evaluator_refines (Nat.le_max_right passes fuel)
  have better := doJob_refines refines (Nat.le_max_left passes fuel) job
  exact ⟨enough + 1, better before _ ends⟩

end Trace

/-- What a script has done by its end makes a trace. -/
theorem exists_trace {x : Script α} {fuel : Nat} {before after : Engine} {outcome : Except Unwind α}
    (ends : x.run (evaluator fuel) before = some (outcome, after)) :
    ∃ asked, x.Trace before asked outcome after := by
  -- By induction on the script: what it does with the fuel is what is noted.
  induction x generalizing before with
  | done result =>
    obtain ⟨rfl, rfl⟩ := Prod.mk.inj (Option.some.inj ends)
    exact ⟨[], .done _ _⟩
  | outOfFuel => exact nomatch ends
  | act action next ih =>
    rw [run] at ends
    split at ends
    next answer between acted =>
      obtain ⟨asked, later⟩ := ih answer ends
      exact ⟨asked, .act acted later⟩
    next error between failed =>
      obtain ⟨rfl, rfl⟩ := Prod.mk.inj (Option.some.inj ends)
      exact ⟨[], .failed failed⟩
  | ask job next ih =>
    rw [run] at ends
    split at ends
    next answer between answered =>
      obtain ⟨asked, later⟩ := ih answer ends
      exact ⟨_, .ask ⟨fuel, answered⟩ later⟩
    next => cases ends

/-! ### What is left to end -/

/-- Where it is known what comes first, what is left ends like the whole. -/
theorem Trace.rest_of_bind {x : Script α} {f : α → Script β} {before between after : Engine}
    {asked whole : List Answered} {value : α} {outcome : Except Unwind β}
    (first : x.Trace before asked (.ok value) between)
    (trace : (x >>= f).Trace before whole outcome after) :
    ∃ rest, (f value).Trace between rest outcome after := by
  generalize same : Except.ok value = result at first
  induction first generalizing whole with
  | done =>
    subst same
    exact ⟨whole, trace⟩
  | act acted later ih => exact ih (.of_acted acted trace) same
  | failed => exact nomatch same
  | ask answered later ih =>
    obtain ⟨other, between', rest, -, answered', trace'⟩ := Trace.of_answered trace
    obtain ⟨rfl, rfl⟩ := answered.unique answered'
    exact ih trace' same

/-- Where it is known what comes first, the whole ends just as what is left. -/
theorem Trace.ends_bind_iff {x : Script α} {f : α → Script β} {before between after : Engine}
    {asked : List Answered} {value : α} {outcome : Except Unwind β}
    (first : x.Trace before asked (.ok value) between) :
    (x >>= f).Ends before outcome after ↔ (f value).Ends between outcome after := by
  constructor
  · rintro ⟨fuel, ends⟩
    obtain ⟨whole, trace⟩ := exists_trace ends
    obtain ⟨rest, trace'⟩ := first.rest_of_bind trace
    exact trace'.ends
  · rintro ⟨fuel, ends⟩
    obtain ⟨rest, trace⟩ := exists_trace ends
    exact (first.bind trace).ends

/-- Where the answer of an action is known, the script ends just as what follows. -/
theorem ends_act_iff {γ : Type} {action : Action γ} {next : γ → Script α} {answer : γ}
    {before between after : Engine} {outcome : Except Unwind α}
    (acted : action.on before = (.ok answer, between)) :
    (act action next).Ends before outcome after ↔ (next answer).Ends between outcome after := by
  simp only [Ends, run, acted]

/-- A script that is done has ended. -/
theorem ends_done_iff {result outcome : Except Unwind α} {before after : Engine} :
    (done result).Ends before outcome after ↔ result = outcome ∧ before = after := by
  simp only [Ends, run, Option.some.injEq, Prod.mk.injEq, exists_const]

/-- Where an action is known to fail, the script ends with the error. -/
theorem ends_act_iff_of_error {γ : Type} {action : Action γ} {next : γ → Script α}
    {error : RuntimeError} {before between after : Engine} {outcome : Except Unwind α}
    (failed : action.on before = (.error error, between)) :
    (act action next).Ends before outcome after
      ↔ .error (.ofError error) = outcome ∧ between = after := by
  simp only [Ends, run, failed, Option.some.injEq, Prod.mk.injEq, exists_const]

/-- A script that fails ends with its error, and changes nothing. -/
theorem ends_fail_iff {error : RuntimeError} {outcome : Except Unwind α} {before after : Engine} :
    (fail error).Ends before outcome after
      ↔ .error (.ofError error) = outcome ∧ before = after := ends_act_iff_of_error rfl

/-- To run a job as a script is to evaluate it. -/
theorem run_evaluate (evaluate : Evaluator) (job : Job) (before : Engine) :
    (Script.evaluate job).run evaluate before = evaluate job before := by
  rw [Script.evaluate, run]
  cases evaluate job before <;> rfl

/-- A job that is evaluated ends just as the job. -/
theorem ends_evaluate_iff {job : Job} {outcome : Except Unwind Value} {before after : Engine} :
    (Script.evaluate job).Ends before outcome after ↔ Finishes job before outcome after := by
  simp only [Ends, run_evaluate, Finishes]

end Script

/-- A job whose script does not depend on passes ends like its script. -/
theorem finishes_iff_ends {job : Job} {script : Script Value}
    (same : ∀ passes, doJob passes job = script) {outcome : Except Unwind Value}
    {before after : Engine} :
    Finishes job before outcome after ↔ script.Ends before outcome after := by
  constructor
  · rintro ⟨fuel, ends⟩
    cases fuel with
    | zero => exact nomatch ends
    | succ fuel => exact ⟨fuel, same fuel ▸ ends⟩
  · rintro ⟨fuel, ends⟩
    exact ⟨fuel + 1, by rw [evaluator, same, ends]⟩

/-- A job that ends has a trace, with some number of passes. -/
theorem Finishes.traced {job : Job} {before after : Engine} {outcome : Except Unwind Value}
    (ended : Finishes job before outcome after) :
    ∃ passes asked, (doJob passes job).Trace before asked outcome after := by
  obtain ⟨fuel, ends⟩ := ended
  cases fuel with
  | zero => exact nomatch ends
  | succ fuel =>
    obtain ⟨asked, trace⟩ := Script.exists_trace ends
    exact ⟨fuel, asked, trace⟩

end SlotTalk
