import SlotTalk.Host
import SlotTalk.Proofs.Calculation
import SlotTalk.Proofs.Trace
import SlotTalk.Proofs.VariableAccess

namespace SlotTalk

/-!
# Loops that count

A loop from one integer to another makes as many runs of its body as the step fits in between, and
each run finds the counter where it belongs, whatever the sizes of the integers.

* `Counting.rounds` — the number of runs.
* `Counting.within_iff` — which steps from the start lie in the range.
* `Counting.Tests`, `Counting.Steady` — the states in which the counter is tested, and bodies that
  leave the counter alone.
* `Counting.loop_trace`, `forLoop_trace` — the runs of a loop, one after the other.
* `for_loop_visits_its_range` — all of it for loops as they are written.
-/

/-! ### The range -/

namespace Counting

/-- How often the body of a loop with these bounds and this step is run. -/
def rounds (start stop step : Int) : Nat :=
  if step = 0 ∨ (0 < step ∧ stop < start) ∨ (step < 0 ∧ start ≤ stop) then 0
  else (stop - start).natAbs / step.natAbs + 1

theorem within_some_iff (ascending : Bool) (x y : Int) :
    within ascending (some (compare x y)) = true ↔ if ascending then x ≤ y else y ≤ x := by
  rcases Int.lt_trichotomy x y with below | same | above
  · rw [Int.compare_eq_lt.mpr below]
    cases ascending <;> simp [within] <;> omega
  · rw [Int.compare_eq_eq.mpr same]
    cases ascending <;> simp [within] <;> omega
  · rw [Int.compare_eq_gt.mpr above]
    cases ascending <;> simp [within] <;> omega

theorem pointsInside_iff (start stop step : Int) :
    pointsInside (decide (start ≤ stop)) (some (compare step 0)) = true
      ↔ rounds start stop step ≠ 0 := by
  rcases Int.lt_trichotomy step 0 with below | same | above
  · rw [Int.compare_eq_lt.mpr below]
    simp only [pointsInside, rounds]
    split <;> simp <;> omega
  · rw [Int.compare_eq_eq.mpr same]
    simp [pointsInside, rounds, same]
  · rw [Int.compare_eq_gt.mpr above]
    simp only [pointsInside, rounds]
    split <;> simp <;> omega

/-- From the start, as many steps stay in the range as there are rounds. -/
theorem within_iff {start stop step : Int} (runs : rounds start stop step ≠ 0) (i : Nat) :
    within (decide (start ≤ stop)) (some (compare (start + i * step) stop)) = true
      ↔ i < rounds start stop step := by
  have inside : ¬ (step = 0 ∨ (0 < step ∧ stop < start) ∨ (step < 0 ∧ start ≤ stop)) := by
    intro outside
    rw [rounds, if_pos outside] at runs
    exact runs rfl
  have positive : 0 < step.natAbs := by omega
  have count : i < rounds start stop step ↔ i * step.natAbs ≤ (stop - start).natAbs := by
    rw [rounds, if_neg inside, Nat.lt_succ_iff, Nat.le_div_iff_mul_le positive]
  -- The way that was made is as long as the steps say, in the direction of the step.
  have way : ((i * step.natAbs : Nat) : Int) = if 0 < step then i * step else -(i * step) := by
    rw [Int.natCast_mul]
    split
    next up => rw [Int.natAbs_of_nonneg (Int.le_of_lt up)]
    next down => rw [Int.ofNat_natAbs_of_nonpos (Int.not_lt.mp down), Int.mul_neg]
  rw [within_some_iff, count]
  generalize i * step.natAbs = length at way ⊢
  split at way <;> simp only [decide_eq_true_eq] <;> split <;> omega

/-- Ten, seven, four and one. -/
example : rounds 10 1 (-3) = 4 := by decide

end Counting

/-! ### The counter -/

/-- The name has a value in the scope that denotes the integer. -/
def Store.Reads (store : Store) (scope : LocalsId) (name : String) (n : Int) : Prop :=
  ∃ value, store.readVariable? scope name = some value ∧ value.int? = some n

namespace Counting

variable {counting : Counting} {scope : LocalsId} {engine : Engine} {stop step n : Int}

theorem value_on {value : Value}
    (reads : engine.store.readVariable? scope counting.counter.content = some value) :
    (counting.value scope).on engine = (.ok value, engine) := by
  show (Except.ok ((engine.store.readVariable? scope counting.counter.content).getD .nil),
    engine) = _
  rw [reads]
  rfl

theorem inRange_on (ends : counting.stop.int? = some stop)
    (reads : engine.store.Reads scope counting.counter.content n) :
    (counting.inRange scope).on engine
      = (.ok (within counting.ascending (some (compare n stop))), engine) := by
  obtain ⟨value, same, denotes⟩ := reads
  rw [inRange, Action.on_bind, value_on same]
  dsimp only
  rw [Number.compare_of_int denotes ends]
  rfl

/-- The counter is advanced by the step, wherever it is kept. -/
theorem advance_on (stepIs : counting.step.int? = some step)
    (reads : engine.store.Reads scope counting.counter.content n) :
    ∃ after, (counting.advance scope).on engine = (.ok (), after)
      ∧ after.store.Reads scope counting.counter.content (n + step) := by
  obtain ⟨value, same, denotes⟩ := reads
  obtain ⟨next, between, calculated, store, denotes', -⟩ :=
    Action.ofCalculation_on (.ofInt (n + step)) engine
  obtain ⟨after, updated, reads⟩ := Store.updateVariable_reads next (store ▸ same)
  refine ⟨after, ?_, next, reads, denotes'.trans (Value.int?_ofInt _)⟩
  rw [advance, Action.on_bind, value_on same]
  dsimp only
  rw [Number.add_of_int denotes stepIs, Action.on_bind, calculated]
  exact updated

/-! ### Runs -/

/-- The run of the body ended normally or with a `continue`. -/
inductive GoesOn : Except Unwind Value → Prop where
  | value (value : Value) : GoesOn (.ok value)
  | continued : GoesOn (.error .continued)

/-- Starting with the first state, the loop comes to test the counter in the other one, after some
    runs of the body. -/
inductive Tests (counting : Counting) (body : Node) (scope : LocalsId) (first : Engine) :
    Engine → Prop where
  | first : Tests counting body scope first first
  | next {state after next : Engine} {outcome : Except Unwind Value}
    (earlier : Tests counting body scope first state)
    (inside : (counting.inRange scope).on state = (.ok true, state))
    (ran : Finishes (.eval body scope) state outcome after) (goesOn : GoesOn outcome)
    (advanced : (counting.advance scope).on after = (.ok (), next)) :
    Tests counting body scope first next

/-- Each run of the body that the loop makes ends normally or with a `continue`, and leaves the
    counter as it was. -/
def Steady (counting : Counting) (body : Node) (scope : LocalsId) (first : Engine) : Prop :=
  ∀ state, counting.Tests body scope first state →
    (counting.inRange scope).on state = (.ok true, state) →
    ∃ outcome after, Finishes (.eval body scope) state outcome after ∧ GoesOn outcome
      ∧ ∀ n, state.store.Reads scope counting.counter.content n →
        after.store.Reads scope counting.counter.content n

/-- The value of the last run that ended normally, if there is one. -/
def lastValue (before : Value) (runs : List Answered) : Value :=
  (runs.filterMap fun run => run.outcome.toOption).getLast?.getD before

theorem lastValue_cons (before : Value) (run : Answered) (runs : List Answered) :
    lastValue before (run :: runs) = lastValue (run.outcome.toOption.getD before) runs := by
  rw [lastValue, lastValue, List.filterMap_cons]
  cases run.outcome.toOption with
  | none => rfl
  | some value => rw [List.getLast?_cons]; rfl

theorem lastValue_concat (before : Value) (runs : List Answered) (run : Answered) :
    lastValue before (runs ++ [run]) = run.outcome.toOption.getD (lastValue before runs) := by
  induction runs generalizing before with
  | nil => exact lastValue_cons before run []
  | cons other rest ih => rw [List.cons_append, lastValue_cons, ih, lastValue_cons]

variable {body : Node}

/-- One pass: the body is run, and the counter advanced. -/
theorem countingPass_trace {state after next : Engine} {outcome : Except Unwind Value}
    (last : Value) (inside : (counting.inRange scope).on state = (.ok true, state))
    (ran : Finishes (.eval body scope) state outcome after) (goesOn : GoesOn outcome)
    (advanced : (counting.advance scope).on after = (.ok (), next)) :
    (countingPass counting body scope last).Trace state
      [⟨.eval body scope, state, outcome, after⟩] (.ok (.proceed (outcome.toOption.getD last)))
      next := by
  cases goesOn with
  | value value => exact .act inside (.ask ran (.act advanced (.done _ next)))
  | continued => exact .act inside (.ask ran (.act advanced (.done _ next)))

/-- The last pass: the counter is out of the range. -/
theorem countingPass_trace_exit {state : Engine} (last : Value)
    (outside : (counting.inRange scope).on state = (.ok false, state)) :
    (countingPass counting body scope last).Trace state [] (.ok (.exit last)) state :=
  .act outside (.done _ state)

/-- The runs of a loop that comes to test the counter when it has the given value: as many as steps
    from there lie in the range, each with the counter one step further. -/
theorem loop_trace {first state : Engine} (ends : counting.stop.int? = some stop)
    (stepIs : counting.step.int? = some step) (steady : counting.Steady body scope first)
    (tests : counting.Tests body scope first state) (left : Nat)
    (range : ∀ i : Nat,
      within counting.ascending (some (compare (n + i * step) stop)) = true ↔ i < left)
    (reads : state.store.Reads scope counting.counter.content n) (last : Value) :
    ∃ runs final, runs.length = left
      ∧ (∀ (i : Nat) (run : Answered), runs[i]? = some run → run.job = .eval body scope
        ∧ run.before.store.Reads scope counting.counter.content (n + i * step))
      ∧ final.store.Reads scope counting.counter.content (n + left * step)
      ∧ ∀ passes, left < passes → (Script.loop (countingPass counting body scope) passes last).Trace
        state runs (.ok (lastValue last runs)) final := by
  induction left generalizing n state last with
  | zero =>
    have outside : ¬ within counting.ascending (some (compare n stop)) = true := by
      have start := mt (range 0).mp (Nat.lt_irrefl 0)
      rwa [Int.natCast_zero, Int.zero_mul, Int.add_zero] at start
    have tested := inRange_on ends reads
    rw [Bool.eq_false_iff.mpr outside] at tested
    refine ⟨[], state, rfl, fun i run mem => ?_, ?_, fun passes enough => ?_⟩
    · cases List.getElem?_nil.symm.trans mem
    · rwa [Int.natCast_zero, Int.zero_mul, Int.add_zero]
    · obtain ⟨passes, rfl⟩ := Nat.exists_eq_add_of_le' enough
      exact (countingPass_trace_exit last tested).bind (.done _ state)
  | succ left ih =>
    have inside : within counting.ascending (some (compare n stop)) = true := by
      have start := (range 0).mpr (Nat.succ_pos left)
      rwa [Int.natCast_zero, Int.zero_mul, Int.add_zero] at start
    have tested := inRange_on ends reads
    rw [inside] at tested
    obtain ⟨outcome, after, ran, goesOn, keeps⟩ := steady state tests tested
    obtain ⟨next, advanced, reads'⟩ := advance_on stepIs (keeps n reads)
    -- One step further on, one step less is left.
    have shift : ∀ i : Nat, n + step + i * step = n + (i + 1 : Nat) * step := fun i => by
      rw [Int.natCast_add, Int.add_mul, Int.natCast_one, Int.one_mul]
      omega
    obtain ⟨runs, final, length, ordered, reads'', trace⟩ :=
      ih (.next tests tested ran goesOn advanced)
        (fun i => by rw [shift, range, Nat.add_lt_add_iff_right]) reads'
        (outcome.toOption.getD last)
    refine ⟨⟨.eval body scope, state, outcome, after⟩ :: runs, final, ?_, ?_, ?_, ?_⟩
    · rw [List.length_cons, length]
    · intro i run mem
      cases i with
      | zero =>
        obtain rfl := Option.some.inj mem
        refine ⟨rfl, ?_⟩
        rwa [Int.natCast_zero, Int.zero_mul, Int.add_zero]
      | succ i =>
        obtain ⟨job, sees⟩ := ordered i run mem
        exact ⟨job, shift i ▸ sees⟩
    · exact shift left ▸ reads''
    · intro passes enough
      obtain ⟨passes, rfl⟩ := Nat.exists_eq_add_of_le' (Nat.lt_of_le_of_lt (Nat.zero_le _) enough)
      rw [lastValue_cons]
      exact (countingPass_trace last tested ran goesOn advanced).bind
        (trace passes (Nat.lt_of_succ_lt_succ enough))

end Counting

/-! ### Loops -/

theorem expectNumbers_on {values : List Value} (numbers : ∀ value ∈ values, value.isNumber = true)
    (engine : Engine) : (expectNumbers values).on engine = (.ok (), engine) := by
  induction values with
  | nil => rfl
  | cons value rest ih =>
    obtain ⟨first, others⟩ := List.forall_mem_cons.mp numbers
    rw [expectNumbers, if_pos first]
    exact ih others

/-- A loop ascends if it ends where it starts, or above. -/
theorem Counting.ascending_eq (start stop : Int) :
    (some (compare stop start) == some .gt || some (compare stop start) == some .eq)
      = decide (start ≤ stop) := by
  rcases Int.lt_trichotomy stop start with below | same | above
  · rw [Int.compare_eq_lt.mpr below, decide_eq_false (Int.not_le.mpr below)]
    rfl
  · rw [Int.compare_eq_eq.mpr same, decide_eq_true (Int.le_of_eq same.symm)]
    rfl
  · rw [Int.compare_eq_gt.mpr above, decide_eq_true (Int.le_of_lt above)]
    rfl

open Counting (rounds lastValue)

/-- The runs of a loop whose bounds and step are integers. -/
theorem forLoop_trace {counter : Text} {start stop step : Value} {body : Node} {scope : LocalsId}
    {ready : Engine} {a b d : Int} (first : start.int? = some a) (last : stop.int? = some b)
    (stepIs : step.int? = some d) (definable : ready.store.Definable scope)
    (steady : rounds a b d ≠ 0 → ∀ defined,
      (Action.defineVariable scope counter start).on ready = (.ok (), defined) →
      Counting.Steady ⟨counter, stop, step, decide (a ≤ b)⟩ body scope defined) :
    ∃ runs final, runs.length = rounds a b d
      ∧ (∀ (i : Nat) (run : Answered), runs[i]? = some run → run.job = .eval body scope
        ∧ run.before.store.Reads scope counter.content (a + i * d))
      ∧ final.store.Reads scope counter.content (a + rounds a b d * d)
      ∧ ∀ passes, rounds a b d < passes →
        (forLoop counter start stop step body scope passes).Trace ready runs
          (.ok (lastValue .nil runs)) final := by
  obtain ⟨defined, done, reads⟩ := definable.defines counter start
  -- All that comes before the first test of the counter.
  have header : ∀ {passes asked outcome final},
      (if Counting.pointsInside (decide (a ≤ b)) (some (compare d 0)) then
          Script.loop (countingPass ⟨counter, stop, step, decide (a ≤ b)⟩ body scope) passes .nil
        else return .nil : Script Value).Trace defined asked outcome final →
      (forLoop counter start stop step body scope passes).Trace ready asked outcome final := by
    intro passes asked outcome final trace
    have numbers : ∀ value ∈ [start, stop, step], value.isNumber = true :=
      List.forall_mem_cons.mpr ⟨Value.isNumber_of_int first, List.forall_mem_cons.mpr
        ⟨Value.isNumber_of_int last, List.forall_mem_singleton.mpr (Value.isNumber_of_int stepIs)⟩⟩
    have direction : (Action.ofExcept (Number.compare stop start)).on ready
        = (.ok (some (compare b a)), ready) := by
      rw [Number.compare_of_int last first]
      rfl
    have zero : (Value.int 0).int? = some 0 := rfl
    have heading : (Action.ofExcept (Number.compare step (.int 0))).on ready
        = (.ok (some (compare d 0)), ready) := by
      rw [Number.compare_of_int stepIs zero]
      rfl
    rw [← Counting.ascending_eq] at trace
    exact .act (expectNumbers_on numbers ready) (.act direction (.act heading (.act done trace)))
  by_cases noRounds : rounds a b d = 0
  · have outside : ¬ Counting.pointsInside (decide (a ≤ b)) (some (compare d 0)) = true :=
      fun points => (Counting.pointsInside_iff a b d).mp points noRounds
    refine ⟨[], defined, noRounds.symm, fun i run mem => ?_, ⟨start, reads, ?_⟩, fun passes _ => ?_⟩
    · cases List.getElem?_nil.symm.trans mem
    · rw [noRounds, Int.natCast_zero, Int.zero_mul, Int.add_zero, first]
    · refine header ?_
      rw [if_neg outside]
      exact .done _ defined
  · obtain ⟨runs, final, length, ordered, reads', trace⟩ :=
      Counting.loop_trace last stepIs (steady noRounds defined done) .first _
        (Counting.within_iff noRounds) ⟨start, reads, first⟩ .nil
    refine ⟨runs, final, length, ordered, reads', fun passes enough => header ?_⟩
    rw [if_pos ((Counting.pointsInside_iff a b d).mpr noRounds)]
    exact trace passes enough

/-- Start, stop and step of a loop were evaluated, one after the other, and gave these values.  A
    step that is not written is one. -/
inductive HeaderEnds (scope : LocalsId) (start stop : Node) :
    Option Node → Engine → List Answered → Value → Value → Value → Engine → Prop where
  | implied {before between ready : Engine} {first last : Value}
    (starts : Finishes (.eval start scope) before (.ok first) between)
    (stops : Finishes (.eval stop scope) between (.ok last) ready) :
    HeaderEnds scope start stop none before
      [⟨.eval start scope, before, .ok first, between⟩,
       ⟨.eval stop scope, between, .ok last, ready⟩] first last (.int 1) ready
  | written {node : Node} {before between between' ready : Engine} {first last step : Value}
    (starts : Finishes (.eval start scope) before (.ok first) between)
    (stops : Finishes (.eval stop scope) between (.ok last) between')
    (steps : Finishes (.eval node scope) between' (.ok step) ready) :
    HeaderEnds scope start stop (some node) before
      [⟨.eval start scope, before, .ok first, between⟩,
       ⟨.eval stop scope, between, .ok last, between'⟩,
       ⟨.eval node scope, between', .ok step, ready⟩] first last step ready

theorem HeaderEnds.trace {scope : LocalsId} {start stop body : Node} {step : Option Node}
    {before ready final : Engine} {header runs : List Answered} {first last stride : Value}
    {counter : Text} {passes : Nat} {outcome : Except Unwind Value}
    (ended : HeaderEnds scope start stop step before header first last stride ready)
    (trace : (forLoop counter first last stride body scope passes).Trace ready runs outcome final) :
    (evalNode passes scope (.forLoop counter start stop step body)).Trace before (header ++ runs)
      outcome final := by
  cases ended with
  | implied starts stops => exact .ask starts (.ask stops trace)
  | written starts stops steps => exact .ask starts (.ask stops (.ask steps trace))

/-- **Counting.**  A loop from one integer to another, of any sizes, ends: in a scope in which what
    is defined is found, and with a body each of whose runs ends normally or with a `continue` and
    leaves the counter as it was, it evaluates its header and then its body, exactly as often as the
    bounds and the step say; the run with number `i`, from zero on, finds the counter `i` steps from
    the start.  After the last run the counter is one step further, and the value of the loop is
    that of the last run that ended normally, or nil. -/
theorem for_loop_visits_its_range {scope : LocalsId} {counter : Text} {start stop body : Node}
    {step : Option Node} {before ready : Engine} {header : List Answered}
    {first last stride : Value} {a b d : Int}
    (ended : HeaderEnds scope start stop step before header first last stride ready)
    (starts : first.int? = some a) (stops : last.int? = some b) (steps : stride.int? = some d)
    (definable : ready.store.Definable scope)
    (steady : rounds a b d ≠ 0 → ∀ defined,
      (Action.defineVariable scope counter first).on ready = (.ok (), defined) →
      Counting.Steady ⟨counter, last, stride, decide (a ≤ b)⟩ body scope defined) :
    ∃ runs final, runs.length = rounds a b d
      ∧ (∀ (i : Nat) (run : Answered), runs[i]? = some run → run.job = .eval body scope
        ∧ run.before.store.Reads scope counter.content (a + i * d))
      ∧ final.store.Reads scope counter.content (a + rounds a b d * d)
      ∧ (∀ passes, rounds a b d < passes →
        (evalNode passes scope (.forLoop counter start stop step body)).Trace before
          (header ++ runs) (.ok (lastValue .nil runs)) final)
      ∧ Finishes (.eval (.forLoop counter start stop step body) scope) before
        (.ok (lastValue .nil runs)) final := by
  obtain ⟨runs, final, length, ordered, reads, trace⟩ :=
    forLoop_trace starts stops steps definable steady
  have whole : ∀ passes, rounds a b d < passes →
      (doJob passes (.eval (.forLoop counter start stop step body) scope)).Trace before
        (header ++ runs) (.ok (lastValue .nil runs)) final := fun passes enough =>
    ended.trace (trace passes enough)
  exact ⟨runs, final, length, ordered, reads, whole, (whole _ (Nat.lt_succ_self _)).finishes⟩

/-- Counts from the last integer but one that fits in a word to the last. -/
def lastWords : Node :=
  .forLoop "i" (.integer 9223372036854775806) (.integer 9223372036854775807) none (.bool true)

/-- After two runs the counter is a big integer. -/
theorem counter_leaves_the_words :
    ∃ runs final, runs.length = 2
      ∧ Finishes (.eval lastWords World.moduleLocals) (Engine.new {}) (.ok (lastValue .nil runs))
        final
      ∧ final.store.Reads World.moduleLocals "i" 9223372036854775808 := by
  have literal : ∀ word, Finishes (.eval (.integer word) World.moduleLocals) (Engine.new {})
      (.ok (.int word)) (Engine.new {}) := fun word => ⟨1, rfl⟩
  have definable : (Engine.new {}).store.Definable World.moduleLocals :=
    .top rfl rfl (show 2 < 19 by decide) rfl rfl
  have body : ∀ state, Finishes (.eval (.bool true) World.moduleLocals) state (.ok (.bool true))
      state := fun _ => ⟨1, rfl⟩
  obtain ⟨runs, final, length, -, reads, -, finished⟩ :=
    for_loop_visits_its_range (.implied (literal 9223372036854775806) (literal 9223372036854775807))
      rfl rfl rfl definable fun _ _ _ state _ _ =>
        ⟨.ok (.bool true), state, body state, .value _, fun _ reads => reads⟩
  exact ⟨runs, final, length, finished, reads⟩

end SlotTalk
