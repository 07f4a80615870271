import SlotTalk.Proofs.Counting
import SlotTalk.Proofs.NodeShape

namespace SlotTalk

/-!
# The loop protocol

The three loops differ in their headers and in what they do between two runs of the body, but not in
what they make of the runs.  A run that gives a value or a `continue` is followed by the next pass;
any other is the last one, and decides how the loop ends.

* `Node.headerAmong`, `Node.runsAmong` — which of the evaluations of a loop are those of its header,
  and which the runs of its body.
* `Counting.TestsAfter`, `Elements.Left` — the states that a loop comes to between runs of its body.
* `Node.OwnStep`, `Node.Declines` — what a loop itself can fail with, and how it ends of its own, in
  such a state.
* `RunEnds`, `LoopEnds` — what a single run, and all of them, make of the loop.
* `loop_ends` — what holds of one pass, with what is kept up between passes, holds of the loop.
* `whileLoop_ends`, `forLoop_ends`, `forEach_ends` — the protocol for each loop.
* `loops_follow_one_protocol` — the protocol in terms of outcomes.
-/

open Counting (GoesOn lastValue)

/-! ### What a loop has evaluated -/

/-- Every second member of a list, from the first on. -/
def everyOther {α : Type} : List α → List α
  | [] => []
  | [first] => [first]
  | first :: _ :: rest => first :: everyOther rest

theorem everyOther_cons {α : Type} (first : α) (rest : List α) :
    everyOther (first :: rest) = first :: everyOther rest.tail := by
  cases rest with
  | nil => rfl
  | cons => rfl

/-- The values among the ends of evaluations. -/
def valuesOf (answered : List Answered) : List Value :=
  answered.filterMap fun part => part.outcome.toOption

theorem valuesOf_cons {part : Answered} {value : Value} (answered : part.outcome = .ok value)
    (rest : List Answered) : valuesOf (part :: rest) = value :: valuesOf rest := by
  rw [valuesOf, List.filterMap_cons, answered]
  rfl

namespace Node

/-- The evaluations of its header among all that a loop has evaluated, in order.  The condition of a
    `while` is evaluated anew before each run of the body, and other headers once, at the start. -/
def headerAmong (loop : Node) (asked : List Answered) : List Answered :=
  match loop with
  | whileLoop _ _ => everyOther asked
  | loop => asked.take loop.parts.length

/-- The runs of its body among all that a loop has evaluated, in order. -/
def runsAmong (loop : Node) (asked : List Answered) : List Answered :=
  match loop with
  | whileLoop _ _ => everyOther asked.tail
  | loop => asked.drop loop.parts.length

end Node

/-! ### What a loop does itself -/

/-- Each test of the condition but the last held, and was followed by a run of the body.  The last
    failed, in this state. -/
structure TestsEnd (tests runs : List Answered) (after : Engine) : Prop where
  length : tests.length = runs.length + 1
  held : ∀ test ∈ tests.dropLast, ∃ value, test.outcome = .ok value ∧ value.isTruthy = true
  failed : ∃ test ∈ tests.getLast?, ∃ value, test.outcome = .ok value ∧ value.isTruthy = false
    ∧ after = test.after

namespace Counting

/-- With its header evaluated in one state, a loop counts like this from the first value on, and has
    its counter defined in the other state; whether its step points to the end of the range is the
    truth value. -/
structure Begins (counting : Counting) (scope : LocalsId) (first : Value) (ready : Engine)
    (aims : Bool) (begun : Engine) : Prop where
  numbers : ∀ value ∈ [first, counting.stop, counting.step], value.isNumber = true
  direction : ∃ order, Number.compare counting.stop first = .ok order
    ∧ counting.ascending = (order == some .gt || order == some .eq)
  heading : ∃ order, Number.compare counting.step (.int 0) = .ok order
    ∧ aims = pointsInside counting.ascending order
  defined : (Action.defineVariable scope counting.counter first).on ready = (.ok (), begun)

/-- The loop comes to test its counter in this state.  Before each of the runs of the body so far it
    found the counter in the range, and after each of them it advanced it. -/
inductive TestsAfter (counting : Counting) (scope : LocalsId) (begun : Engine) :
    List Answered → Engine → Prop where
  | first : TestsAfter counting scope begun [] begun
  | next {earlier : List Answered} {run : Answered} {state next : Engine}
    (tests : TestsAfter counting scope begun earlier state)
    (inside : (counting.inRange scope).on state = (.ok true, run.before))
    (advanced : (counting.advance scope).on run.after = (.ok (), next)) :
    TestsAfter counting scope begun (earlier ++ [run]) next

variable (scope : LocalsId) (counter : Text) (first last step : Value) (ready : Engine)

/-- The actions that a loop that counts takes itself, after which runs of its body, and in which
    states.  Those that never fail are left out. -/
inductive OwnStep : List Answered → {β : Type} → Action β → Engine → Prop where
  | numbers : OwnStep [] (expectNumbers [first, last, step]) ready
  | define (numbers : ∀ value ∈ [first, last, step], value.isNumber = true) :
    OwnStep [] (Action.defineVariable scope counter first) ready
  | inRange {ascending : Bool} {begun state : Engine} {runs : List Answered}
    (begins : Begins ⟨counter, last, step, ascending⟩ scope first ready true begun)
    (tests : TestsAfter ⟨counter, last, step, ascending⟩ scope begun runs state) :
    OwnStep runs (Counting.inRange ⟨counter, last, step, ascending⟩ scope) state
  | advance {ascending : Bool} {begun state : Engine} {earlier : List Answered} {run : Answered}
    (begins : Begins ⟨counter, last, step, ascending⟩ scope first ready true begun)
    (tests : TestsAfter ⟨counter, last, step, ascending⟩ scope begun earlier state)
    (inside : (Counting.inRange ⟨counter, last, step, ascending⟩ scope).on state
      = (.ok true, run.before)) :
    OwnStep (earlier ++ [run]) (Counting.advance ⟨counter, last, step, ascending⟩ scope) run.after

/-- The step does not point to the end of the range, so that the body is never run, or after these
    runs the counter is tested and has passed that end. -/
inductive Declines : List Answered → Engine → Prop where
  | heading {ascending : Bool} {after : Engine}
    (begins : Begins ⟨counter, last, step, ascending⟩ scope first ready false after) :
    Declines [] after
  | range {ascending : Bool} {begun state after : Engine} {runs : List Answered}
    (begins : Begins ⟨counter, last, step, ascending⟩ scope first ready true begun)
    (tests : TestsAfter ⟨counter, last, step, ascending⟩ scope begun runs state)
    (outside : (Counting.inRange ⟨counter, last, step, ascending⟩ scope).on state
      = (.ok false, after)) :
    Declines runs after

end Counting

namespace Elements

variable (scope : LocalsId) (index : Option Text) (element : Text) (source : Value)
  (ready : Engine)

/-- What is left to visit of a value after some runs of the body, and the state in which the next
    element is looked for.  Each run began when the names were bound to the element before. -/
inductive Left : List Answered → Elements → Engine → Prop where
  | all {elements : Elements} {opened : Engine}
    (opens : (ofValue source).on ready = (.ok elements, opened)) : Left [] elements opened
  | rest {earlier : List Answered} {run : Answered} {elements rest : Elements} {value : Value}
    {state taken : Engine} (left : Left earlier elements state)
    (took : elements.next.on state = (.ok (some (value, rest)), taken))
    (bound : (bindElement scope index element earlier.length value).on taken
      = (.ok (), run.before)) :
    Left (earlier ++ [run]) rest run.after

/-- The actions that a loop over elements takes itself, after which runs of its body, and in which
    states.  To take the next element never fails. -/
inductive OwnStep : List Answered → {β : Type} → Action β → Engine → Prop where
  | opens : OwnStep [] (ofValue source) ready
  | bind {runs : List Answered} {elements rest : Elements} {value : Value} {state taken : Engine}
    (left : Left scope index element source ready runs elements state)
    (took : elements.next.on state = (.ok (some (value, rest)), taken)) :
    OwnStep runs (bindElement scope index element runs.length value) taken

/-- After these runs the next element is looked for, and there is none. -/
inductive Declines : List Answered → Engine → Prop where
  | visited {runs : List Answered} {elements : Elements} {state after : Engine}
    (left : Left scope index element source ready runs elements state)
    (nothingLeft : elements.next.on state = (.ok none, after)) : Declines runs after

/-- Nothing goes wrong when the next element is taken. -/
theorem next_ok (elements : Elements) (before : Engine) :
    ∃ answer after, elements.next.on before = (.ok answer, after) := by
  match elements with
  | characters text position =>
    rw [next]
    split
    · exact ⟨_, _, rfl⟩
    · exact ⟨_, _, rfl⟩
  | items list position =>
    rw [next, Action.on_store_bind]
    split
    · exact ⟨_, _, rfl⟩
    · exact ⟨_, _, rfl⟩
  | entries [] => exact ⟨_, _, rfl⟩
  | entries ((key, value) :: rest) => exact ⟨_, _, rfl⟩

end Elements

namespace Node

variable (scope : LocalsId) (loop : Node) (header runs : List Answered)

/-- After these evaluations of its header and runs of its body, the loop takes the action itself, in
    this state. -/
def OwnStep {β : Type} (action : Action β) (state : Engine) : Prop :=
  match loop, valuesOf header with
  | forLoop counter _ _ _ _, first :: last :: written =>
    ∃ part ∈ header.getLast?, Counting.OwnStep scope counter first last (written.headD (.int 1))
      part.after runs action state
  | forEach _ index element _, [source] =>
    ∃ part ∈ header.getLast?, Elements.OwnStep scope index element source part.after runs action
      state
  | _, _ => False

/-- After these evaluations of its header and runs of its body, the loop ends by its own test, in
    this state. -/
def Declines (after : Engine) : Prop :=
  match loop, valuesOf header with
  | whileLoop _ _, _ => TestsEnd header runs after
  | forLoop counter _ _ _ _, first :: last :: written =>
    ∃ part ∈ header.getLast?, Counting.Declines scope counter first last
      (written.headD (.int 1)) part.after runs after
  | forEach _ index element _, [source] =>
    ∃ part ∈ header.getLast?, Elements.Declines scope index element source part.after runs after
  | _, _ => False

end Node

/-! ### One run -/

/-- What a run of the body makes of the pass that it is in, given the result kept so far. -/
inductive RunEnds (kept : Value) (run : Answered) : Except Unwind (Pass Value) → Prop where
  | goesOn (goesOn : GoesOn run.outcome) :
    RunEnds kept run (.ok (.proceed (run.outcome.toOption.getD kept)))
  | broke {value : Option Value} (broke : run.outcome = .error (.broke value)) :
    RunEnds kept run (.ok (.exit (value.getD kept)))
  | left {unwind : Unwind} (leaves : unwind.LeavesLoop) (left : run.outcome = .error unwind) :
    RunEnds kept run (.error unwind)

theorem loopPass_ends {body : Node} {scope : LocalsId} {kept : Value} {before after : Engine}
    {asked : List Answered} {outcome : Except Unwind (Pass Value)}
    (trace : (loopPass body scope kept).Trace before asked outcome after) :
    ∃ run, asked = [run] ∧ run.job = .eval body scope ∧ run.before = before ∧ run.after = after
      ∧ RunEnds kept run outcome := by
  obtain ⟨result, between, rest, rfl, -, later⟩ := Script.Trace.of_answered trace
  -- What follows is decided by the outcome alone, and evaluates nothing.
  match result with
  | .ok value =>
    cases later with | done => exact ⟨_, rfl, rfl, rfl, rfl, .goesOn (.value value)⟩
  | .error .continued =>
    cases later with | done => exact ⟨_, rfl, rfl, rfl, rfl, .goesOn .continued⟩
  | .error (.broke value) => cases later with | done => exact ⟨_, rfl, rfl, rfl, rfl, .broke rfl⟩
  | .error (.failed report) =>
    cases later with | done => exact ⟨_, rfl, rfl, rfl, rfl, .left (.failed report) rfl⟩
  | .error (.returned value) =>
    cases later with | done => exact ⟨_, rfl, rfl, rfl, rfl, .left (.returned value) rfl⟩

/-- After a run of the body comes what is done with it, unless the run leaves the loop. -/
theorem of_loopPass {α : Type} {body : Node} {scope : LocalsId} {kept : Value}
    {f : Pass Value → Script α} {before after : Engine} {asked : List Answered}
    {outcome : Except Unwind α}
    (trace : (loopPass body scope kept >>= f).Trace before asked outcome after) :
    ∃ run rest, asked = run :: rest ∧ run.job = .eval body scope ∧ run.before = before
      ∧ ((∃ result, RunEnds kept run (.ok result) ∧ (f result).Trace run.after rest outcome after)
        ∨ ∃ unwind, RunEnds kept run (.error unwind) ∧ rest = [] ∧ outcome = .error unwind
          ∧ after = run.after) := by
  rcases Script.Trace.of_bind trace with
    ⟨result, between, front, rest, rfl, ran, later⟩ | ⟨unwind, rfl, ran⟩
  · obtain ⟨run, rfl, job, began, rfl, ends⟩ := loopPass_ends ran
    exact ⟨run, rest, rfl, job, began, .inl ⟨result, ends, later⟩⟩
  · obtain ⟨run, rfl, job, began, rfl, ends⟩ := loopPass_ends ran
    exact ⟨run, [], rfl, job, began, .inr ⟨unwind, ends, rfl, rfl, rfl⟩⟩

/-! ### All runs -/

/-- The evaluation is one of a part of the node, in the scope. -/
def Answered.IsPart (part : Answered) (node : Node) (scope : LocalsId) : Prop :=
  ∃ child ∈ node.parts, part.job = .eval child scope

/-- All of them are evaluations of parts of the node, and ended with values. -/
def HeaderAnswers (loop : Node) (scope : LocalsId) (header : List Answered) : Prop :=
  ∀ part ∈ header, part.IsPart loop scope ∧ ∃ value, part.outcome = .ok value

/-- All of them are runs of the body, and ended normally or with a `continue`. -/
def BodyGoesOn (body : Node) (scope : LocalsId) (runs : List Answered) : Prop :=
  ∀ run ∈ runs, run.job = .eval body scope ∧ GoesOn run.outcome

/-- The loop fails, and nothing that it had evaluated did: one of its own actions failed. -/
def Node.FailsItself (loop : Node) (scope : LocalsId) (header runs : List Answered)
    (outcome : Except Unwind Value) (after : Engine) : Prop :=
  ∃ (β : Type) (action : Action β) (state : Engine) (error : RuntimeError),
    loop.OwnStep scope header runs action state ∧ action.on state = (.error error, after)
      ∧ outcome = .error (.ofError error)

/-- How a loop ends with these evaluations of its header and these runs of its body. -/
inductive LoopEnds (loop body : Node) (scope : LocalsId) :
    List Answered → List Answered → Except Unwind Value → Engine → Prop where
  | unconsumed {earlier runs : List Answered} {part : Answered} {unwind : Unwind}
    (answers : HeaderAnswers loop scope earlier) (goOn : BodyGoesOn body scope runs)
    (isPart : part.IsPart loop scope) (raised : part.outcome = .error unwind) :
    LoopEnds loop body scope (earlier ++ [part]) runs (.error unwind) part.after
  | tested {header runs : List Answered} {after : Engine}
    (answers : HeaderAnswers loop scope header) (goOn : BodyGoesOn body scope runs)
    (declines : loop.Declines scope header runs after) :
    LoopEnds loop body scope header runs (.ok (lastValue .nil runs)) after
  | broke {header earlier : List Answered} {run : Answered} {value : Option Value}
    (answers : HeaderAnswers loop scope header) (goOn : BodyGoesOn body scope earlier)
    (job : run.job = .eval body scope) (broke : run.outcome = .error (.broke value)) :
    LoopEnds loop body scope header (earlier ++ [run])
      (.ok (value.getD (lastValue .nil earlier))) run.after
  | left {header earlier : List Answered} {run : Answered} {unwind : Unwind}
    (answers : HeaderAnswers loop scope header) (goOn : BodyGoesOn body scope earlier)
    (job : run.job = .eval body scope) (leaves : unwind.LeavesLoop)
    (left : run.outcome = .error unwind) :
    LoopEnds loop body scope header (earlier ++ [run]) (.error unwind) run.after
  | failed {header runs : List Answered} {outcome : Except Unwind Value} {after : Engine}
    (answers : HeaderAnswers loop scope header) (goOn : BodyGoesOn body scope runs)
    (fails : loop.FailsItself scope header runs outcome after) :
    LoopEnds loop body scope header runs outcome after

section Ends

variable {loop body : Node} {scope : LocalsId} {header runs earlier : List Answered}
  {run : Answered} {after : Engine}

theorem HeaderAnswers.nil : HeaderAnswers loop scope [] := List.forall_mem_nil _

theorem HeaderAnswers.concat {part : Answered} {value : Value}
    (answers : HeaderAnswers loop scope header) (isPart : part.IsPart loop scope)
    (answered : part.outcome = .ok value) : HeaderAnswers loop scope (header ++ [part]) :=
  List.forall_mem_append.mpr ⟨answers, List.forall_mem_singleton.mpr ⟨isPart, value, answered⟩⟩

theorem HeaderAnswers.not_raised {part : Answered} (answers : HeaderAnswers loop scope header)
    (mem : part ∈ header) (unwind : Unwind) : part.outcome ≠ .error unwind := by
  obtain ⟨-, value, answered⟩ := answers part mem
  rw [answered]
  exact nofun

theorem BodyGoesOn.nil : BodyGoesOn body scope [] := List.forall_mem_nil _

theorem BodyGoesOn.concat (goOn : BodyGoesOn body scope runs) (job : run.job = .eval body scope)
    (goesOn : GoesOn run.outcome) : BodyGoesOn body scope (runs ++ [run]) :=
  List.forall_mem_append.mpr ⟨goOn, List.forall_mem_singleton.mpr ⟨job, goesOn⟩⟩

namespace LoopEnds

/-- The first part of the header raises something. -/
theorem unconsumed_first {part : Answered} {unwind : Unwind} (isPart : part.IsPart loop scope)
    (raised : part.outcome = .error unwind) :
    LoopEnds loop body scope [part] [] (.error unwind) part.after :=
  have ends : LoopEnds loop body scope ([] ++ [part]) [] (.error unwind) part.after :=
    .unconsumed .nil .nil isPart raised
  ends

/-- The last run of a pass that ends the loop. -/
theorem of_exit {value : Value} (answers : HeaderAnswers loop scope header)
    (goOn : BodyGoesOn body scope earlier) (job : run.job = .eval body scope)
    (ends : RunEnds (lastValue .nil earlier) run (.ok (.exit value))) :
    LoopEnds loop body scope header (earlier ++ [run]) (.ok value) run.after := by
  cases ends with
  | broke broke => exact .broke answers goOn job broke

/-- The last run of a pass that leaves the loop. -/
theorem of_unwind {unwind : Unwind} (answers : HeaderAnswers loop scope header)
    (goOn : BodyGoesOn body scope earlier) (job : run.job = .eval body scope)
    (ends : RunEnds (lastValue .nil earlier) run (.error unwind)) :
    LoopEnds loop body scope header (earlier ++ [run]) (.error unwind) run.after := by
  cases ends with
  | left leaves left => exact .left answers goOn job leaves left

end LoopEnds

end Ends

/-! ### While -/

/-- What one pass of a `while` has evaluated, and how it ends. -/
inductive WhilePassEnds (condition body : Node) (scope : LocalsId) (kept : Value) :
    List Answered → Except Unwind (Pass Value) → Engine → Prop where
  | unconsumed {test : Answered} {unwind : Unwind} (job : test.job = .eval condition scope)
    (raised : test.outcome = .error unwind) :
    WhilePassEnds condition body scope kept [test] (.error unwind) test.after
  | declines {test : Answered} {value : Value} (job : test.job = .eval condition scope)
    (answered : test.outcome = .ok value) (fails : value.isTruthy = false) :
    WhilePassEnds condition body scope kept [test] (.ok (.exit kept)) test.after
  | ran {test run : Answered} {value : Value} {outcome : Except Unwind (Pass Value)}
    (testJob : test.job = .eval condition scope) (answered : test.outcome = .ok value)
    (holds : value.isTruthy = true) (job : run.job = .eval body scope)
    (ends : RunEnds kept run outcome) :
    WhilePassEnds condition body scope kept [test, run] outcome run.after

/-- All tests so far held, and were followed by runs of the body that went on. -/
structure TestsHold (condition body : Node) (scope : LocalsId) (tests runs : List Answered) :
    Prop where
  length : tests.length = runs.length
  held : ∀ test ∈ tests, ∃ value, test.outcome = .ok value ∧ value.isTruthy = true
  answers : HeaderAnswers (.whileLoop condition body) scope tests
  goOn : BodyGoesOn body scope runs

section While

variable {condition body : Node} {scope : LocalsId} {kept : Value} {before after : Engine}
  {asked tests runs : List Answered}

theorem whilePass_ends {outcome : Except Unwind (Pass Value)}
    (trace : (whilePass condition body scope kept).Trace before asked outcome after) :
    WhilePassEnds condition body scope kept asked outcome after := by
  obtain ⟨test, rest, rfl, job, ⟨value, answered, later⟩ | ⟨unwind, raised, rfl, rfl, rfl⟩⟩ :=
    Script.Trace.of_evaluate trace
  · split at later
    next holds =>
      obtain ⟨run, rfl, runJob, -, rfl, ends⟩ := loopPass_ends later
      exact .ran job answered holds runJob ends
    next fails =>
      cases later with
      | done => exact .declines job answered (Bool.eq_false_iff.mpr fails)
  · exact .unconsumed job raised

theorem isPart_of_test {test : Answered} (job : test.job = .eval condition scope) :
    test.IsPart (.whileLoop condition body) scope :=
  ⟨condition, List.mem_cons_self, job⟩

namespace TestsHold

theorem nil : TestsHold condition body scope [] [] where
  length := rfl
  held := List.forall_mem_nil _
  answers := .nil
  goOn := .nil

variable (hold : TestsHold condition body scope tests runs)
include hold

theorem concat {test run : Answered} {value : Value} (testJob : test.job = .eval condition scope)
    (answered : test.outcome = .ok value) (holds : value.isTruthy = true)
    (job : run.job = .eval body scope) (goesOn : GoesOn run.outcome) :
    TestsHold condition body scope (tests ++ [test]) (runs ++ [run]) where
  length := by rw [List.length_append, List.length_append, hold.length]; rfl
  held := List.forall_mem_append.mpr
    ⟨hold.held, List.forall_mem_singleton.mpr ⟨value, answered, holds⟩⟩
  answers := hold.answers.concat (isPart_of_test testJob) answered
  goOn := hold.goOn.concat job goesOn

/-- The next test is the first that fails. -/
theorem ends {test : Answered} {value : Value} (answered : test.outcome = .ok value)
    (fails : value.isTruthy = false) : TestsEnd (tests ++ [test]) runs test.after where
  length := by rw [List.length_append, hold.length]; rfl
  held := by
    rw [List.dropLast_concat]
    exact hold.held
  failed := ⟨test, List.getLast?_concat, value, answered, fails, rfl⟩

end TestsHold

/-- Each pass evaluates the condition and then, unless it is the last, the body. -/
theorem whileLoop_ends {passes : Nat} {outcome : Except Unwind Value}
    (trace : (Script.loop (whilePass condition body scope) passes .nil).Trace before asked outcome
      after) :
    LoopEnds (.whileLoop condition body) body scope (everyOther asked) (everyOther asked.tail)
      outcome after := by
  -- From any pass on: the tests and runs before it are those that the loop has got through.
  refine Script.Trace.of_loop (fun kept _ asked outcome after => ∀ tests runs,
    TestsHold condition body scope tests runs → kept = lastValue .nil runs →
    LoopEnds (.whileLoop condition body) body scope (tests ++ everyOther asked)
      (runs ++ everyOther asked.tail) outcome after) ?_ ?_ ?_ trace [] [] .nil rfl
  · rintro kept next before between after asked rest outcome pass later tests runs hold rfl
    generalize same : Except.ok (Pass.proceed next) = result at pass
    cases whilePass_ends pass with
    | unconsumed | declines => cases same
    | @ran test run value _ testJob answered holds job ends =>
      subst same
      cases ends with
      | goesOn goesOn =>
        show LoopEnds _ body scope (tests ++ test :: everyOther rest)
          (runs ++ everyOther (run :: rest)) outcome after
        rw [everyOther_cons run rest, List.append_cons tests, List.append_cons runs]
        exact later _ _ (hold.concat testJob answered holds job goesOn)
          (Counting.lastValue_concat .nil runs run).symm
  · rintro kept before after asked value pass tests runs hold rfl
    generalize same : Except.ok (Pass.exit value) = result at pass
    cases whilePass_ends pass with
    | unconsumed => cases same
    | @declines test _ job answered fails =>
      cases same
      show LoopEnds _ body scope (tests ++ [test]) (runs ++ []) _ _
      rw [List.append_nil]
      exact .tested (hold.answers.concat (isPart_of_test job) answered) hold.goOn
        (hold.ends answered fails)
    | ran testJob answered _ job ends =>
      subst same
      exact .of_exit (hold.answers.concat (isPart_of_test testJob) answered) hold.goOn job ends
  · rintro kept before after asked unwind pass tests runs hold rfl
    generalize same : Except.error unwind = result at pass
    cases whilePass_ends pass with
    | declines => cases same
    | @unconsumed test _ job raised =>
      cases same
      show LoopEnds _ body scope (tests ++ [test]) (runs ++ []) _ _
      rw [List.append_nil]
      exact .unconsumed hold.answers hold.goOn (isPart_of_test job) raised
    | ran testJob answered _ job ends =>
      subst same
      exact .of_unwind (hold.answers.concat (isPart_of_test testJob) answered) hold.goOn job ends

end While

/-! ### For and for each -/

/-- What one pass of a loop makes of it once the header is evaluated, after the earlier runs of the
    body: it goes on after one more run, in a state that fits, or it ends. -/
inductive PassEnds {σ : Type} (loop body : Node) (scope : LocalsId) (header : List Answered)
    (fits : List Answered → σ → Engine → Prop) (earlier : List Answered) :
    List Answered → Except Unwind (Pass σ) → Engine → Prop where
  | proceeds {run : Answered} {next : σ} {after : Engine} (job : run.job = .eval body scope)
    (goesOn : GoesOn run.outcome) (fit : fits (earlier ++ [run]) next after) :
    PassEnds loop body scope header fits earlier [run] (.ok (.proceed next)) after
  | exits {runs : List Answered} {value : Value} {after : Engine}
    (ends : LoopEnds loop body scope header (earlier ++ runs) (.ok value) after) :
    PassEnds loop body scope header fits earlier runs (.ok (.exit value)) after
  | unwinds {runs : List Answered} {unwind : Unwind} {after : Engine}
    (ends : LoopEnds loop body scope header (earlier ++ runs) (.error unwind) after) :
    PassEnds loop body scope header fits earlier runs (.error unwind) after

namespace PassEnds

variable {σ : Type} {loop body : Node} {scope : LocalsId} {header earlier : List Answered}
  {fits : List Answered → σ → Engine → Prop} {after : Engine}

/-- The pass ends the loop before the body is run. -/
theorem exits_at_once {value : Value}
    (ends : LoopEnds loop body scope header earlier (.ok value) after) :
    PassEnds loop body scope header fits earlier [] (.ok (.exit value)) after :=
  .exits ((List.append_nil earlier).symm ▸ ends)

/-- The pass leaves the loop before the body is run. -/
theorem unwinds_at_once {unwind : Unwind}
    (ends : LoopEnds loop body scope header earlier (.error unwind) after) :
    PassEnds loop body scope header fits earlier [] (.error unwind) after :=
  .unwinds ((List.append_nil earlier).symm ▸ ends)

end PassEnds

/-- From one pass to all passes: `fits` is what the loop keeps up between them. -/
theorem loop_ends {σ : Type} {loop body : Node} {scope : LocalsId} {header : List Answered}
    {fits : List Answered → σ → Engine → Prop} {pass : σ → Script (Pass σ)}
    (step : ∀ {earlier state before asked outcome after}, BodyGoesOn body scope earlier →
      fits earlier state before → (pass state).Trace before asked outcome after →
      PassEnds loop body scope header fits earlier asked outcome after)
    {passes : Nat} {state : σ} {before after : Engine} {asked : List Answered}
    {outcome : Except Unwind Value} (fit : fits [] state before)
    (trace : (Script.loop pass passes state).Trace before asked outcome after) :
    LoopEnds loop body scope header asked outcome after := by
  refine Script.Trace.of_loop (fun state before asked outcome after => ∀ earlier,
    BodyGoesOn body scope earlier → fits earlier state before →
    LoopEnds loop body scope header (earlier ++ asked) outcome after) ?_ ?_ ?_ trace [] .nil fit
  · intro state next before between after asked rest outcome one later earlier goOn fit
    cases step goOn fit one with
    | proceeds job goesOn fit =>
      rw [← List.append_assoc]
      exact later _ (goOn.concat job goesOn) fit
  · intro state before after asked value one earlier goOn fit
    cases step goOn fit one with
    | exits ends => exact ends
  · intro state before after asked unwind one earlier goOn fit
    cases step goOn fit one with
    | unwinds ends => exact ends

/-- The header of the loop was evaluated with these values, and `part` was the last of it. -/
structure HeaderGives (loop : Node) (scope : LocalsId) (header : List Answered)
    (values : List Value) (part : Answered) : Prop where
  answers : HeaderAnswers loop scope header
  values : valuesOf header = values
  last : header.getLast? = some part

section Counting

variable {counter : Text} {start stop body : Node} {step : Option Node} {first last : Value}
  {written : List Value} {scope : LocalsId} {header runs asked : List Answered} {part : Answered}
  {before after : Engine}

namespace HeaderGives

variable (gives : HeaderGives (.forLoop counter start stop step body) scope header
  (first :: last :: written) part)
include gives

theorem counting_declines (declines : Counting.Declines scope counter first last
    (written.headD (.int 1)) part.after runs after) :
    (Node.forLoop counter start stop step body).Declines scope header runs after := by
  unfold Node.Declines
  rw [gives.values]
  exact ⟨part, gives.last, declines⟩

theorem counting_fails {β : Type} {action : Action β} {state : Engine} {error : RuntimeError}
    (own : Counting.OwnStep scope counter first last (written.headD (.int 1)) part.after runs
      action state) (failed : action.on state = (.error error, after)) :
    (Node.forLoop counter start stop step body).FailsItself scope header runs
      (.error (.ofError error)) after := by
  refine ⟨β, action, state, error, ?_, failed, rfl⟩
  unfold Node.OwnStep
  rw [gives.values]
  exact ⟨part, gives.last, own⟩

end HeaderGives

/-- Between two passes of a loop that counts its result so far is the latest value, and it is about
    to test the counter. -/
structure CountingFits (counting : Counting) (scope : LocalsId) (begun : Engine)
    (runs : List Answered) (kept : Value) (state : Engine) : Prop where
  kept : kept = lastValue .nil runs
  tests : counting.TestsAfter scope begun runs state

theorem countingPass_ends {ascending : Bool} {begun : Engine} {kept : Value}
    {outcome : Except Unwind (Pass Value)}
    (gives : HeaderGives (.forLoop counter start stop step body) scope header
      (first :: last :: written) part)
    (begins : Counting.Begins ⟨counter, last, written.headD (.int 1), ascending⟩ scope first
      part.after true begun)
    (goOn : BodyGoesOn body scope runs)
    (fits : CountingFits ⟨counter, last, written.headD (.int 1), ascending⟩ scope begun runs kept
      before)
    (trace : (countingPass ⟨counter, last, written.headD (.int 1), ascending⟩ body scope
      kept).Trace before asked outcome after) :
    PassEnds (.forLoop counter start stop step body) body scope header
      (CountingFits ⟨counter, last, written.headD (.int 1), ascending⟩ scope begun) runs asked
      outcome after := by
  obtain ⟨rfl, tests⟩ := fits
  rcases Script.Trace.of_ofAction trace with
    ⟨inside, between, tested, later⟩ | ⟨error, failed, rfl, rfl⟩
  case inr =>
    exact .unwinds_at_once
      (.failed gives.answers goOn (gives.counting_fails (.inRange begins tests) failed))
  cases inside with
  | false =>
    cases later with
    | done =>
      exact .exits_at_once
        (.tested gives.answers goOn (gives.counting_declines (.range begins tests tested)))
  | true =>
    obtain ⟨run, rest, rfl, job, rfl, ⟨result, ends, later⟩ | ⟨unwind, ends, rfl, rfl, rfl⟩⟩ :=
      of_loopPass later
    case inr => exact .unwinds (.of_unwind gives.answers goOn job ends)
    cases result with
    | exit value => cases later with | done => exact .exits (.of_exit gives.answers goOn job ends)
    | proceed kept =>
      obtain ⟨goesOn⟩ := ends
      -- Between two runs the counter is advanced, and that may fail.
      rcases Script.Trace.of_ofAction later with
        ⟨_, advanced, done, later⟩ | ⟨error, failed, rfl, rfl⟩
      · cases later with
        | done =>
          exact .proceeds job goesOn
            ⟨(Counting.lastValue_concat .nil runs run).symm, .next tests tested done⟩
      · exact .unwinds (.failed gives.answers (goOn.concat job goesOn)
          (gives.counting_fails (.advance begins tests tested) failed))

/-- Bounds and step are numbers, and nothing has changed, or the first action of the loop fails. -/
theorem expectNumbers_ok {values : List Value} {answer : Unit}
    (expected : (expectNumbers values).on before = (.ok answer, after)) :
    (∀ value ∈ values, value.isNumber = true) ∧ after = before := by
  induction values with
  | nil =>
    cases expected
    exact ⟨List.forall_mem_nil _, rfl⟩
  | cons value rest ih =>
    rw [expectNumbers] at expected
    split at expected
    next number =>
      obtain ⟨others, same⟩ := ih expected
      exact ⟨List.forall_mem_cons.mpr ⟨number, others⟩, same⟩
    next => cases expected

/-- The loop with its header evaluated: it is set up, and runs the body unless its step points the
    other way. -/
theorem forLoop_ends {passes : Nat} {outcome : Except Unwind Value}
    (gives : HeaderGives (.forLoop counter start stop step body) scope header
      (first :: last :: written) part)
    (trace : (forLoop counter first last (written.headD (.int 1)) body scope passes).Trace
      part.after asked outcome after) :
    LoopEnds (.forLoop counter start stop step body) body scope header asked outcome after := by
  rcases Script.Trace.of_ofAction trace with
    ⟨_, checked, expected, trace⟩ | ⟨error, failed, rfl, rfl⟩
  case inr => exact .failed gives.answers .nil (gives.counting_fails .numbers failed)
  obtain ⟨numbers, rfl⟩ := expectNumbers_ok expected
  have firstIsNumber := numbers first List.mem_cons_self
  have lastIsNumber := numbers last (List.mem_cons_of_mem _ List.mem_cons_self)
  have stepIsNumber := numbers (written.headD (.int 1))
    (List.mem_cons_of_mem _ (List.mem_cons_of_mem _ List.mem_cons_self))
  -- Numbers can be compared, so that the next two actions do not fail.
  obtain ⟨direction, directed⟩ := Number.compare_of_isNumber lastIsNumber firstIsNumber
  obtain ⟨heading, headed⟩ := Number.compare_of_isNumber (b := .int 0) stepIsNumber rfl
  rw [directed, headed] at trace
  replace trace := Script.Trace.of_acted rfl (Script.Trace.of_acted rfl trace)
  rcases Script.Trace.of_ofAction trace with ⟨_, begun, defined, trace⟩ | ⟨error, failed, rfl, rfl⟩
  case inr => exact .failed gives.answers .nil (gives.counting_fails (.define numbers) failed)
  have begins : ∀ {aims : Bool},
      aims = Counting.pointsInside (direction == some .gt || direction == some .eq) heading →
      Counting.Begins ⟨counter, last, written.headD (.int 1),
        direction == some .gt || direction == some .eq⟩ scope first part.after aims begun :=
    fun aims => ⟨numbers, ⟨direction, directed, rfl⟩, ⟨heading, headed, aims⟩, defined⟩
  split at trace
  next inside =>
    exact loop_ends
      (fun goOn fits pass => countingPass_ends gives (begins inside.symm) goOn fits pass)
      ⟨rfl, .first⟩ trace
  next away =>
    have away := Bool.eq_false_iff.mpr away
    cases trace with
    | done =>
      exact .tested gives.answers .nil (gives.counting_declines (.heading (begins away.symm)))

/-- The loop with start and stop evaluated: a step that is written is evaluated before the loop is
    set up, and ends it if it unwinds. -/
theorem evalStep_ends {passes : Nat} {outcome : Except Unwind Value} {starts stops : Answered}
    (answers : HeaderAnswers (.forLoop counter start stop step body) scope [starts, stops])
    (values : valuesOf [starts, stops] = [first, last])
    (trace : (do
      let step ← evalOption scope step
      forLoop counter first last (step.getD (.int 1)) body scope passes : Script Value).Trace
        stops.after asked outcome after) :
    LoopEnds (.forLoop counter start stop step body) body scope
      ([starts, stops] ++ asked.take step.toList.length) (asked.drop step.toList.length) outcome
      after := by
  cases step with
  | none => exact forLoop_ends ⟨answers, values, rfl⟩ trace
  | some node =>
    obtain ⟨steps, runs, rfl, job, later⟩ := Script.Trace.of_ask trace
    have isPart : steps.IsPart (.forLoop counter start stop (some node) body) scope :=
      ⟨node, by simp [Node.parts], job⟩
    cases answered : steps.outcome with
    | ok value =>
      rw [answered] at later
      have all : valuesOf ([starts, stops] ++ [steps]) = [first, last] ++ [value] := by
        rw [valuesOf, List.filterMap_append, ← valuesOf, ← valuesOf, values,
          valuesOf_cons answered]
        rfl
      exact forLoop_ends ⟨answers.concat isPart answered, all, rfl⟩ later
    | error unwind =>
      rw [answered] at later
      cases later with
      | done => exact .unconsumed answers .nil isPart answered

/-- Start, stop and step are evaluated in this order, and the first that unwinds is the last. -/
theorem evalForLoop_ends {passes : Nat} {outcome : Except Unwind Value}
    (trace : (evalNode passes scope (.forLoop counter start stop step body)).Trace before asked
      outcome after) :
    LoopEnds (.forLoop counter start stop step body) body scope
      ((Node.forLoop counter start stop step body).headerAmong asked)
      ((Node.forLoop counter start stop step body).runsAmong asked) outcome after := by
  have isPart : ∀ {node : Node} {part : Answered},
      node ∈ (Node.forLoop counter start stop step body).parts → part.job = .eval node scope →
      part.IsPart (.forLoop counter start stop step body) scope := fun mem job => ⟨_, mem, job⟩
  obtain ⟨first, asked, rfl, job, ⟨a, starts, trace⟩ | ⟨unwind, raised, rfl, rfl, rfl⟩⟩ :=
    Script.Trace.of_evaluate trace
  case inr => exact .unconsumed_first (isPart List.mem_cons_self job) raised
  have answers : HeaderAnswers (.forLoop counter start stop step body) scope [first] :=
    HeaderAnswers.nil.concat (isPart List.mem_cons_self job) starts
  obtain ⟨second, asked, rfl, job, ⟨b, stops, trace⟩ | ⟨unwind, raised, rfl, rfl, rfl⟩⟩ :=
    Script.Trace.of_evaluate trace
  case inr =>
    have ends : LoopEnds (.forLoop counter start stop step body) body scope ([first] ++ [second])
        [] (.error unwind) second.after :=
      .unconsumed answers .nil (isPart (List.mem_cons_of_mem _ List.mem_cons_self) job) raised
    cases step with
    | none => exact ends
    | some node => exact ends
  have both : valuesOf [first, second] = [a, b] := by
    rw [valuesOf_cons starts, valuesOf_cons stops]
    rfl
  have ends := evalStep_ends
    (answers.concat (isPart (List.mem_cons_of_mem _ List.mem_cons_self) job) stops) both trace
  cases step with
  | none => exact ends
  | some node => exact ends

end Counting

section Visiting

variable {source body : Node} {index : Option Text} {element : Text} {value : Value}
  {scope : LocalsId} {header runs asked : List Answered} {part : Answered} {before after : Engine}

namespace HeaderGives

variable (gives : HeaderGives (.forEach source index element body) scope header [value] part)
include gives

theorem visiting_declines
    (declines : Elements.Declines scope index element value part.after runs after) :
    (Node.forEach source index element body).Declines scope header runs after := by
  unfold Node.Declines
  rw [gives.values]
  exact ⟨part, gives.last, declines⟩

theorem visiting_fails {β : Type} {action : Action β} {state : Engine} {error : RuntimeError}
    (own : Elements.OwnStep scope index element value part.after runs action state)
    (failed : action.on state = (.error error, after)) :
    (Node.forEach source index element body).FailsItself scope header runs
      (.error (.ofError error)) after := by
  refine ⟨β, action, state, error, ?_, failed, rfl⟩
  unfold Node.OwnStep
  rw [gives.values]
  exact ⟨part, gives.last, own⟩

end HeaderGives

/-- Between two passes of a loop over elements its result so far is the latest value, it has counted
    its runs, and it is about to look for the next element. -/
structure VisitingFits (scope : LocalsId) (index : Option Text) (element : Text) (source : Value)
    (ready : Engine) (runs : List Answered) (visit : Visit) (state : Engine) : Prop where
  kept : visit.last = lastValue .nil runs
  position : visit.position = runs.length
  left : Elements.Left scope index element source ready runs visit.elements state

theorem forEachPass_ends {visit : Visit} {outcome : Except Unwind (Pass Visit)}
    (gives : HeaderGives (.forEach source index element body) scope header [value] part)
    (goOn : BodyGoesOn body scope runs)
    (fits : VisitingFits scope index element value part.after runs visit before)
    (trace : (forEachPass index element body scope visit).Trace before asked outcome after) :
    PassEnds (.forEach source index element body) body scope header
      (VisitingFits scope index element value part.after) runs asked outcome after := by
  obtain ⟨kept, position, left⟩ := fits
  obtain ⟨found, between, took⟩ := visit.elements.next_ok before
  have visited := Script.Trace.of_acted took trace
  match found with
  | none =>
    cases visited with
    | done =>
      rw [kept]
      exact .exits_at_once
        (.tested gives.answers goOn (gives.visiting_declines (.visited left took)))
  | some (item, rest) =>
    rw [kept, position] at visited
    rcases Script.Trace.of_ofAction visited with
      ⟨_, named, bound, trace⟩ | ⟨error, failed, rfl, rfl⟩
    case inr =>
      exact .unwinds_at_once
        (.failed gives.answers goOn (gives.visiting_fails (.bind left took) failed))
    obtain ⟨run, _, rfl, job, rfl, ⟨result, ends, later⟩ | ⟨unwind, ends, rfl, rfl, rfl⟩⟩ :=
      of_loopPass trace
    case inr => exact .unwinds (.of_unwind gives.answers goOn job ends)
    cases result with
    | exit value => cases later with | done => exact .exits (.of_exit gives.answers goOn job ends)
    | proceed kept =>
      obtain ⟨goesOn⟩ := ends
      cases later with
      | done =>
        refine .proceeds job goesOn ⟨(Counting.lastValue_concat .nil runs run).symm, ?_,
          .rest left took bound⟩
        rw [List.length_append]
        rfl

/-- The loop with its header evaluated. -/
theorem forEach_ends {passes : Nat} {outcome : Except Unwind Value}
    (gives : HeaderGives (.forEach source index element body) scope header [value] part)
    (trace : (do
      let elements ← Elements.ofValue value
      forEach index element body scope elements passes : Script Value).Trace part.after asked
        outcome after) :
    LoopEnds (.forEach source index element body) body scope header asked outcome after := by
  rcases Script.Trace.of_ofAction trace with
    ⟨elements, between, opened, trace⟩ | ⟨error, failed, rfl, rfl⟩
  case inr => exact .failed gives.answers .nil (gives.visiting_fails .opens failed)
  exact loop_ends (fun goOn fits pass => forEachPass_ends gives goOn fits pass)
    ⟨rfl, rfl, .all opened⟩ trace

end Visiting

/-! ### Loops as they are written -/

/-- Whatever its header and its body do, a loop ends as its evaluations say. -/
theorem evalLoop_ends {loop body : Node} {scope : LocalsId} {passes : Nat} {before after : Engine}
    {asked : List Answered} {outcome : Except Unwind Value} (isLoop : loop.loopBody? = some body)
    (trace : (evalNode passes scope loop).Trace before asked outcome after) :
    LoopEnds loop body scope (loop.headerAmong asked) (loop.runsAmong asked) outcome after := by
  cases loop with
  | whileLoop condition run =>
    obtain rfl := Option.some.inj isLoop
    exact whileLoop_ends trace
  | forLoop counter start stop step run =>
    obtain rfl := Option.some.inj isLoop
    exact evalForLoop_ends trace
  | forEach source index element run =>
    obtain rfl := Option.some.inj isLoop
    obtain ⟨part, runs, rfl, job, ⟨value, answered, trace⟩ | ⟨unwind, raised, rfl, rfl, rfl⟩⟩ :=
      Script.Trace.of_evaluate trace
    · exact forEach_ends ⟨HeaderAnswers.nil.concat ⟨source, List.mem_cons_self, job⟩ answered,
        valuesOf_cons answered [], rfl⟩ trace
    · exact .unconsumed_first ⟨source, List.mem_cons_self, job⟩ raised
  | _ => exact nomatch isLoop

/-- What the evaluations of its header and the runs of its body say about the end of a loop. -/
structure LoopProtocol (loop body : Node) (scope : LocalsId) (header runs : List Answered)
    (outcome : Except Unwind Value) (after : Engine) : Prop where
  parts : ∀ part ∈ header, part.IsPart loop scope
  bodies : ∀ run ∈ runs, run.job = .eval body scope
  /-- Each run before the last ended normally or with a `continue`. -/
  goOn : ∀ run ∈ runs.dropLast, GoesOn run.outcome
  /-- A `break` ends the loop, with its value if it has one, and else with the latest value. -/
  broke : ∀ run ∈ runs.getLast?, ∀ value, run.outcome = .error (.broke value) →
    outcome = .ok (value.getD (lastValue .nil runs.dropLast)) ∧ after = run.after
  /-- A return and an error of the body end the loop as they are. -/
  left : ∀ run ∈ runs.getLast?, ∀ unwind, unwind.LeavesLoop → run.outcome = .error unwind →
    outcome = .error unwind ∧ after = run.after
  /-- Whatever the header raises ends the loop as it is, be it a `break` or a `continue`. -/
  unconsumed : ∀ part ∈ header, ∀ unwind, part.outcome = .error unwind →
    outcome = .error unwind ∧ after = part.after
  /-- Without any of that the loop ends by its own test, with the latest value, or it fails itself,
      which a `while` never does.  The test and the failure are those of the state that the header
      and the runs have led to. -/
  itself : (∀ part ∈ header, ∃ value, part.outcome = .ok value) →
    (∀ run ∈ runs, GoesOn run.outcome) →
    (outcome = .ok (lastValue .nil runs) ∧ loop.Declines scope header runs after)
      ∨ loop.FailsItself scope header runs outcome after

namespace LoopProtocol

variable {loop body : Node} {scope : LocalsId} {header runs earlier : List Answered}
  {last : Answered} {outcome : Except Unwind Value} {after : Engine}

/-- All runs go on, so that it is up to the header and to the loop itself how it ends. -/
theorem of_goOn (goOn : BodyGoesOn body scope runs)
    (parts : ∀ part ∈ header, part.IsPart loop scope)
    (unconsumed : ∀ part ∈ header, ∀ unwind, part.outcome = .error unwind →
      outcome = .error unwind ∧ after = part.after)
    (itself : (∀ part ∈ header, ∃ value, part.outcome = .ok value) →
      (outcome = .ok (lastValue .nil runs) ∧ loop.Declines scope header runs after)
        ∨ loop.FailsItself scope header runs outcome after) :
    LoopProtocol loop body scope header runs outcome after where
  parts := parts
  bodies run mem := (goOn run mem).1
  goOn run mem := (goOn run (List.dropLast_subset _ mem)).2
  broke run mem value broke := by
    have goesOn := (goOn run (List.mem_of_getLast? mem)).2
    rw [broke] at goesOn
    cases goesOn
  left run mem unwind leaves left := by
    have goesOn := (goOn run (List.mem_of_getLast? mem)).2
    rw [left] at goesOn
    cases goesOn
    cases leaves
  unconsumed := unconsumed
  itself answered _ := itself answered

/-- The last run does not go on, so that it decides how the loop ends. -/
theorem of_last (answers : HeaderAnswers loop scope header)
    (goOn : BodyGoesOn body scope earlier) (job : last.job = .eval body scope)
    (stops : ¬ GoesOn last.outcome)
    (broke : ∀ value, last.outcome = .error (.broke value) →
      outcome = .ok (value.getD (lastValue .nil earlier)) ∧ after = last.after)
    (left : ∀ unwind, unwind.LeavesLoop → last.outcome = .error unwind →
      outcome = .error unwind ∧ after = last.after) :
    LoopProtocol loop body scope header (earlier ++ [last]) outcome after where
  parts part mem := (answers part mem).1
  bodies := List.forall_mem_append.mpr
    ⟨fun run mem => (goOn run mem).1, List.forall_mem_singleton.mpr job⟩
  goOn run mem := by
    rw [List.dropLast_concat] at mem
    exact (goOn run mem).2
  broke run mem value same := by
    rw [List.getLast?_concat, Option.mem_some] at mem
    subst mem
    rw [List.dropLast_concat]
    exact broke value same
  left run mem := by
    rw [List.getLast?_concat, Option.mem_some] at mem
    subst mem
    exact left
  unconsumed part mem unwind raised := absurd raised (answers.not_raised mem unwind)
  itself _ goOn := absurd (goOn last List.mem_concat_self) stops

end LoopProtocol

theorem LoopEnds.protocol {loop body : Node} {scope : LocalsId} {header runs : List Answered}
    {outcome : Except Unwind Value} {after : Engine}
    (ends : LoopEnds loop body scope header runs outcome after) :
    LoopProtocol loop body scope header runs outcome after := by
  cases ends with
  | @unconsumed earlier _ part unwind answers goOn isPart raised =>
    refine .of_goOn goOn (List.forall_mem_append.mpr
      ⟨fun part mem => (answers part mem).1, List.forall_mem_singleton.mpr isPart⟩) ?_ ?_
    · intro other mem unwind' raised'
      rcases List.mem_append.mp mem with before | same
      · exact absurd raised' (answers.not_raised before unwind')
      · obtain rfl := List.mem_singleton.mp same
        exact ⟨raised.symm.trans raised', rfl⟩
    · intro answered
      obtain ⟨value, answered⟩ := answered part List.mem_concat_self
      exact nomatch answered.symm.trans raised
  | tested answers goOn declines =>
    exact .of_goOn goOn (fun part mem => (answers part mem).1)
      (fun part mem unwind raised => absurd raised (answers.not_raised mem unwind))
      fun _ => .inl ⟨rfl, declines⟩
  | failed answers goOn fails =>
    exact .of_goOn goOn (fun part mem => (answers part mem).1)
      (fun part mem unwind raised => absurd raised (answers.not_raised mem unwind))
      fun _ => .inr fails
  | @broke _ _ last value answers goOn job broke =>
    refine .of_last answers goOn job (fun goesOn => ?_) (fun value' same => ?_)
      fun unwind leaves left => ?_
    · rw [broke] at goesOn
      cases goesOn
    · cases broke.symm.trans same
      exact ⟨rfl, rfl⟩
    · cases broke.symm.trans left
      cases leaves
  | @left _ _ last unwind answers goOn job leaves left =>
    refine .of_last answers goOn job (fun goesOn => ?_) (fun value' same => ?_)
      fun unwind' leaves' left' => ?_
    · rw [left] at goesOn
      cases goesOn
      cases leaves
    · cases left.symm.trans same
      cases leaves
    · cases left.symm.trans left'
      exact ⟨rfl, rfl⟩

/-- **Loops.**  A loop that ends has an account of all that it evaluated, and any such account
    follows one protocol, whichever loop it is and whatever is in its header and its body: all runs
    of the body but the last ended normally or with a `continue`; if the last ended with a `break`,
    the loop ends with the value of that or else with the latest value of a run, and nil if there is
    none; if it ended with a return or an error, so does the loop; and if it ended like the others,
    the loop's own test ends it, in the state that its header and these runs have led to, with the
    latest value, unless a step of the loop itself fails there.  What an evaluation of the header
    raises ends the loop unchanged. -/
theorem loops_follow_one_protocol {loop body : Node} {scope : LocalsId} {before after : Engine}
    {outcome : Except Unwind Value} (isLoop : loop.loopBody? = some body)
    (ended : Finishes (.eval loop scope) before outcome after) :
    (∃ passes asked, (doJob passes (.eval loop scope)).Trace before asked outcome after)
      ∧ ∀ passes asked, (doJob passes (.eval loop scope)).Trace before asked outcome after →
        LoopProtocol loop body scope (loop.headerAmong asked) (loop.runsAmong asked) outcome
          after :=
  ⟨ended.traced, fun _ _ trace => (evalLoop_ends isLoop trace).protocol⟩

/-- Is left in its first run, with the value of the `break`. -/
def brokenLoop : Node := .whileLoop (.bool true) (.breakLoop (some (.integer 7)))

/-- The account of such a loop in a new engine ends with a run that broke, and so does the loop. -/
theorem broken_loop_ends_with_its_value :
    ∃ passes asked, (doJob passes (.eval brokenLoop World.moduleLocals)).Trace (Engine.new {}) asked
        (.ok (.int 7)) (Engine.new {})
      ∧ LoopProtocol brokenLoop (.breakLoop (some (.integer 7))) World.moduleLocals
        (brokenLoop.headerAmong asked) (brokenLoop.runsAmong asked) (.ok (.int 7))
        (Engine.new {}) := by
  have ended : Finishes (.eval brokenLoop World.moduleLocals) (Engine.new {}) (.ok (.int 7))
      (Engine.new {}) := ⟨3, rfl⟩
  obtain ⟨⟨passes, asked, trace⟩, protocol⟩ := loops_follow_one_protocol rfl ended
  exact ⟨passes, asked, trace, protocol passes asked trace⟩

end SlotTalk
