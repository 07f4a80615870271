import SlotTalk.Proofs.Definitions
import SlotTalk.Proofs.LoopProtocol

namespace SlotTalk

/-!
# Loops over elements

Before each run of its body a loop over elements looks for the next one.  What it finds then is for
the elements to say; that it finds its names bound in the run, and goes on, is shown here for all.

* `Visiting` — a loop over elements, and `Visiting.Bound` what its names stand for in a run.
* `Visiting.Comes` — the moments at which it looks for the next element, and `Comes.run` what each
  run before has found.
* `Comes.goesOn`, `Comes.ended` — from one such moment to the next, and to the end.
* `Visiting.Ends`, `Visiting.Begins` — the loop with its source evaluated, and `Opens.exists_runs`
  loops over so many elements.
-/

open Counting (GoesOn lastValue)

/-! ### Moments -/

/-- After the element with one number comes the one with the next. -/
def Elements.Numbered (place : Nat → Elements) : Prop :=
  ∀ (i : Nat) (state : Engine) (value : Value) (rest : Elements) (taken : Engine),
    (place i).next.on state = (.ok (some (value, rest)), taken) → rest = place (i + 1)

/-- The names, the body and the scope of a loop over elements. -/
structure Visiting where
  index : Option Text
  element : Text
  body : Node
  scope : LocalsId

namespace Visiting

variable (visiting : Visiting)

/-- The loop over the elements of what the source evaluates to. -/
def loop (source : Node) : Node :=
  .forEach source visiting.index visiting.element visiting.body

/-- One pass of the loop. -/
def pass (visit : Visit) : Script (Pass Visit) :=
  forEachPass visiting.index visiting.element visiting.body visiting.scope visit

/-- Make the names stand for the next element and its position. -/
def bind (position : Nat) (value : Value) : Action Unit :=
  bindElement visiting.scope visiting.index visiting.element position value

/-- The names are bound to the position and the element. -/
structure Bound (store : Store) (position : Nat) (value : Value) : Prop where
  element : store.Binds visiting.scope visiting.element.content value
  index : ∀ name ∈ visiting.index, store.Binds visiting.scope name.content (.ofNat position)

/-- Starting with the first visit and state, the loop comes to look for its next element, after some
    runs of the body that ended normally or with a `continue`. -/
inductive Comes (first : Visit) (start : Engine) : List Answered → Visit → Engine → Prop where
  | start : Comes first start [] first start
  | next {runs : List Answered} {visit : Visit} {rest : Elements} {value : Value}
    {state taken bound after : Engine} {outcome : Except Unwind Value}
    (earlier : Comes first start runs visit state)
    (took : visit.elements.next.on state = (.ok (some (value, rest)), taken))
    (named : (visiting.bind visit.position value).on taken = (.ok (), bound))
    (ran : Finishes (.eval visiting.body visiting.scope) bound outcome after)
    (goesOn : GoesOn outcome) :
    Comes first start (runs ++ [⟨.eval visiting.body visiting.scope, bound, outcome, after⟩])
      ⟨visit.position + 1, rest, outcome.toOption.getD visit.last⟩ after

/-- Each run of the body that the loop makes ends, normally or with a `continue`. -/
def Steady (first : Visit) (start : Engine) : Prop :=
  ∀ {runs visit state value rest taken bound}, visiting.Comes first start runs visit state →
    visit.elements.next.on state = (.ok (some (value, rest)), taken) →
    (visiting.bind visit.position value).on taken = (.ok (), bound) →
    ∃ outcome after, Finishes (.eval visiting.body visiting.scope) bound outcome after
      ∧ GoesOn outcome

variable {visiting} {first visit : Visit} {start state : Engine} {runs : List Answered}

theorem bind_ordinary (visiting : Visiting) (position : Nat) (value : Value) :
    (visiting.bind position value).Ordinary :=
  bindElement_ordinary ..

/-! ### Passes -/

section Passes

variable {rest : Elements} {value : Value} {taken bound after : Engine}
  {outcome : Except Unwind Value}

theorem pass_trace (took : visit.elements.next.on state = (.ok (some (value, rest)), taken))
    (named : (visiting.bind visit.position value).on taken = (.ok (), bound))
    (ran : Finishes (.eval visiting.body visiting.scope) bound outcome after)
    (goesOn : GoesOn outcome) :
    (visiting.pass visit).Trace state [⟨.eval visiting.body visiting.scope, bound, outcome, after⟩]
      (.ok (.proceed ⟨visit.position + 1, rest, outcome.toOption.getD visit.last⟩)) after := by
  refine .act took (.act named (.ask ran ?_))
  cases goesOn with
  | value value => exact .done _ after
  | continued => exact .done _ after

theorem pass_trace_exit (none : visit.elements.next.on state = (.ok none, after)) :
    (visiting.pass visit).Trace state [] (.ok (.exit visit.last)) after :=
  .act none (.done _ after)

end Passes

namespace Comes

/-- What the rest of the loop does comes after the runs so far. -/
theorem trace (comes : visiting.Comes first start runs visit state) {passes : Nat}
    {rest : List Answered} {outcome : Except Unwind Value} {final : Engine}
    (later : (Script.loop visiting.pass passes visit).Trace state rest outcome final) :
    (Script.loop visiting.pass (runs.length + passes) first).Trace start (runs ++ rest) outcome
      final := by
  induction comes generalizing passes rest with
  | start => rwa [List.length_nil, Nat.zero_add]
  | next earlier took named ran goesOn ih =>
    -- The last run takes one pass more, and the earlier ones come before it.
    have one : (Script.loop visiting.pass (passes + 1) _).Trace _ _ outcome final :=
      (pass_trace took named ran goesOn).bind later
    rw [List.length_append, Nat.add_assoc, List.append_assoc, List.length_singleton,
      Nat.add_comm 1 passes]
    exact ih one

/-- What the loop reaches after the runs so far is reached from its start. -/
theorem reaches (comes : visiting.Comes first start runs visit state) {passes : Nat}
    {inside : List Activation} {rest : Script Value} {moment : Engine}
    (later : (Script.loop visiting.pass passes visit).Reaches state inside rest moment) :
    (Script.loop visiting.pass (runs.length + passes) first).Reaches start inside rest moment := by
  induction comes generalizing passes with
  | start => rwa [List.length_nil, Nat.zero_add]
  | next earlier took named ran goesOn ih =>
    have one : (Script.loop visiting.pass (passes + 1) _).Reaches _ inside rest moment :=
      (pass_trace took named ran goesOn).reaches_bind later
    rw [List.length_append, Nat.add_assoc, List.length_singleton, Nat.add_comm 1 passes]
    exact ih one

theorem position (comes : visiting.Comes first start runs visit state) :
    visit.position = first.position + runs.length := by
  induction comes with
  | start => rfl
  | next earlier took named ran goesOn ih =>
    rw [ih, List.length_append, List.length_singleton, Nat.add_assoc]

theorem last (comes : visiting.Comes first start runs visit state) :
    visit.last = lastValue first.last runs := by
  induction comes with
  | start => rfl
  | next earlier took named ran goesOn ih => rw [Counting.lastValue_concat, ← ih]

/-- The store evolves while the loop runs. -/
theorem evolves (comes : visiting.Comes first start runs visit state) :
    start.store.Evolves state.store := by
  induction comes with
  | start => exact .refl _
  | @next _ visit _ value _ _ _ _ _ earlier took named ran goesOn ih =>
    have kept := Store.kept_evolves start.store
    have taken := visit.elements.next_ordinary.routine.keeps kept ih
    rw [took] at taken
    have bound := (visiting.bind_ordinary visit.position value).routine.keeps kept taken
    rw [named] at bound
    exact kept.finishes ran bound

/-- The same after the next element was taken. -/
theorem evolves_next (comes : visiting.Comes first start runs visit state)
    {answer : Option (Value × Elements)} {taken : Engine}
    (took : visit.elements.next.on state = (.ok answer, taken)) :
    start.store.Evolves taken.store := by
  have evolves := visit.elements.next_ordinary.routine.keeps
    (Store.kept_evolves start.store) comes.evolves
  rwa [took] at evolves

/-- Elements with numbers are taken one after the other. -/
theorem place {place : Nat → Elements} (numbered : Elements.Numbered place)
    (comes : visiting.Comes { elements := place 0 } start runs visit state) :
    visit.elements = place runs.length := by
  induction comes with
  | start => rfl
  | next earlier took named ran goesOn ih =>
    rw [ih] at took
    rw [List.length_append]
    exact numbered _ _ _ _ _ took

/-- Each run was begun when the loop, after the runs before it, took the next element and bound the
    names to it. -/
theorem begun (comes : visiting.Comes first start runs visit state) {i : Nat} {run : Answered}
    (mem : runs[i]? = some run) :
    run.job = .eval visiting.body visiting.scope
      ∧ ∃ earlier looked taken rest value,
        visiting.Comes first start (runs.take i) earlier looked
        ∧ earlier.elements.next.on looked = (.ok (some (value, rest)), taken)
        ∧ (visiting.bind earlier.position value).on taken = (.ok (), run.before) := by
  induction comes with
  | start => exact nomatch mem
  | @next runs visit rest value state taken bound after outcome earlier took named ran goesOn ih =>
    -- It is one of the earlier runs, or the one that was added.
    obtain ⟨inside, -⟩ := List.getElem?_eq_some_iff.mp mem
    rw [List.length_append, List.length_singleton] at inside
    rcases Nat.lt_succ_iff_lt_or_eq.mp inside with before | rfl
    · rw [List.getElem?_append_left before] at mem
      rw [List.take_append_of_le_length (Nat.le_of_lt before)]
      exact ih mem
    · rw [List.getElem?_concat_length] at mem
      obtain rfl := Option.some.inj mem
      rw [List.take_left]
      exact ⟨rfl, visit, state, taken, rest, value, earlier, took, named⟩

end Comes

/-! ### Names -/

/-- In a scope that takes definitions, the names are bound to the position and the element, and no
    list is touched. -/
theorem bind_on {taken : Engine} (takes : taken.store.TakesDefinitions visiting.scope)
    (distinct : ∀ name ∈ visiting.index, name.content ≠ visiting.element.content)
    (position : Nat) (value : Value) :
    ∃ bound, (visiting.bind position value).on taken = (.ok (), bound)
      ∧ visiting.Bound bound.store position value
      ∧ bound.store.lists = taken.store.lists := by
  obtain ⟨index, element, body, scope⟩ := visiting
  cases index with
  | none =>
    obtain ⟨bound, defined, binds, -, lists⟩ := takes.defines element value
    exact ⟨bound, defined, ⟨binds, nofun⟩, lists⟩
  | some name =>
    obtain ⟨between, first, position', -, lists⟩ := takes.defines name (.ofNat position)
    have still : between.store.TakesDefinitions scope := by
      have kept := (Action.Ordinary.defineVariable scope name (.ofNat position)).routine.keeps
        (Store.kept_evolves taken.store) (.refl _)
      rw [first] at kept
      exact takes.evolves kept
    -- The element is defined after the index, and must leave it as it is.
    obtain ⟨bound, second, binds, others, lists'⟩ := still.defines element value
    have apart : element.content ≠ name.content := (distinct name rfl).symm
    refine ⟨bound, ?_, ⟨binds, fun other same => ?_⟩, lists'.trans lists⟩
    · show (do Action.defineVariable scope name (.ofNat position)
               Action.defineVariable scope element value : Action Unit).on taken = _
      rw [Action.on_bind, first]
      exact second
    · obtain rfl := Option.some.inj same
      exact others _ _ apart position'

/-! ### Progress -/

section Progress

variable (takes : start.store.TakesDefinitions visiting.scope)
  (distinct : ∀ name ∈ visiting.index, name.content ≠ visiting.element.content)
include takes distinct

/-- What the names are bound to when a run is begun. -/
theorem Comes.bound (comes : visiting.Comes first start runs visit state) {value : Value}
    {rest : Elements} {taken bound : Engine}
    (took : visit.elements.next.on state = (.ok (some (value, rest)), taken))
    (named : (visiting.bind visit.position value).on taken = (.ok (), bound)) :
    visiting.Bound bound.store visit.position value ∧ bound.store.lists = taken.store.lists := by
  obtain ⟨other, named', binds, lists⟩ :=
    bind_on (takes.evolves (comes.evolves_next took)) distinct visit.position value
  obtain ⟨-, rfl⟩ := Prod.mk.inj (named.symm.trans named')
  exact ⟨binds, lists⟩

/-- Each run finds the names bound to its number and to the element that was taken for it. -/
theorem Comes.run {elements : Elements}
    (comes : visiting.Comes { elements := elements } start runs visit state) {i : Nat}
    {run : Answered} (mem : runs[i]? = some run) :
    run.job = .eval visiting.body visiting.scope
      ∧ ∃ earlier looked taken rest value,
        visiting.Comes { elements := elements } start (runs.take i) earlier looked
        ∧ (runs.take i).length = i
        ∧ earlier.elements.next.on looked = (.ok (some (value, rest)), taken)
        ∧ visiting.Bound run.before.store i value
        ∧ run.before.store.lists = taken.store.lists := by
  obtain ⟨job, earlier, looked, taken, rest, value, comes', took, named⟩ := comes.begun mem
  obtain ⟨inside, -⟩ := List.getElem?_eq_some_iff.mp mem
  have length : (runs.take i).length = i := List.length_take_of_le (Nat.le_of_lt inside)
  have position : earlier.position = i := by
    rw [comes'.position, length]
    exact Nat.zero_add i
  obtain ⟨bound, lists⟩ := comes'.bound takes distinct took named
  exact ⟨job, earlier, looked, taken, rest, value, comes', length, took, position ▸ bound, lists⟩

/-- If there is a next element, the body is run for it, and the loop comes to look for the one after
    that. -/
theorem Comes.goesOn (steady : visiting.Steady first start)
    (comes : visiting.Comes first start runs visit state) {value : Value} {rest : Elements}
    {taken : Engine} (took : visit.elements.next.on state = (.ok (some (value, rest)), taken)) :
    ∃ bound outcome after,
      (visiting.bind visit.position value).on taken = (.ok (), bound)
      ∧ Finishes (.eval visiting.body visiting.scope) bound outcome after ∧ GoesOn outcome
      ∧ visiting.Comes first start
        (runs ++ [⟨.eval visiting.body visiting.scope, bound, outcome, after⟩])
        ⟨visit.position + 1, rest, outcome.toOption.getD visit.last⟩ after := by
  obtain ⟨bound, named, -⟩ :=
    bind_on (takes.evolves (comes.evolves_next took)) distinct visit.position value
  obtain ⟨outcome, after, ran, goesOn⟩ := steady comes took named
  exact ⟨bound, outcome, after, named, ran, goesOn, .next comes took named ran goesOn⟩

/-- As long as there are elements, the loop goes on. -/
theorem exists_moment (steady : visiting.Steady first start) (n : Nat)
    (more : ∀ {runs visit state}, visiting.Comes first start runs visit state → runs.length < n →
      ∃ value rest taken, visit.elements.next.on state = (.ok (some (value, rest)), taken)) :
    ∃ runs visit state, runs.length = n ∧ visiting.Comes first start runs visit state := by
  induction n with
  | zero => exact ⟨[], first, start, rfl, .start⟩
  | succ n ih =>
    obtain ⟨runs, visit, state, rfl, comes⟩ :=
      ih fun comes fewer => more comes (Nat.lt_succ_of_lt fewer)
    obtain ⟨value, rest, taken, took⟩ := more comes (Nat.lt_succ_self _)
    obtain ⟨bound, outcome, after, -, -, -, next⟩ := comes.goesOn takes distinct steady took
    exact ⟨_, _, after, by rw [List.length_append]; rfl, next⟩

end Progress

/-- What a pass has done, if it had an element to visit. -/
theorem of_pass {passes : Nat} {asked : List Answered} {outcome : Except Unwind Value}
    {final taken bound : Engine} {value : Value} {rest : Elements}
    (took : visit.elements.next.on state = (.ok (some (value, rest)), taken))
    (named : (visiting.bind visit.position value).on taken = (.ok (), bound))
    (trace : (Script.loop visiting.pass (passes + 1) visit).Trace state asked outcome final) :
    ∃ answer after asked', Finishes (.eval visiting.body visiting.scope) bound answer after
      ∧ (GoesOn answer → (Script.loop visiting.pass passes
          ⟨visit.position + 1, rest, answer.toOption.getD visit.last⟩).Trace after asked' outcome
            final) := by
  have body := Script.Trace.of_acted named (Script.Trace.of_acted took trace)
  obtain ⟨answer, after, asked', -, ran, later⟩ := Script.Trace.of_answered body
  refine ⟨answer, after, asked', ran, fun goesOn => ?_⟩
  cases goesOn with
  | value value => exact later
  | continued => exact later

/-- If what is left of the loop ends, the loop has come to look for an element where there was
    none. -/
theorem Comes.ended (takes : start.store.TakesDefinitions visiting.scope)
    (distinct : ∀ name ∈ visiting.index, name.content ≠ visiting.element.content)
    (steady : visiting.Steady first start) (comes : visiting.Comes first start runs visit state)
    {passes : Nat} {asked : List Answered} {outcome : Except Unwind Value} {final : Engine}
    (trace : (Script.loop visiting.pass passes visit).Trace state asked outcome final) :
    ∃ runs visit looked, visiting.Comes first start runs visit looked
      ∧ visit.elements.next.on looked = (.ok none, final) := by
  induction passes generalizing runs visit state asked with
  | zero => exact nomatch trace
  | succ passes ih =>
    obtain ⟨answer, between, looked⟩ := visit.elements.next_ok state
    match answer with
    | none =>
      have exit := Script.Trace.of_acted looked trace
      cases exit with
      | done => exact ⟨runs, visit, state, comes, looked⟩
    | some (value, rest) =>
      obtain ⟨bound, outcome, after, named, ran, goesOn, next⟩ :=
        comes.goesOn takes distinct steady looked
      -- The body ends in one way only, so that the trace goes on where the loop comes to next.
      obtain ⟨answer, after', asked', ran', later⟩ := of_pass looked named trace
      obtain ⟨rfl, rfl⟩ := ran.unique ran'
      exact ih next (later goesOn)

/-! ### The loop as it is written -/

/-- The source was evaluated and gave the value, which has these elements in the state that it
    left. -/
structure Opens (visiting : Visiting) (source : Node) (before : Engine) (value : Value)
    (elements : Elements) (ready : Engine) : Prop where
  evaluated : Finishes (.eval source visiting.scope) before (.ok value) ready
  opened : (Elements.ofValue value).on ready = (.ok elements, ready)

/-- After the source the loop has these runs of its body, one after the other, and then ends.  Its
    value is that of the last run that ended normally, or nil. -/
structure Ends (visiting : Visiting) (source : Node) (before : Engine) (value : Value)
    (ready : Engine) (runs : List Answered) (final : Engine) : Prop where
  trace : ∀ passes, runs.length < passes →
    (doJob passes (.eval (visiting.loop source) visiting.scope)).Trace before
      (⟨.eval source visiting.scope, before, .ok value, ready⟩ :: runs) (.ok (lastValue .nil runs))
      final
  finishes : Finishes (.eval (visiting.loop source) visiting.scope) before
    (.ok (lastValue .nil runs)) final

/-- After so many runs of its body the loop begins another one, in the second state. -/
def Begins (visiting : Visiting) (source : Node) (before : Engine) (count : Nat) (bound : Engine) :
    Prop :=
  ∀ passes, count < passes → ∃ next,
    (doJob passes (.eval (visiting.loop source) visiting.scope)).Reaches before []
      (.ask (.eval visiting.body visiting.scope) next) bound

namespace Opens

variable {source : Node} {before ready : Engine} {value : Value} {elements : Elements}
  (opens : visiting.Opens source before value elements ready)
include opens

theorem ends (comes : visiting.Comes { elements := elements } ready runs visit state)
    {final : Engine} (none : visit.elements.next.on state = (.ok none, final)) :
    visiting.Ends source before value ready runs final := by
  have whole : ∀ passes, runs.length < passes →
      (doJob passes (.eval (visiting.loop source) visiting.scope)).Trace before
        (⟨.eval source visiting.scope, before, .ok value, ready⟩ :: runs)
        (.ok (lastValue .nil runs)) final := by
    intro passes enough
    obtain ⟨more, rfl⟩ := Nat.exists_eq_add_of_lt enough
    have last : (Script.loop visiting.pass (more + 1) visit).Trace state []
        (.ok (lastValue .nil runs)) final := by
      have exit : (visiting.pass visit).Trace state [] (.ok (.exit visit.last)) final :=
        pass_trace_exit none
      rw [comes.last] at exit
      exact exit.bind (.done _ final)
    have loop := comes.trace last
    rw [List.append_nil] at loop
    exact .ask opens.evaluated (.act opens.opened loop)
  exact ⟨whole, (whole _ (Nat.lt_succ_self _)).finishes⟩

theorem begins (comes : visiting.Comes { elements := elements } ready runs visit state)
    {item : Value} {rest : Elements} {taken bound : Engine}
    (took : visit.elements.next.on state = (.ok (some (item, rest)), taken))
    (named : (visiting.bind visit.position item).on taken = (.ok (), bound)) :
    visiting.Begins source before runs.length bound := by
  intro passes enough
  obtain ⟨more, rfl⟩ := Nat.exists_eq_add_of_lt enough
  have next : ∃ next, (Script.loop visiting.pass (more + 1) visit).Reaches state []
      (.ask (.eval visiting.body visiting.scope) next) bound :=
    ⟨_, .afterAct took (.afterAct named .here)⟩
  obtain ⟨next, reached⟩ := next
  exact ⟨next, .afterAsk opens.evaluated (.afterAct opens.opened (comes.reaches reached))⟩

/-- If the loop ends, it has come to look for an element where there was none. -/
theorem ended (takes : ready.store.TakesDefinitions visiting.scope)
    (distinct : ∀ name ∈ visiting.index, name.content ≠ visiting.element.content)
    (steady : visiting.Steady { elements := elements } ready) {outcome : Except Unwind Value}
    {final : Engine}
    (finished : Finishes (.eval (visiting.loop source) visiting.scope) before outcome final) :
    ∃ runs visit looked, visiting.Comes { elements := elements } ready runs visit looked
      ∧ visit.elements.next.on looked = (.ok none, final) := by
  obtain ⟨passes, asked, trace⟩ := finished.traced
  obtain ⟨answer, between, rest, -, evaluated, trace⟩ := Script.Trace.of_answered trace
  obtain ⟨rfl, rfl⟩ := opens.evaluated.unique evaluated
  have loop := Script.Trace.of_acted opens.opened trace
  exact Comes.start.ended takes distinct steady loop

/-- Where there are so many elements, with numbers, the loop has as many runs and ends. -/
theorem exists_runs {place : Nat → Elements} (numbered : Elements.Numbered place) {n : Nat}
    (more : ∀ i < n, ∀ state, ∃ value rest taken,
      (place i).next.on state = (.ok (some (value, rest)), taken))
    (nothing : ∀ state, (place n).next.on state = (.ok none, state)) (same : elements = place 0)
    (takes : ready.store.TakesDefinitions visiting.scope)
    (distinct : ∀ name ∈ visiting.index, name.content ≠ visiting.element.content)
    (steady : visiting.Steady { elements := elements } ready) :
    ∃ runs visit final, runs.length = n
      ∧ visiting.Comes { elements := place 0 } ready runs visit final
      ∧ visiting.Ends source before value ready runs final := by
  subst same
  obtain ⟨runs, visit, final, length, comes⟩ :=
    exists_moment takes distinct steady n fun comes fewer => by
      rw [comes.place numbered]
      exact more _ fewer _
  have ended : visit.elements.next.on final = (.ok none, final) := by
    rw [comes.place numbered, length]
    exact nothing final
  exact ⟨runs, visit, final, length, comes, opens.ends comes ended⟩

end Opens

end Visiting

end SlotTalk
