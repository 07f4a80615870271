import SlotTalk.Proofs.Session

namespace SlotTalk

/-!
# The limit on the depth

The limit on the depth can be seen by one action only, the counting of an activation, and by this
action only where the limit is met.  So an evaluation that never meets it does not depend on it.

* `Engine.withRoom` — another limit, and some activations less that run already.
* `Action.Routine.withRoom` — a routine action does the same then.
* `Script.MeetsLimit`, `Script.NeverFull` — moments without room for an activation, and scripts that
  have none.
* `jobsAlike` — jobs that have none end alike with more room.
* `Engine.run_withLimit` — a program under another limit.
* `higher_limit_changes_nothing` — a program under two limits on new engines.
-/

/-- The same state with another limit on the depth. -/
def Engine.withLimit (engine : Engine) (limit : Nat) : Engine :=
  { engine with config := { engine.config with maxDepth := limit } }

/-- What is left starts with the counting of an activation, and there is no room for it. -/
def Script.MeetsLimit (rest : Script Value) (state : Engine) : Prop :=
  ∃ next, rest = .act Activation.descend next ∧ state.config.maxDepth ≤ state.depth

/-- The same state with another limit, and with some activations less. -/
def Engine.withRoom (engine : Engine) (limit fewer : Nat) : Engine :=
  { engine.withLimit limit with depth := engine.depth - fewer }

/-- There are so many activations to leave away, and without them there is no less room. -/
structure Engine.MayLeave (engine : Engine) (limit fewer : Nat) : Prop where
  running : fewer ≤ engine.depth
  higher : engine.config.maxDepth ≤ limit + fewer

theorem Engine.MayLeave.of_same {before after : Engine} {limit fewer : Nat}
    (may : before.MayLeave limit fewer) (config : after.config = before.config)
    (depth : after.depth = before.depth) : after.MayLeave limit fewer :=
  ⟨depth ▸ may.running, config ▸ may.higher⟩

/-! ### Actions -/

/-- The actions that count no activations. -/
inductive Action.Uncounted : {β : Type} → Action β → Prop where
  | routine {β : Type} {action : Action β} (h : action.Routine) : Uncounted action
  | readCall (scope : LocalsId) : Uncounted (readCall scope)

section Actions

variable {β : Type} {action : Action β}

/-- A routine action sees neither the limit nor the depth. -/
theorem Action.Routine.withRoom (h : action.Routine) (before : Engine) (limit fewer : Nat) :
    action.on (before.withRoom limit fewer)
      = ((action.on before).1, (action.on before).2.withRoom limit fewer) := by
  induction h generalizing before with
  | answer | fail | change | extend | print | newIdentity => rfl
  | @bind _ _ x f first rest firstIH restIH =>
    rw [on_bind, on_bind, firstIH before]
    rcases x.on before with ⟨error | value, after⟩
    · rfl
    · exact restIH value after
  | @read α view blind rest ih =>
    have same : view (before.withRoom limit fewer) = view before := by
      rw [← blind, show (before.withRoom limit fewer).visible = before.visible from rfl, blind]
    show (view (before.withRoom limit fewer)).on (before.withRoom limit fewer) = _
    rw [same]
    exact ih before before

theorem Action.Uncounted.withRoom (uncounted : action.Uncounted) (before : Engine)
    (limit fewer : Nat) :
    action.on (before.withRoom limit fewer)
      = ((action.on before).1, (action.on before).2.withRoom limit fewer) := by
  cases uncounted with
  | routine h => exact h.withRoom before limit fewer
  | readCall scope => rfl

theorem Action.Uncounted.level (uncounted : action.Uncounted) (before : Engine) :
    (action.on before).2.config = before.config ∧ (action.on before).2.depth = before.depth := by
  cases uncounted with
  | routine h => exact ⟨(h.level before).2.1, (h.level before).1⟩
  | readCall scope => exact ⟨rfl, rfl⟩

end Actions

/-! ### Scripts -/

namespace Script

/-- At no moment is an activation refused for want of depth. -/
def NeverFull (script : Script Value) (before : Engine) : Prop :=
  ∀ inside rest state, script.Reaches before inside rest state → ¬ rest.MeetsLimit state

theorem neverFull_done (outcome : Except Unwind Value) (before : Engine) :
    (done outcome).NeverFull before := by
  rintro inside rest state (_ | _) ⟨next, same, -⟩
  exact nomatch same

theorem neverFull_act_iff {β : Type} {action : Action β} {next : β → Script Value}
    {before : Engine} :
    (act action next).NeverFull before ↔ ¬ (act action next).MeetsLimit before
      ∧ ∀ answer between, action.on before = (.ok answer, between) →
        (next answer).NeverFull between := by
  constructor
  · intro never
    exact ⟨never _ _ _ .here, fun answer between acted inside rest state later =>
      never _ _ _ (.afterAct acted later)⟩
  · rintro ⟨now, onward⟩ inside rest state reached
    cases reached with
    | here => exact now
    | afterAct acted later => exact onward _ _ acted _ _ _ later

theorem neverFull_ask_iff {job : Job} {next : Except Unwind Value → Script Value}
    {before : Engine} :
    (ask job next).NeverFull before ↔ (∀ passes, (doJob passes job).NeverFull before)
      ∧ ∀ outcome between, Finishes job before outcome between →
        (next outcome).NeverFull between := by
  constructor
  · intro never
    exact ⟨fun passes inside rest state inner => never _ _ _ (.within inner),
      fun outcome between answered inside rest state later =>
        never _ _ _ (.afterAsk answered later)⟩
  · rintro ⟨jobs, onward⟩ inside rest state reached
    cases reached with
    | here =>
      rintro ⟨next, same, -⟩
      exact nomatch same
    | within inner => exact jobs _ _ _ _ inner
    | afterAsk answered later => exact onward _ _ answered _ _ _ later

theorem NeverFull.act {β : Type} {action : Action β} {next : β → Script Value} {before : Engine}
    (room : before.depth < before.config.maxDepth)
    (onward : ∀ answer between, action.on before = (.ok answer, between) →
      (next answer).NeverFull between) : (act action next).NeverFull before :=
  neverFull_act_iff.mpr ⟨fun ⟨_, _, full⟩ => Nat.not_le_of_lt room full, onward⟩

theorem NeverFull.evaluate {job : Job} {before : Engine}
    (never : ∀ passes, (doJob passes job).NeverFull before) :
    (Script.evaluate job).NeverFull before :=
  neverFull_ask_iff.mpr ⟨never, fun _ _ _ => neverFull_done _ _⟩

end Script

/-! ### Two evaluations -/

/-- What ends in a state ends in the same way with more room, and leaves settings and depth as they
    were. -/
structure RunsAlike {α : Type} (before : Engine) (limit fewer : Nat)
    (here there : Option (Except Unwind α × Engine)) : Prop where
  same : there = here.map fun (outcome, after) => (outcome, after.withRoom limit fewer)
  level {outcome : Except Unwind α} {after : Engine} : here = some (outcome, after) →
    after.config = before.config ∧ after.depth = before.depth

/-- With so much fuel, jobs that are never refused for want of depth end alike with more room. -/
def JobsAlike (fuel limit fewer : Nat) : Prop :=
  ∀ job before, before.MayLeave limit fewer → (∀ passes, (doJob passes job).NeverFull before) →
    RunsAlike before limit fewer (evaluator fuel job before)
      (evaluator fuel job (before.withRoom limit fewer))

/-- Scripts that count no activations themselves. -/
def Shape.uncounted : Shape where
  acts := Action.Uncounted
  asks _ := True
  raises _ := True
  passes _ _ := True

section Room

variable {limit fewer fuel : Nat}

/-- A script that counts no activations itself runs alike, if its jobs do. -/
theorem Script.runsAlike (jobs : JobsAlike fuel limit fewer) {x : Script Value}
    (fits : x.Fits .uncounted) {before : Engine} (may : before.MayLeave limit fewer)
    (never : x.NeverFull before) :
    RunsAlike before limit fewer (x.run (evaluator fuel) before)
      (x.run (evaluator fuel) (before.withRoom limit fewer)) := by
  induction x generalizing before with
  | done ending =>
    refine ⟨rfl, fun {outcome after} ends => ?_⟩
    obtain ⟨-, rfl⟩ := Prod.mk.inj (Option.some.inj ends)
    exact ⟨rfl, rfl⟩
  | outOfFuel => exact ⟨rfl, fun ends => nomatch ends⟩
  | act action next ih =>
    obtain ⟨uncounted, fits'⟩ := fits
    obtain ⟨-, onward⟩ := neverFull_act_iff.mp never
    obtain ⟨config, depth⟩ := uncounted.level before
    rw [run, run, uncounted.withRoom before]
    rcases acted : action.on before with ⟨error | answer, between⟩
    · rw [acted] at config depth
      refine ⟨rfl, fun {outcome after} ends => ?_⟩
      obtain ⟨-, rfl⟩ := Prod.mk.inj (Option.some.inj ends)
      exact ⟨config, depth⟩
    · rw [acted] at config depth
      obtain ⟨same, level⟩ := ih answer (fits' answer) (may.of_same config depth)
        (onward _ _ acted)
      refine ⟨same, fun ends => ?_⟩
      obtain ⟨config', depth'⟩ := level ends
      exact ⟨config'.trans config, depth'.trans depth⟩
  | ask job next ih =>
    obtain ⟨asked, onward⟩ := neverFull_ask_iff.mp never
    obtain ⟨same, level⟩ := jobs job before may asked
    rw [run, run, same]
    cases answered : evaluator fuel job before with
    | none =>
      refine ⟨rfl, fun ends => ?_⟩
      cases ends
    | some ending =>
      obtain ⟨result, between⟩ := ending
      obtain ⟨config, depth⟩ := level answered
      obtain ⟨same', level'⟩ := ih result (fits.next (fun _ => trivial) result)
        (may.of_same config depth) (onward _ _ ⟨fuel, answered⟩)
      refine ⟨same', fun ends => ?_⟩
      obtain ⟨config', depth'⟩ := level' ends
      exact ⟨config'.trans config, depth'.trans depth⟩

/-- An activation that takes its arguments and never meets the limit has room, and its code never
    meets the limit either. -/
theorem Activation.enters_of_neverFull {activation : Activation} {before : Engine}
    (takes : before.store.tooMany activation.code activation.arguments.length = false)
    (never : activation.run.NeverFull before) :
    before.depth < before.config.maxDepth
      ∧ ∀ passes, (doJob passes (.enter activation)).NeverFull before.deeper := by
  rw [run_eq] at never
  have checked : (checkArgumentCount activation.code activation.message.name.content
      activation.arguments.length).on before = (.ok (), before) := by
    rw [checkArgumentCount_on, takes]
    rfl
  obtain ⟨notFull, descends⟩ :=
    Script.neverFull_act_iff.mp ((Script.neverFull_act_iff.mp never).2 _ _ checked)
  have room : before.depth < before.config.maxDepth :=
    Nat.lt_of_not_le fun full => notFull ⟨_, rfl, full⟩
  have descended : descend.on before = (.ok (), before.deeper) := by
    rw [descend_on, if_neg (Nat.not_le_of_lt room)]
  exact ⟨room, (Script.neverFull_ask_iff.mp (descends _ _ descended)).1⟩

/-- An activation that is not refused for want of depth runs alike, if its code does. -/
theorem Activation.runsAlike (jobs : JobsAlike fuel limit fewer) {activation : Activation}
    {before : Engine} (may : before.MayLeave limit fewer)
    (never : activation.run.NeverFull before) :
    RunsAlike before limit fewer (activation.run.run (evaluator fuel) before)
      (activation.run.run (evaluator fuel) (before.withRoom limit fewer)) := by
  have many : (before.withRoom limit fewer).store = before.store := rfl
  rw [run_run, run_run, refusal?, refusal?, many]
  cases takes : before.store.tooMany activation.code activation.arguments.length with
  | true =>
    refine ⟨rfl, fun {outcome after} ends => ?_⟩
    obtain ⟨-, rfl⟩ := Prod.mk.inj (Option.some.inj ends)
    exact ⟨rfl, rfl⟩
  | false =>
    obtain ⟨room, entered⟩ := enters_of_neverFull takes never
    obtain ⟨running, higher⟩ := may
    have still : ¬ (before.withRoom limit fewer).config.maxDepth
        ≤ (before.withRoom limit fewer).depth := by
      show ¬ limit ≤ before.depth - fewer
      omega
    rw [if_neg (Nat.not_le_of_lt room), if_neg still]
    have deeper : (before.withRoom limit fewer).deeper = before.deeper.withRoom limit fewer := by
      rw [Engine.withRoom, Engine.withRoom, Engine.deeper, Engine.deeper]
      exact congrArg (fun depth => { before.withLimit limit with depth := depth })
        (Nat.sub_add_comm running).symm
    have shallower : ∀ after : Engine,
        (after.withRoom limit fewer).shallower = after.shallower.withRoom limit fewer := by
      intro after
      exact congrArg (fun depth => { after.withLimit limit with depth := depth })
        (Nat.sub_right_comm after.depth fewer 1)
    obtain ⟨same, level⟩ :=
      jobs (.enter activation) before.deeper ⟨Nat.le_succ_of_le running, higher⟩ entered
    simp only [Bool.false_eq_true, ↓reduceIte]
    rw [deeper, same]
    cases answered : evaluator fuel (.enter activation) before.deeper with
    | none =>
      refine ⟨rfl, fun ends => ?_⟩
      cases ends
    | some ending =>
      obtain ⟨outcome, between⟩ := ending
      obtain ⟨config, depth⟩ := level answered
      refine ⟨congrArg (fun state => some (activation.leave outcome, state)) (shallower between),
        fun ends => ?_⟩
      obtain ⟨-, rfl⟩ := Prod.mk.inj (Option.some.inj ends)
      refine ⟨config, ?_⟩
      rw [Engine.depth_shallower, depth, Engine.depth_deeper, Nat.add_sub_cancel]

/-- By induction on the fuel, which the scripts of the jobs are run with one unit less of. -/
theorem jobsAlike (fuel limit fewer : Nat) : JobsAlike fuel limit fewer := by
  induction fuel with
  | zero => exact fun _ _ _ _ => ⟨rfl, fun ends => nomatch ends⟩
  | succ fuel ih =>
    intro job before may never
    cases job with
    | eval node scope =>
      refine Script.runsAlike ih ?_ may (never fuel)
      refine (evalNode_fits fuel scope node).mono (fun acts => ?_) (fun _ _ => trivial)
        (fun _ _ => trivial) fun _ _ _ => trivial
      cases acts with
      | ordinary h => exact .routine h.routine
      | readCall h => exact .readCall scope
    | enter activation =>
      refine Script.runsAlike ih ?_ may (never fuel)
      exact activation.enter_fits.mono .routine (fun _ _ => trivial) (fun _ _ => trivial)
        fun _ _ _ => trivial
    | activate activation => exact Activation.runsAlike ih may (never fuel)

end Room

/-! ### Programs -/

/-- A program that never meets the limit ends alike under a higher one. -/
theorem Engine.run_withLimit {engine after : Engine} {limit fuel : Nat} {program : Node}
    {result : Except ErrorReport Value} (higher : engine.config.maxDepth ≤ limit)
    (never : (Script.evaluate (engine.jobOf program)).NeverFull (engine.load program).2)
    (ended : engine.run fuel program = some (result, after)) :
    (engine.withLimit limit).run fuel program = some (result, after.withLimit limit) := by
  obtain ⟨⟨outcome, state⟩, evaluated, same⟩ := Option.map_eq_some_iff.mp ended
  obtain ⟨rfl, rfl⟩ := Prod.mk.inj same
  obtain ⟨jobs, -⟩ := Script.neverFull_ask_iff.mp never
  have alike := (jobsAlike fuel limit 0 _ (engine.load program).2 ⟨Nat.zero_le _, higher⟩ jobs).same
  refine Option.map_eq_some_iff.mpr ⟨(outcome, state.withLimit limit), ?_, rfl⟩
  exact alike.trans (congrArg _ evaluated)

/-- **The limit on the depth.**  If a program ends on a new engine, and at no moment of its
    evaluation an activation is refused for want of depth, also not where the error would be caught,
    then under any higher limit it ends in the same way: with the same value, or the same error and
    backtrace, and in the same state with the same text printed, but for the limit itself. -/
theorem higher_limit_changes_nothing {config : Config} {limit fuel : Nat} {program : Node}
    {result : Except ErrorReport Value} {after : Engine} (higher : config.maxDepth ≤ limit)
    (ended : (Engine.new config).run fuel program = some (result, after))
    (never : (Script.evaluate ((Engine.new config).jobOf program)).NeverFull
      ((Engine.new config).load program).2) :
    (Engine.new { config with maxDepth := limit }).run fuel program
      = some (result, after.withLimit limit) :=
  Engine.run_withLimit higher never ended

/-- Sends `isNil` to an integer. -/
def nilTest : Node := .send (some (.integer 1)) "isNil" [] none

/-- The built-in that this comes to. -/
def nilTestFound : Found := ⟨objectPrototype, .primitive (.plain (.object .isNil))⟩

theorem neverFull_nilTest {before : Engine} {name : Text}
    (room : before.depth + 1 < before.config.maxDepth)
    (looked : (Action.findOn (.int 1) name.content).on before = (.ok (some nilTestFound), before)) :
    (Script.evaluate (.eval (.send (some (.integer 1)) name [] none) World.moduleLocals)).NeverFull
      before := by
  have here : before.depth < before.config.maxDepth := Nat.lt_of_succ_lt room
  refine .evaluate fun passes => ?_
  -- The receiver is evaluated, and then the built-in is found and activated.
  refine Script.neverFull_ask_iff.mpr ⟨fun _ => Script.neverFull_done _ _, fun _ _ ends => ?_⟩
  obtain ⟨rfl, rfl⟩ := ends.unique ⟨1, rfl⟩
  refine .act here fun _ _ found => ?_
  obtain ⟨same, rfl⟩ := Prod.mk.inj (found.symm.trans looked)
  obtain rfl := Except.ok.inj same
  refine .act here fun _ _ checked => ?_
  obtain ⟨-, rfl⟩ := Prod.mk.inj checked
  refine .evaluate fun passes => ?_
  -- The activation is checked and counted, and runs one deeper.
  refine .act here fun _ _ checked => ?_
  obtain ⟨-, rfl⟩ := Prod.mk.inj checked
  refine .act here fun _ _ descended => ?_
  obtain ⟨rfl, -⟩ := Activation.descend_ok descended
  refine Script.neverFull_ask_iff.mpr ⟨fun _ => ?_, fun _ _ ends => ?_⟩
  · exact .act room fun _ _ _ => Script.neverFull_done _ _
  · obtain ⟨rfl, rfl⟩ := ends.unique ⟨1, rfl⟩
    exact .act room fun _ _ _ => Script.neverFull_done _ _

/-- The test nests one activation, and so does not see whether two or three are allowed. -/
theorem nilTest_under_higher_limit :
    ∃ result after, (Engine.new { maxDepth := 2 }).run 4 nilTest = some (result, after)
      ∧ (Engine.new { maxDepth := 3 }).run 4 nilTest = some (result, after.withLimit 3) := by
  have found : (Engine.new {}).store.lookupOn (.int 1) "isNil" = some nilTestFound :=
    Store.lookup_eq_of_code rfl (by decide +kernel)
  have never := @neverFull_nilTest ((Engine.new { maxDepth := 2 }).load nilTest).2
    (.numbered "isNil" World.nextIdentity) (by decide)
    (congrArg (fun found => (Except.ok found, _)) found)
  have ends : ((Engine.new { maxDepth := 2 }).run 4 nilTest).isSome = true := by decide +kernel
  obtain ⟨⟨result, after⟩, ended⟩ := Option.isSome_iff_exists.mp ends
  exact ⟨result, after, ended, higher_limit_changes_nothing (by decide) ended never⟩

end SlotTalk
