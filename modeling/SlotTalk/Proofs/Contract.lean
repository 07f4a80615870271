import SlotTalk.Eval.Fuel

namespace SlotTalk

/-!
# Contracts

A contract says what holds at every point of an evaluation, which actions may be taken where, which
jobs may be asked for where, and how each job ends.  If the script of each job keeps to it, then so
does every evaluation, to its end and at each moment on the way, whether it ends or not.

* `Contract`, `Script.Keeps` — the contract, and a script that keeps to it from a state on.
* `Contract.Valid` — the scripts of all jobs keep to it.
* `Valid.finishes`, `Valid.ends` — how jobs and scripts end.
* `Contract.Hides`, `Valid.evaluator_hide` — where all actions that are allowed do the same in
  another state, so do the jobs.
* `Script.Reaches`, `Valid.reaches` — the moments of an evaluation, with the activations that were
  entered by then.
-/

/-- What evaluations promise. -/
structure Contract where
  /-- Holds at every point of an evaluation. -/
  always : Engine → Prop
  /-- The action may be taken in the state. -/
  allows : {β : Type} → Action β → Engine → Prop
  /-- The job may be asked for in the state. -/
  requires : Job → Engine → Prop
  /-- The job, asked for in the first state, may end in this way and state. -/
  ensures : Job → Engine → Except Unwind Value → Engine → Prop

/-- The script keeps to the contract from the state on, and ends as the last argument says. -/
def Script.Keeps {α : Type} (contract : Contract) :
    Script α → Engine → (Except Unwind α → Engine → Prop) → Prop
  | done outcome, before, post => contract.always before ∧ post outcome before
  | outOfFuel, before, _ => contract.always before
  | act action next, before, post =>
    contract.always before ∧ contract.allows action before ∧
      (∀ answer after, action.on before = (.ok answer, after) →
        (next answer).Keeps contract after post) ∧
      ∀ error after, action.on before = (.error error, after) →
        contract.always after ∧ post (.error (.ofError error)) after
  | ask job next, before, post =>
    contract.always before ∧ contract.requires job before ∧
      ∀ outcome after, contract.ensures job before outcome after →
        (next outcome).Keeps contract after post

namespace Script.Keeps

variable {α β : Type} {contract : Contract}

theorem always {x : Script α} {before : Engine} {post : Except Unwind α → Engine → Prop}
    (h : x.Keeps contract before post) : contract.always before := by
  cases x with
  | done | act | ask => exact h.1
  | outOfFuel => exact h

theorem mono {x : Script α} {before : Engine} {post post' : Except Unwind α → Engine → Prop}
    (h : x.Keeps contract before post)
    (weaker : ∀ outcome after, post outcome after → post' outcome after) :
    x.Keeps contract before post' := by
  induction x generalizing before with
  | done outcome => exact ⟨h.1, weaker _ _ h.2⟩
  | outOfFuel => exact h
  | act action next ih =>
    obtain ⟨safe, allowed, onward, failed⟩ := h
    refine ⟨safe, allowed, fun answer after acted => ih _ (onward answer after acted), ?_⟩
    intro error after acted
    obtain ⟨safe', holds⟩ := failed error after acted
    exact ⟨safe', weaker _ _ holds⟩
  | ask job next ih =>
    obtain ⟨safe, required, rest⟩ := h
    exact ⟨safe, required, fun outcome after ensured => ih _ (rest outcome after ensured)⟩

/-- One script after the other; an unwinding of the first is one of both. -/
theorem bind {x : Script α} {f : α → Script β} {before : Engine}
    {post : Except Unwind α → Engine → Prop} {post' : Except Unwind β → Engine → Prop}
    (first : x.Keeps contract before post)
    (rest : ∀ value after, post (.ok value) after → (f value).Keeps contract after post')
    (unwinds : ∀ unwind after, post (.error unwind) after → post' (.error unwind) after) :
    (x >>= f).Keeps contract before post' := by
  show (x.bind f).Keeps contract before post'
  induction x generalizing before with
  | done outcome =>
    cases outcome with
    | ok value => exact rest value before first.2
    | error unwind => exact ⟨first.1, unwinds unwind before first.2⟩
  | outOfFuel => exact first
  | act action next ih =>
    obtain ⟨safe, allowed, onward, failed⟩ := first
    refine ⟨safe, allowed, fun answer after acted => ih answer (onward answer after acted), ?_⟩
    intro error after acted
    obtain ⟨safe', holds⟩ := failed error after acted
    exact ⟨safe', unwinds _ after holds⟩
  | ask job next ih =>
    obtain ⟨safe, required, onward⟩ := first
    exact ⟨safe, required, fun outcome after ensured => ih outcome (onward outcome after ensured)⟩

/-- What one contract tells of a script can be used with another one whose jobs promise more. -/
theorem and {weaker : Contract} {x : Script α} {before : Engine}
    {post post' : Except Unwind α → Engine → Prop} (h : x.Keeps contract before post)
    (h' : x.Keeps weaker before post')
    (more : ∀ job before outcome after, contract.ensures job before outcome after →
      weaker.ensures job before outcome after) :
    x.Keeps contract before fun outcome after => post outcome after ∧ post' outcome after := by
  induction x generalizing before with
  | done outcome => exact ⟨h.1, h.2, h'.2⟩
  | outOfFuel => exact h
  | act action next ih =>
    obtain ⟨safe, allowed, onward, failed⟩ := h
    obtain ⟨-, -, onward', failed'⟩ := h'
    refine ⟨safe, allowed, fun answer after acted => ?_, fun error after acted => ?_⟩
    · exact ih answer (onward answer after acted) (onward' answer after acted)
    · exact ⟨(failed error after acted).1, (failed error after acted).2,
        (failed' error after acted).2⟩
  | ask job next ih =>
    obtain ⟨safe, required, onward⟩ := h
    refine ⟨safe, required, fun outcome after ensured => ?_⟩
    exact ih outcome (onward outcome after ensured) (h'.2.2 outcome after (more _ _ _ _ ensured))

/-- A script that keeps to the contract ends as it says, if the jobs do. -/
theorem run {evaluate : Evaluator}
    (sound : ∀ job before outcome after, contract.requires job before →
      evaluate job before = some (outcome, after) → contract.ensures job before outcome after)
    {x : Script α} {before after : Engine} {outcome : Except Unwind α}
    {post : Except Unwind α → Engine → Prop} (h : x.Keeps contract before post)
    (ends : x.run evaluate before = some (outcome, after)) : post outcome after := by
  induction x generalizing before with
  | done outcome =>
    obtain ⟨rfl, rfl⟩ := Prod.mk.inj (Option.some.inj ends)
    exact h.2
  | outOfFuel => exact nomatch ends
  | act action next ih =>
    obtain ⟨safe, allowed, onward, failed⟩ := h
    rw [Script.run] at ends
    split at ends
    next answer between acted => exact ih _ (onward _ _ acted) ends
    next error between acted =>
      obtain ⟨rfl, rfl⟩ := Prod.mk.inj (Option.some.inj ends)
      exact (failed _ _ acted).2
  | ask job next ih =>
    obtain ⟨safe, required, rest⟩ := h
    rw [Script.run] at ends
    split at ends
    next result between answered =>
      exact ih _ (rest _ _ (sound job _ _ _ required answered)) ends
    next => cases ends

end Script.Keeps

/-! ### Activations -/

theorem checkArgumentCount_on (code : Invokable) (name : String) (supplied : Nat)
    (before : Engine) :
    (checkArgumentCount code name supplied).on before =
      if before.store.tooMany code supplied then
        (.error (.tooManyArguments name (before.store.arity code) supplied), before)
      else (.ok (), before) := by
  show (if before.store.tooMany code supplied then throw _ else pure () : Action Unit).on before = _
  split
  · rfl
  · rfl

theorem checkArgumentCount_ok {code : Invokable} {name : String} {supplied : Nat}
    {before after : Engine} {answer : Unit}
    (h : (checkArgumentCount code name supplied).on before = (.ok answer, after)) :
    after = before ∧ ¬ before.store.tooMany code supplied := by
  rw [checkArgumentCount_on] at h
  split at h
  next => exact nomatch h
  next fits => exact ⟨(Prod.mk.inj h).2.symm, fits⟩

theorem checkArgumentCount_error {code : Invokable} {name : String} {supplied : Nat}
    {before after : Engine} {error : RuntimeError}
    (h : (checkArgumentCount code name supplied).on before = (.error error, after)) :
    after = before ∧ before.store.tooMany code supplied
      ∧ error = .tooManyArguments name (before.store.arity code) supplied := by
  rw [checkArgumentCount_on] at h
  split at h
  next many =>
    obtain ⟨same, rfl⟩ := Prod.mk.inj h
    exact ⟨rfl, many, (Except.error.inj same).symm⟩
  next => exact nomatch h

namespace Activation

theorem descend_on (before : Engine) :
    descend.on before =
      if before.config.maxDepth ≤ before.depth then
        (.error (.stackOverflow before.config.maxDepth), before)
      else (.ok (), before.deeper) := by
  show (if before.config.maxDepth ≤ before.depth then throw _ else set before.deeper :
    Action Unit).on before = _
  split
  · rfl
  · rfl

theorem descend_ok {before after : Engine} {answer : Unit}
    (h : descend.on before = (.ok answer, after)) :
    after = before.deeper ∧ before.depth < before.config.maxDepth := by
  rw [descend_on] at h
  split at h
  next => exact nomatch h
  next room => exact ⟨(Prod.mk.inj h).2.symm, Nat.lt_of_not_le room⟩

theorem descend_error {before after : Engine} {error : RuntimeError}
    (h : descend.on before = (.error error, after)) :
    after = before ∧ before.config.maxDepth ≤ before.depth
      ∧ error = .stackOverflow before.config.maxDepth := by
  rw [descend_on] at h
  split at h
  next full =>
    obtain ⟨same, rfl⟩ := Prod.mk.inj h
    exact ⟨rfl, full, (Except.error.inj same).symm⟩
  next => exact nomatch h

theorem ascend_on (before : Engine) : ascend.on before = (.ok (), before.shallower) := rfl

theorem ascend_ne_error (before : Engine) (error : RuntimeError) (after : Engine) :
    ascend.on before ≠ (.error error, after) := by
  rw [ascend_on]
  exact nofun

theorem ascend_ok {before after : Engine} {answer : Unit}
    (h : ascend.on before = (.ok answer, after)) : after = before.shallower :=
  (Prod.mk.inj h).2.symm

/-- Why the activation is not let in. -/
inductive Refuses (activation : Activation) (before : Engine) : RuntimeError → Prop where
  | arguments
    (h : before.store.tooMany activation.code activation.arguments.length) :
    Refuses activation before
      (.tooManyArguments activation.message.name.content (before.store.arity activation.code)
        activation.arguments.length)
  | depth (fits : ¬ before.store.tooMany activation.code activation.arguments.length)
    (h : before.config.maxDepth ≤ before.depth) :
    Refuses activation before (.stackOverflow before.config.maxDepth)

/-- The script of an activation, with the jobs and actions one after the other. -/
theorem run_eq (activation : Activation) :
    activation.run =
      .act (checkArgumentCount activation.code activation.message.name.content
        activation.arguments.length) fun _ =>
      .act descend fun _ =>
      .ask (.enter activation) fun outcome =>
      .act ascend fun _ => .done (activation.leave outcome) := rfl

/-- Code with a body opens a scope for it, and evaluates it there. -/
theorem enter_of_function {activation : Activation} {id : FunctionId}
    (code : activation.code = .function id) :
    activation.enter = Script.ofAction (activation.openFunction id) >>= runBody := by
  rw [enter, code]
  rfl

theorem enter_of_block {activation : Activation} {id : BlockId}
    (code : activation.code = .block id) :
    activation.enter = Script.ofAction (activation.openBlock id) >>= runBody := by
  rw [enter, code]
  rfl

theorem enter_of_method {activation : Activation} {id : MethodId}
    (code : activation.code = .method id) :
    activation.enter = Script.ofAction (activation.openMethod id) >>= runBody := by
  rw [enter, code]
  rfl

/-- Why the activation is not let in, if it is not. -/
def refusal? (activation : Activation) (before : Engine) : Option RuntimeError :=
  if before.store.tooMany activation.code activation.arguments.length then
    some (.tooManyArguments activation.message.name.content (before.store.arity activation.code)
      activation.arguments.length)
  else if before.config.maxDepth ≤ before.depth then some (.stackOverflow before.config.maxDepth)
  else none

/-- An activation is let in if it has no argument too many and there is room for it. -/
theorem refusal?_eq_none_iff {activation : Activation} {before : Engine} :
    activation.refusal? before = none
      ↔ ¬ before.store.tooMany activation.code activation.arguments.length
        ∧ before.depth < before.config.maxDepth := by
  rw [refusal?]
  by_cases many : before.store.tooMany activation.code activation.arguments.length = true
  · simp [many]
  · by_cases full : before.config.maxDepth ≤ before.depth
    · simp [many, full]
    · simp [many, full, Nat.lt_of_not_le full]

/-- How an activation runs, as a whole. -/
theorem run_run (activation : Activation) (evaluate : Evaluator) (before : Engine) :
    activation.run.run evaluate before =
      match activation.refusal? before with
      | some error => some (.error (.ofError error), before)
      | none => (evaluate (.enter activation) before.deeper).map fun (outcome, after) =>
          (activation.leave outcome, after.shallower) := by
  rw [run_eq, Script.run, checkArgumentCount_on, refusal?]
  by_cases many : before.store.tooMany activation.code activation.arguments.length = true
  · rw [if_pos many, if_pos many]
  rw [if_neg many, if_neg many]
  simp only [Script.run, descend_on]
  by_cases full : before.config.maxDepth ≤ before.depth
  · rw [if_pos full, if_pos full]
  rw [if_neg full, if_neg full]
  cases answered : evaluate (.enter activation) before.deeper with
  | none => simp only [answered, Option.map_none]
  | some ending => simp only [answered, Option.map_some, ascend_on]

/-- **Activations.** An activation is refused at once, or else counted, entered, discounted and
    noted in the report of an error. -/
theorem run_keeps {contract : Contract} {activation : Activation} {before : Engine}
    {post : Except Unwind Value → Engine → Prop} (start : contract.always before)
    (checks : contract.allows
      (checkArgumentCount activation.code activation.message.name.content
        activation.arguments.length) before)
    (descends : contract.allows descend before)
    (refused : ∀ error, activation.Refuses before error → post (.error (.ofError error)) before)
    (entered : before.depth < before.config.maxDepth →
      contract.always before.deeper ∧ contract.requires (.enter activation) before.deeper
        ∧ ∀ outcome after, contract.ensures (.enter activation) before.deeper outcome after →
          contract.always after ∧ contract.allows ascend after
            ∧ contract.always after.shallower
            ∧ post (activation.leave outcome) after.shallower) :
    activation.run.Keeps contract before post := by
  rw [run_eq]
  refine ⟨start, checks, fun _ between checked => ?_, fun error after checked => ?_⟩
  · obtain ⟨rfl, fits⟩ := checkArgumentCount_ok checked
    refine ⟨start, descends, fun _ inner descended => ?_, fun error after descended => ?_⟩
    · obtain ⟨rfl, room⟩ := descend_ok descended
      obtain ⟨safe, required, back⟩ := entered room
      refine ⟨safe, required, fun outcome after ensured => ?_⟩
      obtain ⟨safe', allowed, safe'', ended⟩ := back outcome after ensured
      refine ⟨safe', allowed, fun _ last ascended => ?_, fun error last failed => ?_⟩
      · obtain rfl := ascend_ok ascended
        exact ⟨safe'', ended⟩
      · exact absurd failed (ascend_ne_error after error last)
    · obtain ⟨rfl, full, rfl⟩ := descend_error descended
      exact ⟨start, refused _ (.depth fits full)⟩
  · obtain ⟨rfl, many, rfl⟩ := checkArgumentCount_error checked
    exact ⟨start, refused _ (.arguments many)⟩

/-- How the running of an activation ends, as seen from what its code does. -/
inductive RunEnds (activation : Activation) (evaluate : Evaluator) (before : Engine) :
    Except Unwind Value → Engine → Prop where
  | refused {error : RuntimeError} (h : activation.Refuses before error) :
    RunEnds activation evaluate before (.error (.ofError error)) before
  | entered (fits : ¬ before.store.tooMany activation.code activation.arguments.length)
    (room : before.depth < before.config.maxDepth) {outcome : Except Unwind Value}
    {between : Engine}
    (answered : evaluate (.enter activation) before.deeper = some (outcome, between)) :
    RunEnds activation evaluate before (activation.leave outcome) between.shallower

theorem run_ends {activation : Activation} {evaluate : Evaluator}
    {before after : Engine} {outcome : Except Unwind Value}
    (ends : activation.run.run evaluate before = some (outcome, after)) :
    activation.RunEnds evaluate before outcome after := by
  rw [run_eq, Script.run, checkArgumentCount_on] at ends
  by_cases many : before.store.tooMany activation.code activation.arguments.length
  · simp only [many, ↓reduceIte] at ends
    obtain ⟨rfl, rfl⟩ := Prod.mk.inj (Option.some.inj ends)
    exact .refused (.arguments many)
  simp only [many, Bool.false_eq_true, ↓reduceIte, Script.run, descend_on] at ends
  by_cases full : before.config.maxDepth ≤ before.depth
  · simp only [full, ↓reduceIte] at ends
    obtain ⟨rfl, rfl⟩ := Prod.mk.inj (Option.some.inj ends)
    exact .refused (.depth many full)
  simp only [full, ↓reduceIte] at ends
  split at ends
  next result between answered =>
    simp only [ascend_on] at ends
    obtain ⟨rfl, rfl⟩ := Prod.mk.inj (Option.some.inj ends)
    exact .entered many (Nat.lt_of_not_le full) answered
  next => cases ends

/-- An activation that fails was not let in, or hands on the report of its code with one more
    line. -/
theorem run_fails {activation : Activation} {evaluate : Evaluator} {before after : Engine}
    {report : ErrorReport}
    (ends : activation.run.run evaluate before = some (.error (.failed report), after)) :
    (∃ error, activation.Refuses before error ∧ report = { error } ∧ after = before)
      ∨ (¬ before.store.tooMany activation.code activation.arguments.length
        ∧ before.depth < before.config.maxDepth
        ∧ ∃ inner between,
          evaluate (.enter activation) before.deeper = some (.error (.failed inner), between)
            ∧ report = inner.push activation.entry ∧ after = between.shallower) := by
  generalize outcomeEq : Except.error (Unwind.failed report) = outcome at ends
  cases run_ends ends with
  | @refused error h =>
    obtain rfl := Unwind.failed.inj (Except.error.inj outcomeEq)
    exact .inl ⟨error, h, rfl, rfl⟩
  | @entered fits room result between answered =>
    -- Of all ways in which the code can end, only a failure becomes a failure.
    match result with
    | .error (.failed inner) =>
      obtain rfl := Unwind.failed.inj (Except.error.inj outcomeEq)
      exact .inr ⟨fits, room, inner, between, answered, rfl, rfl⟩
    | .ok _ | .error (.broke _) | .error .continued | .error (.returned _) =>
      exact nomatch outcomeEq

end Activation

/-! ### The ends of an evaluation -/

/-- The script ends in the given way from the given state, with some amount of fuel. -/
def Script.Ends {α : Type} (script : Script α) (before : Engine) (outcome : Except Unwind α)
    (after : Engine) : Prop :=
  ∃ fuel, script.run (evaluator fuel) before = some (outcome, after)

namespace Contract

/-- The scripts of all jobs keep to the contract. -/
def Valid (contract : Contract) : Prop :=
  ∀ passes job before, contract.requires job before →
    (doJob passes job).Keeps contract before (contract.ensures job before)

variable {contract : Contract}

/-- By induction on the fuel, which the scripts of the jobs are run with one unit less of. -/
theorem Valid.evaluator (valid : contract.Valid) (fuel : Nat) (job : Job)
    (before : Engine) (outcome : Except Unwind Value) (after : Engine)
    (required : contract.requires job before)
    (ends : SlotTalk.evaluator fuel job before = some (outcome, after)) :
    contract.ensures job before outcome after := by
  induction fuel generalizing job before outcome after with
  | zero => exact nomatch ends
  | succ fuel ih => exact (valid fuel job before required).run ih ends

/-- A job that may be asked for ends as the contract says. -/
theorem Valid.finishes (valid : contract.Valid) {job : Job} {before after : Engine}
    {outcome : Except Unwind Value} (ends : Finishes job before outcome after)
    (required : contract.requires job before) : contract.ensures job before outcome after := by
  obtain ⟨fuel, ends⟩ := ends
  exact valid.evaluator fuel job before outcome after required ends

/-- A script that keeps to the contract ends as it says. -/
theorem Valid.ends {α : Type} (valid : contract.Valid) {script : Script α} {before after : Engine}
    {outcome : Except Unwind α} {post : Except Unwind α → Engine → Prop}
    (keeps : script.Keeps contract before post) (ends : script.Ends before outcome after) :
    post outcome after := by
  obtain ⟨fuel, ends⟩ := ends
  exact keeps.run (valid.evaluator fuel) ends

end Contract

/-! ### Two evaluations -/

/-- Wherever it may be taken, the action does the same in the other state. -/
def Contract.Hides (contract : Contract) (hide : Engine → Engine) : Prop :=
  ∀ {β : Type} (action : Action β) before, contract.allows action before →
    action.on (hide before) = ((action.on before).1, hide (action.on before).2)

/-- A script that keeps to the contract runs alike in the other state, if the jobs do. -/
theorem Script.Keeps.run_hide {α : Type} {contract : Contract} {hide : Engine → Engine}
    (hides : contract.Hides hide) {evaluate : Evaluator}
    (sound : ∀ job before outcome after, contract.requires job before →
      evaluate job before = some (outcome, after) → contract.ensures job before outcome after)
    (alike : ∀ job before, contract.requires job before →
      evaluate job (hide before) = (evaluate job before).map fun (outcome, after) =>
        (outcome, hide after))
    {x : Script α} {before : Engine} {post : Except Unwind α → Engine → Prop}
    (h : x.Keeps contract before post) :
    x.run evaluate (hide before) = (x.run evaluate before).map fun (outcome, after) =>
      (outcome, hide after) := by
  induction x generalizing before with
  | done outcome => rfl
  | outOfFuel => rfl
  | act action next ih =>
    obtain ⟨safe, allowed, onward, -⟩ := h
    rw [Script.run, Script.run, hides action before allowed]
    cases acted : action.on before with
    | mk result between =>
      cases result with
      | ok answer => exact ih answer (onward _ _ acted)
      | error error => rfl
  | ask job next ih =>
    obtain ⟨safe, required, onward⟩ := h
    rw [Script.run, Script.run, alike job before required]
    cases answered : evaluate job before with
    | none => rfl
    | some ending => exact ih _ (onward _ _ (sound job before _ _ required answered))

/-- Jobs run alike in the other state. -/
theorem Contract.Valid.evaluator_hide {contract : Contract} (valid : contract.Valid)
    {hide : Engine → Engine} (hides : contract.Hides hide) (fuel : Nat) (job : Job)
    (before : Engine) (required : contract.requires job before) :
    SlotTalk.evaluator fuel job (hide before)
      = (SlotTalk.evaluator fuel job before).map fun (outcome, after) => (outcome, hide after) := by
  induction fuel generalizing job before with
  | zero => rfl
  | succ fuel ih =>
    exact (valid fuel job before required).run_hide hides (valid.evaluator fuel) ih

/-! ### The moments of an evaluation -/

/-- The activation that a job enters. -/
def Job.entered : Job → List Activation
  | .enter activation => [activation]
  | .eval .. | .activate _ => []

/-- From the first state on, the script gets to a moment with the given rest and state: the rest is
    what is left of the innermost job.  The list has the activations that were entered since, and
    not left by then, innermost first. -/
inductive Script.Reaches :
    Script Value → Engine → List Activation → Script Value → Engine → Prop where
  | here {script : Script Value} {before : Engine} : Reaches script before [] script before
  | afterAct {β : Type} {action : Action β} {next : β → Script Value} {answer : β}
    {before between state : Engine} {inside : List Activation} {rest : Script Value}
    (acted : action.on before = (.ok answer, between))
    (later : Reaches (next answer) between inside rest state) :
    Reaches (act action next) before inside rest state
  | within {passes : Nat} {job : Job} {next : Except Unwind Value → Script Value}
    {before state : Engine} {inside : List Activation} {rest : Script Value}
    (inner : Reaches (doJob passes job) before inside rest state) :
    Reaches (ask job next) before (inside ++ job.entered) rest state
  | afterAsk {job : Job} {next : Except Unwind Value → Script Value}
    {outcome : Except Unwind Value} {before between state : Engine} {inside : List Activation}
    {rest : Script Value} (answered : Finishes job before outcome between)
    (later : Reaches (next outcome) between inside rest state) :
    Reaches (ask job next) before inside rest state

/-- What its code comes to, an activation that is let in comes to as well, with itself around it. -/
theorem Activation.run_reaches {activation : Activation} {before state : Engine}
    (letIn : activation.refusal? before = none) {inside : List Activation} {rest : Script Value}
    {passes : Nat}
    (inner : (doJob passes (.enter activation)).Reaches before.deeper inside rest state) :
    activation.run.Reaches before (inside ++ [activation]) rest state := by
  obtain ⟨fits, room⟩ := refusal?_eq_none_iff.mp letIn
  have checked := checkArgumentCount_on activation.code activation.message.name.content
    activation.arguments.length before
  have descended := descend_on before
  rw [if_neg fits] at checked
  rw [if_neg (Nat.not_le_of_lt room)] at descended
  exact .afterAct checked (.afterAct descended (.within inner))

/-- At each moment of an evaluation that keeps to a contract, the rest of it keeps to it, too. -/
theorem Contract.Valid.reaches {contract : Contract} (valid : contract.Valid)
    {script rest : Script Value} {before state : Engine} {inside : List Activation}
    (reached : script.Reaches before inside rest state)
    {post : Except Unwind Value → Engine → Prop} (keeps : script.Keeps contract before post) :
    ∃ post', rest.Keeps contract state post' := by
  induction reached generalizing post with
  | here => exact ⟨post, keeps⟩
  | afterAct acted later ih =>
    obtain ⟨safe, allowed, onward, failed⟩ := keeps
    exact ih (onward _ _ acted)
  | within inner ih => exact ih (valid _ _ _ keeps.2.1)
  | afterAsk answered later ih =>
    obtain ⟨safe, required, rest⟩ := keeps
    exact ih (rest _ _ (valid.finishes answered required))

end SlotTalk
