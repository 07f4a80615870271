import SlotTalk.Proofs.Contract

namespace SlotTalk

/-!
# Shapes

What a script can do is often known without the state.  The shape of a script says which actions it
takes, which jobs it asks for, in which ways of its own it unwinds, and which ways that a job
unwound it hands on unchanged.  It may end with any value.

* `Shape`, `Script.Fits` — shapes, and the scripts that have them.
* `Fits.mono`, `Fits.next` — wider shapes, and the shape of what is left after a job.
* `Fits.bind`, `Fits.loop`, `Fits.attempt` — the shapes of scripts built from others.
* `Script.Fits.keeps` — what to check so that a script of some shape keeps to a contract.
-/

/-- What scripts can do. -/
structure Shape where
  acts : {β : Type} → Action β → Prop
  asks : Job → Prop
  raises : Unwind → Prop
  passes : Job → Unwind → Prop

/-- The script has the shape. -/
def Script.Fits {α : Type} (shape : Shape) : Script α → Prop
  | done (.ok _) => True
  | done (.error unwind) => shape.raises unwind
  | outOfFuel => True
  | act action next => shape.acts action ∧ ∀ answer, (next answer).Fits shape
  | ask job next =>
    shape.asks job ∧
      ∀ outcome, (next outcome).Fits shape ∨
        ∃ unwind, outcome = .error unwind ∧ shape.passes job unwind
          ∧ next outcome = done (.error unwind)

namespace Script.Fits

variable {α β : Type} {shape : Shape}

/-- A script that fits a shape fits every shape that allows as much. -/
theorem mono {wider : Shape} {x : Script α} (fits : x.Fits shape)
    (acts : ∀ {β : Type} {action : Action β}, shape.acts action → wider.acts action)
    (asks : ∀ job, shape.asks job → wider.asks job)
    (raises : ∀ unwind, shape.raises unwind → wider.raises unwind)
    (passes : ∀ job unwind, shape.passes job unwind → wider.passes job unwind) :
    x.Fits wider := by
  induction x with
  | done outcome =>
    cases outcome with
    | ok value => trivial
    | error unwind => exact raises unwind fits
  | outOfFuel => trivial
  | act action next ih => exact ⟨acts fits.1, fun answer => ih answer (fits.2 answer)⟩
  | ask job next ih =>
    refine ⟨asks job fits.1, fun outcome => ?_⟩
    rcases fits.2 outcome with fits' | ⟨unwind, same, passed, ended⟩
    · exact .inl (ih outcome fits')
    · exact .inr ⟨unwind, same, passes job unwind passed, ended⟩

/-- However a job ends, what follows has a shape that may raise everything. -/
theorem next {job : Job} {next : Except Unwind Value → Script α} (fits : (ask job next).Fits shape)
    (raises : ∀ unwind, shape.raises unwind) (outcome : Except Unwind Value) :
    (next outcome).Fits shape := by
  rcases fits.2 outcome with fits' | ⟨unwind, -, -, ended⟩
  · exact fits'
  · rw [ended]
    exact raises unwind

/-- One script after another fits if both do, whatever the first one answers. -/
theorem bind {x : Script α} {f : α → Script β} (hx : x.Fits shape)
    (hf : ∀ value, (f value).Fits shape) : (x >>= f).Fits shape := by
  show (x.bind f).Fits shape
  induction x with
  | done outcome =>
    cases outcome with
    | ok value => exact hf value
    | error unwind => exact hx
  | outOfFuel => trivial
  | act action next ih => exact ⟨hx.1, fun answer => ih answer (hx.2 answer)⟩
  | ask job next ih =>
    refine ⟨hx.1, fun outcome => ?_⟩
    rcases hx.2 outcome with fits | ⟨unwind, same, passed, ended⟩
    · exact .inl (ih outcome fits)
    -- What the first script hands on, both together hand on.
    · have handed : (next outcome).bind f = done (.error unwind) := by rw [ended]; rfl
      exact .inr ⟨unwind, same, passed, handed⟩

/-- A loop fits if all of its passes do. -/
theorem loop {σ : Type} {pass : σ → Script (Pass σ)} (h : ∀ state, (pass state).Fits shape)
    (passes : Nat) (state : σ) : (loop pass passes state).Fits shape := by
  induction passes generalizing state with
  | zero => trivial
  | succ passes ih =>
    refine bind (h state) fun result => ?_
    cases result with
    | proceed state => exact ih state
    | exit value => trivial

/-- An action that is allowed is a script that fits. -/
theorem ofAction {action : Action α} (h : shape.acts action) : (ofAction action).Fits shape :=
  ⟨h, fun _ => trivial⟩

/-- A job whose every unwinding is handed on. -/
theorem evaluate {job : Job} (h : shape.asks job ∧ ∀ unwind, shape.passes job unwind) :
    (evaluate job).Fits shape := by
  refine ⟨h.1, fun outcome => ?_⟩
  cases outcome with
  | ok value => exact .inl trivial
  | error unwind => exact .inr ⟨unwind, rfl, h.2 unwind, rfl⟩

/-- A job that is done, and something done with its outcome. -/
theorem attempt {job : Job} {f : Except Unwind Value → Script α} (asked : shape.asks job)
    (h : ∀ outcome, (f outcome).Fits shape ∨
      ∃ unwind, outcome = .error unwind ∧ shape.passes job unwind
        ∧ f outcome = done (.error unwind)) :
    (Script.attempt job >>= f).Fits shape :=
  ⟨asked, h⟩

/-! ### From shapes to contracts -/

/-- A script keeps to a contract if there is something that holds from its start on, with which it
    may do all that its shape says. -/
theorem keeps {contract : Contract} {x : Script α} {before : Engine} (inv : Engine → Prop)
    {post : Except Unwind α → Engine → Prop} (fits : x.Fits shape) (start : inv before)
    (always : ∀ engine, inv engine → contract.always engine)
    (acts : ∀ {β : Type} (action : Action β) engine, shape.acts action → inv engine →
      contract.allows action engine ∧ inv (action.on engine).2)
    (asks : ∀ job engine, shape.asks job → inv engine → contract.requires job engine
      ∧ ∀ outcome after, contract.ensures job engine outcome after → inv after)
    (value : ∀ value engine, inv engine → post (.ok value) engine)
    (fails : ∀ error engine, inv engine → post (.error (.ofError error)) engine)
    (raises : ∀ unwind engine, shape.raises unwind → inv engine → post (.error unwind) engine)
    (passes : ∀ job unwind engine after, shape.asks job → shape.passes job unwind → inv engine →
      contract.ensures job engine (.error unwind) after → post (.error unwind) after) :
    x.Keeps contract before post := by
  induction x generalizing before with
  | done outcome =>
    cases outcome with
    | ok result => exact ⟨always _ start, value _ _ start⟩
    | error unwind => exact ⟨always _ start, raises _ _ fits start⟩
  | outOfFuel => exact always _ start
  | act action next ih =>
    obtain ⟨allowed, kept⟩ := acts action before fits.1 start
    refine ⟨always _ start, allowed, fun answer after acted => ?_, fun error after acted => ?_⟩
    · rw [acted] at kept
      exact ih answer (fits.2 answer) kept
    · rw [acted] at kept
      exact ⟨always _ kept, fails _ _ kept⟩
  | ask job next ih =>
    obtain ⟨required, kept⟩ := asks job before fits.1 start
    refine ⟨always _ start, required, fun outcome after ensured => ?_⟩
    -- Either the script goes on, or it hands on how the job ended.
    rcases fits.2 outcome with fits' | ⟨unwind, rfl, passed, ended⟩
    · exact ih outcome fits' (kept _ _ ensured)
    · rw [ended]
      exact ⟨always _ (kept _ _ ensured), passes _ _ _ _ fits.1 passed start ensured⟩

end Script.Fits

end SlotTalk
