import SlotTalk.Eval.Evaluator

namespace SlotTalk

/-!
# Fuel

An evaluation that ends does so in one way, however much more fuel it is given.

* `Script.Refines` — one script, followed with one evaluator, ends like another wherever that one
  ends.
* `doJob_refines` — better answers to the parts, and more passes, make better answers to the whole.
* `evaluator_refines` — more fuel refines the evaluator.
* `Finishes.unique` — a job ends in one way from one state.
-/

/-- Wherever `evaluate` ends, the other evaluator ends in the same way and state. -/
def Evaluator.Refines (evaluate better : Evaluator) : Prop :=
  ∀ job before ending, evaluate job before = some ending → better job before = some ending

namespace Script

variable {α β : Type}

/-- How a sequence of two scripts runs. -/
theorem run_bind (evaluate : Evaluator) (x : Script α) (f : α → Script β) (before : Engine) :
    (x >>= f).run evaluate before = (x.run evaluate before).bind fun
      | (.ok value, after) => (f value).run evaluate after
      | (.error unwind, after) => some (.error unwind, after) := by
  show (x.bind f).run evaluate before = _
  induction x generalizing before with
  | done outcome => cases outcome <;> rfl
  | outOfFuel => rfl
  | act action next ih =>
    simp only [bind, run]
    split
    · exact ih _ _
    · rfl
  | ask job next ih =>
    simp only [bind, run]
    split
    · exact ih _ _
    · rfl

/-- Followed with `evaluate`, the script `x` ends like `y` does with `better`. -/
def Refines (evaluate better : Evaluator) (x y : Script α) : Prop :=
  ∀ before ending, x.run evaluate before = some ending → y.run better before = some ending

namespace Refines

variable {evaluate better : Evaluator}

/-- A script profits from better answers. -/
theorem of_evaluator (h : evaluate.Refines better) (x : Script α) :
    Refines evaluate better x x := by
  intro before ending ends
  induction x generalizing before with
  | done outcome => exact ends
  | outOfFuel => exact ends
  | act action next ih =>
    simp only [run] at ends ⊢
    split at ends
    · exact ih _ _ ends
    · exact ends
  | ask job next ih =>
    simp only [run] at ends ⊢
    split at ends
    next outcome between answered =>
      rw [h _ _ _ answered]
      exact ih _ _ ends
    next => exact nomatch ends

/-- Nothing ends without fuel. -/
theorem outOfFuel (y : Script α) : Refines evaluate better .outOfFuel y :=
  fun _ _ ends => nomatch ends

theorem bind {x y : Script α} {f g : α → Script β} (h : Refines evaluate better x y)
    (hf : ∀ value, Refines evaluate better (f value) (g value)) :
    Refines evaluate better (x >>= f) (y >>= g) := by
  intro before ending ends
  rw [run_bind, Option.bind_eq_some_iff] at ends
  obtain ⟨⟨outcome, between⟩, first, second⟩ := ends
  rw [run_bind, h before _ first]
  cases outcome with
  | ok value => exact hf value _ _ second
  | error unwind => exact second

/-- More passes are as good. -/
theorem loop {σ : Type} (h : evaluate.Refines better) (pass : σ → Script (Pass σ))
    {passes more : Nat} (le : passes ≤ more) (state : σ) :
    Refines evaluate better (loop pass passes state) (loop pass more state) := by
  induction passes generalizing more state with
  | zero => exact outOfFuel _
  | succ passes ih =>
    obtain ⟨more, rfl⟩ : ∃ m, more = m + 1 := ⟨more - 1, by omega⟩
    refine (of_evaluator h (pass state)).bind fun result => ?_
    cases result with
    | proceed state => exact ih (by omega) state
    | exit value => exact of_evaluator h _

end Refines

end Script

open Script.Refines

variable {evaluate better : Evaluator}

theorem forLoop_refines (h : evaluate.Refines better) (counter : Text)
    (start stop step : Value) (body : Node) (scope : LocalsId) {passes more : Nat}
    (le : passes ≤ more) :
    Script.Refines evaluate better (forLoop counter start stop step body scope passes)
      (forLoop counter start stop step body scope more) := by
  refine (of_evaluator h _).bind fun _ => (of_evaluator h _).bind fun direction =>
    (of_evaluator h _).bind fun heading => (of_evaluator h _).bind fun _ => ?_
  split
  · exact loop h _ le _
  · exact of_evaluator h _

theorem evalNode_refines (h : evaluate.Refines better) {passes more : Nat} (le : passes ≤ more)
    (scope : LocalsId) (node : Node) :
    Script.Refines evaluate better (evalNode passes scope node) (evalNode more scope node) := by
  cases node with
  | whileLoop condition body => exact loop h _ le _
  | forLoop counter start stop step body =>
    exact (of_evaluator h _).bind fun _ => (of_evaluator h _).bind fun _ =>
      (of_evaluator h _).bind fun _ => forLoop_refines h counter _ _ _ body scope le
  | forEach source index element body =>
    exact (of_evaluator h _).bind fun _ => (of_evaluator h _).bind fun _ => loop h _ le _
  | _ => exact of_evaluator h _

/-! ### The evaluator -/

theorem doJob_refines (h : evaluate.Refines better) {passes more : Nat} (le : passes ≤ more)
    (job : Job) : Script.Refines evaluate better (doJob passes job) (doJob more job) := by
  cases job with
  | eval node scope => exact evalNode_refines h le scope node
  | activate activation => exact of_evaluator h _
  | enter activation => exact of_evaluator h _

theorem evaluator_refines {fuel more : Nat} (le : fuel ≤ more) :
    (evaluator fuel).Refines (evaluator more) := by
  induction fuel generalizing more with
  | zero => exact fun _ _ _ ends => nomatch ends
  | succ fuel ih =>
    obtain ⟨more, rfl⟩ : ∃ m, more = m + 1 := ⟨more - 1, by omega⟩
    have smaller : fuel ≤ more := by omega
    exact fun job => doJob_refines (ih smaller) smaller job

/-- A job ends in one way from one state. -/
theorem Finishes.unique {job : Job} {before after after' : Engine}
    {outcome outcome' : Except Unwind Value} (h : Finishes job before outcome after)
    (h' : Finishes job before outcome' after') : outcome = outcome' ∧ after = after' := by
  obtain ⟨fuel, ends⟩ := h
  obtain ⟨fuel', ends'⟩ := h'
  have first := evaluator_refines (Nat.le_max_left fuel fuel') job _ _ ends
  have second := evaluator_refines (Nat.le_max_right fuel fuel') job _ _ ends'
  rw [first] at second
  exact ⟨congrArg Prod.fst (Option.some.inj second), congrArg Prod.snd (Option.some.inj second)⟩

end SlotTalk
