import SlotTalk.Primitive.Plain
import SlotTalk.World

namespace SlotTalk

/-!
# Scripts

An evaluation is written as a script: the actions it takes, the jobs it asks for on the way, and how
it ends.  A script is data, so that what happens in the middle of an evaluation can be talked about
as well as its end.

* `Job` — what can be asked for: a node evaluated, code activated, or the code of an activation that
  was let in.
* `Script` — actions and jobs in order, with how they end.
* `Script.run` — follow a script, given how the jobs it asks for end.
* `Script.loop` — the passes of a loop.
-/

/-- A request to run code with evaluated arguments. -/
structure Activation where
  /-- The scope the request comes from. -/
  caller : LocalsId
  code : Invokable
  receiver : Value
  /-- The object or scope in which the code was found. -/
  slotContext : Value
  message : Message
  arguments : List Value

/-- What a script can ask for. -/
inductive Job where
  | eval (node : Node) (scope : LocalsId)
  /-- Let the activation in, unless it has too many arguments or is nested too deep. -/
  | activate (activation : Activation)
  /-- Run the code of an activation that was let in. -/
  | enter (activation : Activation)

/-- What an evaluation does, step by step.  An action that fails ends it with a fresh error. -/
inductive Script (α : Type) : Type 1 where
  | done (outcome : Except Unwind α)
  /-- The passes of a loop are used up. -/
  | outOfFuel
  | act {β : Type} (action : Action β) (next : β → Script α)
  | ask (job : Job) (next : Except Unwind Value → Script α)

/-- How each job ends, and the state it leaves behind; `none` if it does not end. -/
abbrev Evaluator := Job → Engine → Option (Except Unwind Value × Engine)

namespace Script

variable {α β : Type}

/-- One script after the other, unless the first unwinds. -/
def bind : Script α → (α → Script β) → Script β
  | done (.ok value), rest => rest value
  | done (.error unwind), _ => done (.error unwind)
  | outOfFuel, _ => outOfFuel
  | act action next, rest => act action fun answer => (next answer).bind rest
  | ask job next, rest => ask job fun outcome => (next outcome).bind rest

instance : Monad Script where
  pure value := done (.ok value)
  bind := bind

/-- Take one action. -/
def ofAction (action : Action α) : Script α := act action pure

instance : MonadLift Action Script := ⟨ofAction⟩

/-- Fail with a fresh error. -/
def fail (error : RuntimeError) : Script α := ofAction (throw error)

/-- Leave in one of the ways that are not a value. -/
def unwind (unwind : Unwind) : Script α := done (.error unwind)

/-- Have a job done and end like it, unless it gives a value to go on with. -/
def evaluate (job : Job) : Script Value := ask job done

/-- Have a job done and go on with how it ended. -/
def attempt (job : Job) : Script (Except Unwind Value) := ask job pure

/-- Follow the script, given how the jobs end. -/
def run (evaluate : Evaluator) : Script α → Engine → Option (Except Unwind α × Engine)
  | done outcome, engine => some (outcome, engine)
  | outOfFuel, _ => none
  | act action next, engine =>
    match action.on engine with
    | (.ok answer, engine) => (next answer).run evaluate engine
    | (.error error, engine) => some (.error (.ofError error), engine)
  | ask job next, engine =>
    match evaluate job engine with
    | some (outcome, engine) => (next outcome).run evaluate engine
    | none => none

end Script

/-! ### Loops -/

/-- What a loop does after one of its passes. -/
inductive Pass (σ : Type) where
  | proceed (state : σ)
  | exit (value : Value)

/-- Make passes until one of them exits, but no more than the first number says. -/
def Script.loop {σ : Type} (pass : σ → Script (Pass σ)) : Nat → σ → Script Value
  | 0, _ => outOfFuel
  | passes + 1, state => do
    match ← pass state with
    | .proceed state => loop pass passes state
    | .exit value => return value

end SlotTalk
