import SlotTalk.Proofs.NodeShape

namespace SlotTalk

/-!
# Control signals

A `break`, a `continue` and a `return` end evaluations until they come to the nearest loop or
activation.  They come no further, and none comes from nowhere.

* `Node.Free` — the signal is written in the node, outside of everything that would catch it.
* `signals_kept` — the contract: nodes give only signals that are free in them, and activations give
  none.
* `signals_never_leak` — so it is in every state, for every node and every activation.
-/

/-- What carries control to a loop or out of an activation. -/
inductive Signal where
  | breaks
  | continues
  | returns
  deriving DecidableEq, Repr

/-- The signal that unwinds an evaluation; an error is none. -/
def Unwind.signal? : Unwind → Option Signal
  | failed _ => none
  | broke _ => some .breaks
  | continued => some .continues
  | returned _ => some .returns

/-- The signal that an evaluation ended with. -/
def signalOf : Except Unwind Value → Option Signal
  | .ok _ => none
  | .error unwind => unwind.signal?

namespace Node

/-- The signal that the node is there to give. -/
def signal? : Node → Option Signal
  | breakLoop _ => some .breaks
  | continueLoop => some .continues
  | returnFrom _ => some .returns
  | _ => none

/-- The signal is written in the node, outside of code literals, and unless it is a return outside
    of the bodies of loops. -/
inductive Free (signal : Signal) : Node → Prop where
  | own {node : Node} (h : node.signal? = some signal) : Free signal node
  | part {node child : Node} (mem : child ∈ node.parts) (free : Free signal child) :
    Free signal node
  | body {node child : Node} (h : node.loopBody? = some child) (returns : signal = .returns)
    (free : Free signal child) : Free signal node

theorem Raises.free {node : Node} {unwind : Unwind} {signal : Signal} (h : node.Raises unwind)
    (given : unwind.signal? = some signal) : node.Free signal := by
  cases h <;> exact .own given

/-- What comes out of the body of a loop is no signal to loops. -/
theorem returns_of_leavesLoop {unwind : Unwind} {signal : Signal} (leaves : unwind.LeavesLoop)
    (given : unwind.signal? = some signal) : signal = .returns := by
  cases leaves with
  | failed report => exact nomatch given
  | returned value => exact (Option.some.inj given).symm

end Node

/-- Nodes give only signals that are free in them, and code gives none. -/
def signalContract : Contract where
  always _ := True
  allows _ _ := True
  requires _ _ := True
  ensures job _ outcome _ :=
    match job with
    | .eval node _ => ∀ signal, signalOf outcome = some signal → node.Free signal
    | .activate _ | .enter _ => signalOf outcome = none

theorem eval_keeps_signals (passes : Nat) (scope : LocalsId) (node : Node) (before : Engine) :
    (evalNode passes scope node).Keeps signalContract before
      (signalContract.ensures (.eval node scope) before) := by
  refine (evalNode_fits passes scope node).keeps (fun _ => True) trivial (fun _ _ => trivial)
    (fun _ _ _ _ => ⟨trivial, trivial⟩) (fun _ _ _ _ => ⟨trivial, fun _ _ _ => trivial⟩)
    ?value ?fails ?raises ?passes
  case value => exact fun _ _ _ _ => nofun
  case fails => exact fun _ _ _ _ => nofun
  case raises => exact fun _ _ raised _ _ given => raised.free given
  case passes =>
    -- What is handed on is free in the part or body that it comes from.
    intro job unwind _ _ _ passed _ ensured signal given
    cases passed with
    | part mem => exact .part mem (ensured signal given)
    | body h leaves =>
      exact .body h (Node.returns_of_leavesLoop leaves given) (ensured signal given)
    | activate activation => exact nomatch Eq.trans (Eq.symm ensured) given

theorem enter_keeps_signals (activation : Activation) (before : Engine) :
    activation.enter.Keeps signalContract before
      (signalContract.ensures (.enter activation) before) := by
  refine activation.enter_fits.keeps (fun _ => True) trivial (fun _ _ => trivial)
    (fun _ _ _ _ => ⟨trivial, trivial⟩) (fun _ _ _ _ => ⟨trivial, fun _ _ _ => trivial⟩)
    ?value ?fails ?raises ?passes
  case value => exact fun _ _ _ => rfl
  case fails => exact fun _ _ _ => rfl
  case raises => exact fun _ _ raised _ => raised.elim
  case passes =>
    intro job unwind _ _ asked passed _ ensured
    cases job with
    | eval node scope =>
      obtain ⟨report, rfl⟩ := passed
      rfl
    | activate other => exact ensured
    | enter other => exact asked.elim

/-- Noting an activation in a report makes no signal. -/
theorem signalOf_leave (activation : Activation) (outcome : Except Unwind Value) :
    signalOf (activation.leave outcome) = signalOf outcome := by
  match outcome with
  | .error (.failed report) => rfl
  | .ok value | .error (.broke value) | .error .continued | .error (.returned value) => rfl

/-- The scripts of all jobs keep to the contract. -/
theorem signals_kept : signalContract.Valid := by
  intro passes job before _
  cases job with
  | eval node scope => exact eval_keeps_signals passes scope node before
  | enter activation => exact enter_keeps_signals activation before
  | activate activation =>
    refine activation.run_keeps trivial trivial trivial (fun _ _ => rfl) fun _ =>
      ⟨trivial, trivial, fun outcome after ensured => ⟨trivial, trivial, trivial, ?_⟩⟩
    exact (signalOf_leave activation outcome).trans ensured

/-- **Signals.** A node ends with a signal only if the signal is free in it, and an activation of
    anything, a built-in as well, ends with a value or an error. -/
theorem signals_never_leak :
    (∀ node scope before outcome after, Finishes (.eval node scope) before outcome after →
      ((∃ value, outcome = .error (.broke value)) → node.Free .breaks)
        ∧ (outcome = .error .continued → node.Free .continues)
        ∧ ((∃ value, outcome = .error (.returned value)) → node.Free .returns))
      ∧ ∀ activation before outcome after, Finishes (.activate activation) before outcome after →
        (∃ value, outcome = .ok value) ∨ ∃ report, outcome = .error (.failed report) := by
  constructor
  · intro node scope before outcome after ends
    have free : signalContract.ensures (.eval node scope) before outcome after :=
      signals_kept.finishes ends trivial
    refine ⟨?_, ?_, ?_⟩
    · rintro ⟨value, rfl⟩
      exact free .breaks rfl
    · rintro rfl
      exact free .continues rfl
    · rintro ⟨value, rfl⟩
      exact free .returns rfl
  · intro activation before outcome after ends
    have contained : signalContract.ensures (.activate activation) before outcome after :=
      signals_kept.finishes ends trivial
    match outcome with
    | .ok value => exact .inl ⟨value, rfl⟩
    | .error (.failed report) => exact .inr ⟨report, rfl⟩
    | .error (.broke value) | .error .continued | .error (.returned value) =>
      exact nomatch contained

end SlotTalk
