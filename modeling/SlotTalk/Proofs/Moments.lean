import SlotTalk.Proofs.CallContext

namespace SlotTalk

/-!
# Moments of an evaluation

At a moment of an evaluation some activations run, one inside the other.  The moments of the
innermost one start where its code was entered, and as long as nothing else runs inside it, all that
is evaluated is written in its body and evaluated in the scope that was opened for it.

* `Store.Kept.finishes`, `Store.Kept.reaches` — what every step on the store keeps holds at the end
  and at each moment.
* `Reaches.entered` — the moment at which the innermost activation was entered.
* `Node.Own` — the nodes that are evaluated in the activation of a node.
* `Reaches.fits_own`, `Reaches.body` — what is asked for while nothing else runs inside.
-/

/-! ### What is kept -/

/-- The property holds of the store all the time. -/
def keptContract (property : Store → Prop) : Contract where
  always engine := property engine.store
  allows _ _ := True
  requires _ before := property before.store
  ensures _ _ _ after := property after.store

section Kept

variable {property : Store → Prop} (kept : Store.Kept property)
include kept

/-- Reading the call and counting activations do not touch the store; all other actions are routine.
    -/
theorem Action.Taken.keeps {β : Type} {action : Action β} (taken : action.Taken) {before : Engine}
    (holds : property before.store) : property (action.on before).2.store := by
  cases taken with
  | routine h => exact h.keeps kept holds
  | readCall scope => exact holds
  | descend =>
    rw [Activation.descend_on]
    split <;> exact holds
  | ascend => exact holds

/-- A script of such actions keeps the property from its start to its end. -/
theorem Script.Fits.keeps_store {x : Script Value} (fits : x.Fits Shape.any) {before : Engine}
    (holds : property before.store) :
    x.Keeps (keptContract property) before fun _ after => property after.store :=
  fits.keeps (fun engine => property engine.store) holds (fun _ holds => holds)
    (fun _ _ taken holds => ⟨trivial, taken.keeps kept holds⟩)
    (fun _ _ _ holds => ⟨holds, fun _ _ ensured => ensured⟩) (fun _ _ holds => holds)
    (fun _ _ holds => holds) (fun _ _ _ holds => holds) fun _ _ _ _ _ _ _ ensured => ensured

/-- The scripts of all jobs keep what every step on the store keeps. -/
theorem Store.Kept.valid : (keptContract property).Valid :=
  fun passes job _ holds => (doJob_fits passes job).keeps_store kept holds

/-- What every step on the store keeps is true where a job ends. -/
theorem Store.Kept.finishes {job : Job} {before after : Engine} {outcome : Except Unwind Value}
    (ends : Finishes job before outcome after) (holds : property before.store) :
    property after.store :=
  kept.valid.finishes ends holds

/-- What every step on the store keeps is true at every moment. -/
theorem Store.Kept.reaches {script rest : Script Value} {before state : Engine}
    {inside : List Activation} (reached : script.Reaches before inside rest state)
    (fits : script.Fits Shape.any) (holds : property before.store) : property state.store := by
  obtain ⟨post, keeps⟩ := kept.valid.reaches reached (fits.keeps_store kept holds)
  exact keeps.always

end Kept

/-! ### Where the innermost activation was entered -/

/-- The innermost activation was entered at a moment when the others ran, and the present moment is
    one of its code. -/
theorem Script.Reaches.entered {script rest : Script Value} {before state : Engine}
    {activation : Activation} {outer : List Activation}
    (reached : script.Reaches before (activation :: outer) rest state) :
    ∃ next entry, script.Reaches before outer (.ask (.enter activation) next) entry
      ∧ activation.enter.Reaches entry [] rest state := by
  generalize same : activation :: outer = inside at reached
  -- By induction on how the moment is reached: what was done before it stays in front.
  induction reached generalizing outer with
  | here => exact nomatch same
  | afterAct acted later ih =>
    obtain ⟨next, entry, first, second⟩ := ih same
    exact ⟨next, entry, .afterAct acted first, second⟩
  | afterAsk answered later ih =>
    obtain ⟨next, entry, first, second⟩ := ih same
    exact ⟨next, entry, .afterAsk answered first, second⟩
  | @within passes job next before state inside rest inner ih =>
    cases inside with
    | nil =>
      -- Nothing else runs inside, so that this very job enters the activation.
      cases job with
      | eval | activate => exact nomatch same
      | enter other =>
        obtain ⟨rfl, rfl⟩ := List.cons.inj same
        exact ⟨next, before, .here, inner⟩
    | cons other others =>
      obtain ⟨rfl, rfl⟩ := List.cons.inj same
      obtain ⟨next', entry, first, second⟩ := ih rfl
      exact ⟨next', entry, .within first, second⟩

/-! ### While nothing else runs inside -/

/-- The node is evaluated in the activation of the root, if it is: it is the root or a part of it,
    at any depth but not within code literals. -/
inductive Node.Own (root : Node) : Node → Prop where
  | root : Own root root
  | part {parent child : Node} (own : Own root parent) (mem : child ∈ parent.parts) : Own root child
  | body {parent child : Node} (own : Own root parent) (loop : parent.loopBody? = some child) :
    Own root child

/-- What is evaluated in the activation of a quiet node is quiet. -/
theorem Node.Own.quiet {root node : Node} (own : root.Own node) (quiet : root.Quiet) :
    node.Quiet := by
  induction own with
  | root => exact quiet
  | part own mem ih => exact ih.part mem
  | body own loop ih => exact ih.body loop

/-- A node that reads the call is not quiet. -/
theorem Node.not_quiet_thisCall : ¬ Node.thisCall.Quiet := nofun

/-- Scripts that have nodes of the root evaluated in the scope, and no others. -/
def Shape.own (root : Node) (scope : LocalsId) : Shape where
  acts _ := True
  asks
    | .eval node inner => root.Own node ∧ inner = scope
    | .activate _ | .enter _ => True
  raises _ := True
  passes _ _ := True

section Own

variable {root : Node} {scope : LocalsId}

/-- All nodes that a node has evaluated are evaluated in its own scope. -/
theorem evalNode_fits_own (passes : Nat) {node : Node} (own : root.Own node) :
    (evalNode passes scope node).Fits (.own root scope) := by
  refine (evalNode_fits passes scope node).mono (fun _ => trivial) (fun job asked => ?_)
    (fun _ _ => trivial) fun _ _ _ => trivial
  cases asked with
  | part mem => exact ⟨own.part mem, rfl⟩
  | body loop => exact ⟨own.body loop, rfl⟩
  | activate => trivial

/-- An activation has no node evaluated before it is entered. -/
theorem Activation.run_fits_own (activation : Activation) :
    activation.run.Fits (.own root scope) := by
  rw [run_eq]
  refine ⟨trivial, fun _ => ⟨trivial, fun _ => ⟨trivial, fun outcome =>
    .inl ⟨trivial, fun _ => ?_⟩⟩⟩⟩
  cases activation.leave outcome <;> trivial

/-- As long as no activation is entered, what is left of a script asks for nodes of the root. -/
theorem Script.Reaches.fits_own {script rest : Script Value} {before state : Engine}
    {inside : List Activation} (reached : script.Reaches before inside rest state)
    (alone : inside = []) (fits : script.Fits (.own root scope)) :
    rest.Fits (.own root scope) := by
  induction reached with
  | here => exact fits
  | afterAct acted later ih => exact ih alone (fits.2 _)
  | afterAsk answered later ih => exact ih alone (fits.next (fun _ => trivial) _)
  | @within passes job next before state inside rest inner ih =>
    obtain ⟨nested, outside⟩ := List.append_eq_nil_iff.mp alone
    cases job with
    | eval node inner =>
      obtain ⟨own, rfl⟩ := fits.1
      exact ih nested (evalNode_fits_own passes own)
    | activate activation => exact ih nested activation.run_fits_own
    | enter activation => exact nomatch outside

end Own

/-- While a body runs and nothing inside it, the nodes that are evaluated are its own and the scope
    is the one that was opened for it; the store has only grown since. -/
theorem Script.Reaches.body {action : Action Opened} {entry state : Engine} {node : Node}
    {scope : LocalsId} {next : Except Unwind Value → Script Value}
    (reached : (Script.ofAction action >>= runBody).Reaches entry [] (.ask (.eval node scope) next)
      state) :
    ∃ opened between, action.on entry = (.ok opened, between) ∧ opened.code.body.Own node
      ∧ scope = opened.scope ∧ between.store.Grows state.store := by
  generalize same : Script.ask (.eval node scope) next = rest at reached
  cases reached with
  | here => exact nomatch same
  | @afterAct _ _ _ opened _ between _ _ _ acted later =>
    subst same
    have any : (runBody opened).Fits Shape.any :=
      runBody_fits opened (fun h => .routine h.routine) trivial fun _ => trivial
    have own : (runBody opened).Fits (.own opened.code.body opened.scope) :=
      runBody_fits opened (fun _ => trivial) ⟨.root, rfl⟩ fun _ => trivial
    obtain ⟨⟨mine, home⟩, -⟩ := later.fits_own rfl own
    exact ⟨opened, between, acted, mine, home,
      (Store.kept_grows between.store).reaches later any (.refl _)⟩

end SlotTalk
