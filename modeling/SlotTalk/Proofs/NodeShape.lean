import SlotTalk.Proofs.OrdinaryStep
import SlotTalk.Proofs.Shape

namespace SlotTalk

/-!
# What nodes and code can do

What the script of a node can do depends on the node alone.  It takes ordinary actions, has the
nodes it is made of evaluated in its own scope, activates code, and gives its own signal.  Code does
much the same; the built-in that raises is the only part that takes another action.

* `Node.parts`, `Node.loopBody?` — the nodes that a node has evaluated in its own scope.
* `Node.shape`, `evalNode_fits` — the shape of a node, and that its script has it.
* `Activation.shape`, `Activation.enter_fits` — the same for code that was let in.
* `Activation.Raises`, `Activation.enter_fits_of` — what raises, and what allows all other code.
* `Action.Taken`, `doJob_fits` — the actions that the scripts of all jobs are made of.
* `Shape.Admits`, `Shape.AdmitsBody` — what a shape must allow for sends and for loops.
-/

/-! ### Sends -/

/-- The shape allows what a send of the nodes from the scope does. -/
structure Shape.Admits (shape : Shape) (scope : LocalsId) (nodes : List Node) : Prop where
  ordinary : ∀ {β : Type} {action : Action β}, action.Ordinary → shape.acts action
  evaluates : ∀ node ∈ nodes,
    shape.asks (.eval node scope) ∧ ∀ unwind, shape.passes (.eval node scope) unwind
  activates : ∀ activation,
    shape.asks (.activate activation) ∧ ∀ unwind, shape.passes (.activate activation) unwind

section Sends

variable {shape : Shape} {scope : LocalsId} {nodes : List Node}

/-- A shape that allows a send of some nodes allows that of fewer. -/
theorem Shape.Admits.mono {fewer : List Node} (h : shape.Admits scope nodes)
    (subset : ∀ node ∈ fewer, node ∈ nodes) : shape.Admits scope fewer where
  ordinary := h.ordinary
  evaluates := fun node mem => h.evaluates node (subset node mem)
  activates := h.activates

/-- Arguments are evaluated in the scope, one after the other. -/
theorem evalArguments_fits (h : shape.Admits scope nodes) :
    (evalArguments scope nodes).Fits shape := by
  induction nodes with
  | nil => trivial
  | cons node rest ih =>
    have first := h.evaluates node List.mem_cons_self
    have others := h.mono fun node mem => List.mem_cons_of_mem _ mem
    exact .bind (.evaluate first) fun _ => .bind (ih others) fun _ => trivial

/-- What a slot holds is answered, or its arguments are counted and evaluated and it is activated.
    -/
theorem activate_fits (h : shape.Admits scope nodes) (receiver found slotContext : Value)
    (message : Message) :
    (activate scope receiver found slotContext message nodes).Fits shape := by
  unfold activate
  split
  · trivial
  · exact .bind (.ofAction (h.ordinary (checkArgumentCount_ordinary ..))) fun _ =>
      .bind (evalArguments_fits h) fun _ => .evaluate (h.activates _)

/-- A message to a value looks its slot up, and fails or activates what it finds. -/
theorem send_fits (h : shape.Admits scope nodes) (receiver : Value) (message : Message) :
    (send scope receiver message nodes).Fits shape := by
  refine .bind (.ofAction (h.ordinary (.findOn ..))) fun found => ?_
  cases found with
  | none => exact .ofAction (h.ordinary (.fail nofun nofun))
  | some found => exact activate_fits h ..

/-- A message without a receiver looks for a variable first. -/
theorem sendImplicit_fits (h : shape.Admits scope nodes) (message : Message) :
    (sendImplicit scope message nodes).Fits shape := by
  refine .bind (.ofAction (h.ordinary (.selfOf scope))) fun self => ?_
  refine .bind (.ofAction (h.ordinary (.findVariable ..))) fun found => ?_
  cases found with
  | none => exact send_fits h ..
  | some value => exact activate_fits h ..

/-- A sequence evaluates its nodes in the scope. -/
theorem evalSequence_fits (h : shape.Admits scope nodes) (last : Value) :
    (evalSequence scope nodes last).Fits shape := by
  induction nodes generalizing last with
  | nil => trivial
  | cons node rest ih =>
    have first := h.evaluates node List.mem_cons_self
    have others := h.mono fun node mem => List.mem_cons_of_mem _ mem
    exact .bind (.evaluate first) fun value => ih others value

/-- A node that may be left out is left out or evaluated. -/
theorem evalOption_fits {node : Option Node} (h : shape.Admits scope node.toList) :
    (evalOption scope node).Fits shape := by
  cases node with
  | none => trivial
  | some node => exact .bind (.evaluate (h.evaluates node (by simp))) fun _ => trivial

end Sends

/-! ### Loops -/

/-- A body of a loop hands on errors and returns, but no signals to loops. -/
inductive Unwind.LeavesLoop : Unwind → Prop where
  | failed (report : ErrorReport) : LeavesLoop (.failed report)
  | returned (value : Value) : LeavesLoop (.returned value)

/-- The shape allows what a loop does with a body in the scope. -/
structure Shape.AdmitsBody (shape : Shape) (scope : LocalsId) (body : Node) : Prop where
  ordinary : ∀ {β : Type} {action : Action β}, action.Ordinary → shape.acts action
  asks : shape.asks (.eval body scope)
  passes : ∀ unwind, unwind.LeavesLoop → shape.passes (.eval body scope) unwind

section Loops

variable {shape : Shape} {scope : LocalsId} {body : Node}

/-- One run of a body: signals to loops end here, errors and returns do not. -/
theorem loopPass_fits (h : shape.AdmitsBody scope body) (last : Value) :
    (loopPass body scope last).Fits shape := by
  refine .attempt h.asks fun outcome => ?_
  -- The loop catches what is meant for it.
  match outcome with
  | .ok value => exact .inl trivial
  | .error .continued => exact .inl trivial
  | .error (.broke value) => exact .inl trivial
  | .error (.failed report) => exact .inr ⟨_, rfl, h.passes _ (.failed report), rfl⟩
  | .error (.returned value) => exact .inr ⟨_, rfl, h.passes _ (.returned value), rfl⟩

/-- The condition is a part of the loop, so all that comes out of it is handed on. -/
theorem whileLoop_fits (h : shape.AdmitsBody scope body) {condition : Node}
    (tested : shape.asks (.eval condition scope)
      ∧ ∀ unwind, shape.passes (.eval condition scope) unwind) (passes : Nat) :
    (whileLoop condition body scope passes).Fits shape := by
  refine .loop (fun last => ?_) passes Value.nil
  refine .bind (.evaluate tested) fun value => ?_
  -- A pass is a run of the body, or the end of the loop.
  split
  · exact loopPass_fits h last
  · trivial

/-- One pass of a counting loop takes ordinary actions around the run of its body. -/
theorem countingPass_fits (h : shape.AdmitsBody scope body) (counting : Counting) (last : Value) :
    (countingPass counting body scope last).Fits shape := by
  refine .bind (.ofAction (h.ordinary (counting.inRange_ordinary scope))) fun inside => ?_
  split
  · refine .bind (loopPass_fits h last) fun result => ?_
    cases result with
    | proceed last =>
      exact .bind (.ofAction (h.ordinary (counting.advance_ordinary scope))) fun _ => trivial
    | exit value => trivial
  · trivial

/-- A counting loop takes ordinary actions before its first pass. -/
theorem forLoop_fits (h : shape.AdmitsBody scope body) (counter : Text)
    (start stop step : Value) (passes : Nat) :
    (forLoop counter start stop step body scope passes).Fits shape := by
  refine .bind (.ofAction (h.ordinary (expectNumbers_ordinary _))) fun _ => ?_
  refine .bind (.ofAction (h.ordinary (.ofExcept (Number.compare_calculates _ _)))) fun _ => ?_
  refine .bind (.ofAction (h.ordinary (.ofExcept (Number.compare_calculates _ _)))) fun _ => ?_
  refine .bind (.ofAction (h.ordinary (.defineVariable ..))) fun _ => ?_
  split
  · exact .loop (countingPass_fits h _) passes Value.nil
  · trivial

/-- One pass of a loop over elements takes ordinary actions before the run of its body. -/
theorem forEachPass_fits (h : shape.AdmitsBody scope body) (index : Option Text) (element : Text)
    (visit : Visit) : (forEachPass index element body scope visit).Fits shape := by
  refine .bind (.ofAction (h.ordinary visit.elements.next_ordinary)) fun next => ?_
  match next with
  | none => trivial
  | some (value, rest) =>
    refine .bind (.ofAction (h.ordinary (bindElement_ordinary ..))) fun _ => ?_
    refine .bind (loopPass_fits h visit.last) fun result => ?_
    cases result with
    | proceed last => trivial
    | exit value => trivial

/-- A loop over elements is made of its passes. -/
theorem forEach_fits (h : shape.AdmitsBody scope body) (index : Option Text) (element : Text)
    (elements : Elements) (passes : Nat) :
    (forEach index element body scope elements passes).Fits shape :=
  .loop (forEachPass_fits h index element) passes _

end Loops

/-! ### Nodes -/

namespace Node

/-- The nodes that a node has evaluated in its own scope, but for the body of a loop. -/
def parts : Node → List Node
  | send receiver _ arguments _ => receiver.toList ++ arguments
  | define target _ value | update target _ value => target.toList ++ [value]
  | sequence nodes => nodes
  | ifThenElse condition thenBranch elseBranch => [condition, thenBranch] ++ elseBranch.toList
  | whileLoop condition _ => [condition]
  | forLoop _ start stop step _ => [start, stop] ++ step.toList
  | forEach source _ _ _ => [source]
  | breakLoop value | returnFrom value => value.toList
  | tryCatch body _ handler => [body, handler]
  | _ => []

/-- The body of a loop. -/
def loopBody? : Node → Option Node
  | whileLoop _ body | forLoop _ _ _ _ body | forEach _ _ _ body => some body
  | _ => none

variable (node : Node) (scope : LocalsId)

/-- The actions that a node takes. -/
inductive Acts : {β : Type} → Action β → Prop where
  | ordinary {β : Type} {action : Action β} (h : action.Ordinary) : Acts action
  | readCall (h : node = .thisCall) : Acts (readCall scope)

/-- The jobs that a node asks for. -/
inductive Asks : Job → Prop where
  | part {child : Node} (mem : child ∈ node.parts) : Asks (.eval child scope)
  | body {child : Node} (h : node.loopBody? = some child) : Asks (.eval child scope)
  | activate (activation : Activation) : Asks (.activate activation)

/-- The signals that a node gives itself. -/
inductive Raises : Node → Unwind → Prop where
  | broke (written : Option Node) (value : Option Value) :
    Raises (.breakLoop written) (.broke value)
  | continued : Raises .continueLoop .continued
  | returned (written : Option Node) (value : Value) :
    Raises (.returnFrom written) (.returned value)

/-- The unwindings of its jobs that a node hands on. -/
inductive Passes : Job → Unwind → Prop where
  | part {child : Node} (mem : child ∈ node.parts) (unwind : Unwind) :
    Passes (.eval child scope) unwind
  | body {child : Node} (h : node.loopBody? = some child) {unwind : Unwind}
    (leaves : unwind.LeavesLoop) : Passes (.eval child scope) unwind
  | activate (activation : Activation) (unwind : Unwind) : Passes (.activate activation) unwind

/-- What the script of a node can do. -/
def shape : Shape where
  acts := node.Acts scope
  asks := node.Asks scope
  raises := node.Raises
  passes := node.Passes scope

/-- A node may have its parts evaluated, and hands on whatever comes out of them. -/
theorem shape_admits : (node.shape scope).Admits scope node.parts where
  ordinary := .ordinary
  evaluates := fun _ mem => ⟨.part mem, .part mem⟩
  activates := fun activation => ⟨.activate activation, .activate activation⟩

/-- A loop may have its body evaluated, and hands on what leaves loops. -/
theorem shape_admitsBody {body : Node} (h : node.loopBody? = some body) :
    (node.shape scope).AdmitsBody scope body where
  ordinary := .ordinary
  asks := .body h
  passes := fun _ leaves => .body h leaves

end Node

/-- **Nodes.** The script of a node takes ordinary actions, but for the node that reads the running
    call; it has its parts evaluated in its own scope, and activates code. -/
theorem evalNode_fits (passes : Nat) (scope : LocalsId) (node : Node) :
    (evalNode passes scope node).Fits (node.shape scope) := by
  have all := node.shape_admits scope
  have fewer : ∀ {nodes}, nodes ⊆ node.parts → (node.shape scope).Admits scope nodes :=
    fun subset => all.mono fun _ mem => subset mem
  have part : ∀ {child}, child ∈ node.parts →
      (Script.evaluate (.eval child scope)).Fits (node.shape scope) :=
    fun mem => .evaluate (all.evaluates _ mem)
  have act : ∀ {β : Type} {action : Action β}, action.Ordinary →
      (Script.ofAction action).Fits (node.shape scope) := fun h => .ofAction (all.ordinary h)
  have body : ∀ {child}, node.loopBody? = some child →
      (node.shape scope).AdmitsBody scope child := node.shape_admitsBody scope
  -- One case for each kind of node: its script is built from parts, acts and loops over its body.
  cases node with
  | nil | bool | integer | float | string | thisLocals => trivial
  | self => exact act (.selfOf scope)
  | thisCall => exact .ofAction (Node.Acts.readCall rfl)
  | send receiver name arguments location =>
    have written := fewer (List.subset_append_right receiver.toList arguments)
    cases receiver with
    | some receiver =>
      exact .bind (part List.mem_cons_self) fun target => send_fits written target _
    | none => exact sendImplicit_fits written _
  | define target name value =>
    -- The value is the last of the parts, after the target.
    have assigned := @part value (List.mem_append_right _ List.mem_cons_self)
    refine .bind (evalOption_fits (fewer (List.subset_append_left ..))) fun target => ?_
    cases target with
    | some target =>
      exact .bind assigned fun _ => .bind (act (defineOn_ordinary ..)) fun _ => trivial
    | none => exact .bind assigned fun _ => .bind (act (.defineVariable ..)) fun _ => trivial
  | update target name value =>
    have assigned := @part value (List.mem_append_right _ List.mem_cons_self)
    refine .bind (evalOption_fits (fewer (List.subset_append_left ..))) fun target => ?_
    cases target with
    | some target =>
      exact .bind assigned fun _ => .bind (act (updateOn_ordinary ..)) fun _ => trivial
    | none => exact .bind assigned fun _ => .bind (act (.updateVariable ..)) fun _ => trivial
  | sequence nodes => exact evalSequence_fits all .nil
  | block parameters body uses => exact act (newBlock_ordinary ..)
  | method parameters body uses => exact act (newMethod_ordinary ..)
  | function parameters body uses => exact act (newFunction_ordinary _)
  | ifThenElse condition thenBranch elseBranch =>
    refine .bind (part List.mem_cons_self) fun value => ?_
    split
    · exact part (List.mem_cons_of_mem _ List.mem_cons_self)
    · cases elseBranch with
      | some branch => exact part (by simp [Node.parts])
      | none => trivial
  | whileLoop condition run =>
    have tested := all.evaluates condition List.mem_cons_self
    exact whileLoop_fits (body rfl) tested passes
  | forLoop counter start stop step run =>
    refine .bind (part List.mem_cons_self) fun start => ?_
    refine .bind (part (List.mem_cons_of_mem _ List.mem_cons_self)) fun stop => ?_
    refine .bind (evalOption_fits (fewer (List.subset_append_right ..))) fun step => ?_
    exact forLoop_fits (body rfl) ..
  | forEach source index element run =>
    refine .bind (part List.mem_cons_self) fun value => ?_
    refine .bind (act (Elements.ofValue_ordinary value)) fun elements => ?_
    exact forEach_fits (body rfl) ..
  | breakLoop value =>
    exact .bind (evalOption_fits all) fun value => Node.Raises.broke ..
  | continueLoop => exact Node.Raises.continued
  | returnFrom value =>
    exact .bind (evalOption_fits all) fun value => Node.Raises.returned ..
  | tryCatch tried errorName handler =>
    -- An error is caught here; every other unwinding is handed on.
    refine .attempt (Node.Asks.part List.mem_cons_self) fun outcome => ?_
    match outcome with
    | .ok value => exact .inl trivial
    | .error (.failed report) =>
      refine .inl (.bind (act (exceptionOf_ordinary report)) fun exception => ?_)
      refine .bind (act (.defineVariable ..)) fun _ => ?_
      exact part (List.mem_cons_of_mem _ List.mem_cons_self)
    | .error (.broke value) => exact .inr ⟨_, rfl, .part List.mem_cons_self _, rfl⟩
    | .error .continued => exact .inr ⟨_, rfl, .part List.mem_cons_self _, rfl⟩
    | .error (.returned value) => exact .inr ⟨_, rfl, .part List.mem_cons_self _, rfl⟩

/-! ### Code -/

/-- What the script of code can do once its activation is counted: a body ends in a value or an
    error, and what is activated in turn ends as it does. -/
def Activation.shape : Shape where
  acts := Action.Routine
  asks
    | .eval .. | .activate _ => True
    | .enter _ => False
  raises _ := False
  passes
    | .activate _, _ => True
    | _, unwind => ∃ report, unwind = .failed report

/-- A body hands on errors, and turns all signals into values and errors. -/
theorem runBody_fits {shape : Shape} (opened : Opened)
    (ordinary : ∀ {β : Type} {action : Action β}, action.Ordinary → shape.acts action)
    (asks : shape.asks (.eval opened.code.body opened.scope))
    (passes : ∀ report, shape.passes (.eval opened.code.body opened.scope) (.failed report)) :
    (runBody opened).Fits shape := by
  refine .attempt asks fun outcome => ?_
  match outcome with
  | .ok value => exact .inl trivial
  | .error (.returned value) => exact .inl trivial
  | .error (.broke value) => exact .inl (.ofAction (ordinary (.fail nofun nofun)))
  | .error .continued => exact .inl (.ofAction (ordinary (.fail nofun nofun)))
  | .error (.failed report) => exact .inr ⟨_, rfl, passes report, rfl⟩

namespace Activation

/-- A send by name takes ordinary actions, and activates what it finds. -/
theorem performByName_fits {shape : Shape} {scope : LocalsId} (h : shape.Admits scope [])
    (use : Invocation) : (performByName scope use).Fits shape := by
  refine .bind (.ofAction (h.ordinary (.expectString _))) fun name => ?_
  refine .bind (.ofAction (h.ordinary (.findOn ..))) fun found => ?_
  cases found with
  | none => exact .ofAction (h.ordinary (.fail nofun nofun))
  | some found =>
    dsimp only
    split
    · trivial
    · exact .evaluate (h.activates _)

/-- A call of the receiver activates it. -/
theorem callReceiver_fits {shape : Shape} {scope : LocalsId} (h : shape.Admits scope [])
    (use : Invocation) : (callReceiver scope use).Fits shape :=
  .bind (.ofAction (h.ordinary (.expectInvokable _))) fun _ => .evaluate (h.activates _)

/-- The code is the built-in that raises. -/
def Raises (activation : Activation) : Prop :=
  activation.code = .primitive (.plain (.exception .raise))

/-- All built-ins but the one that raises take ordinary actions, and those that activate code allow
    sends. -/
theorem enterPrimitive_fits {shape : Shape} (activation : Activation) (builtIn : Primitive)
    (h : shape.Admits activation.caller [])
    (raises : builtIn = .plain (.exception .raise) →
      ∀ use, shape.acts (ExceptionPrimitive.run use .raise)) :
    (activation.enterPrimitive builtIn).Fits shape := by
  cases builtIn with
  | plain primitive =>
    by_cases quiet : primitive = .exception .raise
    · subst quiet
      exact .ofAction (raises rfl _)
    · exact .ofAction (h.ordinary (primitive.run_ordinary _ quiet))
  | perform => exact performByName_fits h _
  | callBlock | callFunction => exact callReceiver_fits h _

/-- A shape that allows sends, bodies and what raises allows the script of any code. -/
theorem enter_fits_of {shape : Shape} (activation : Activation)
    (h : shape.Admits activation.caller [])
    (bodies : ∀ node scope, shape.asks (.eval node scope)
      ∧ ∀ report, shape.passes (.eval node scope) (.failed report))
    (raises : activation.Raises → ∀ use, shape.acts (ExceptionPrimitive.run use .raise)) :
    activation.enter.Fits shape := by
  have body : ∀ opened, (runBody opened).Fits shape := fun opened =>
    runBody_fits opened h.ordinary (bodies _ _).1 (bodies _ _).2
  have act : ∀ {action : Action Opened}, action.Ordinary → (Script.ofAction action).Fits shape :=
    fun ordinary => .ofAction (h.ordinary ordinary)
  unfold enter
  split
  next builtIn code =>
    refine activation.enterPrimitive_fits builtIn h fun same => raises ?_
    rw [Raises, code, same]
  · exact .bind (act (activation.openFunction_ordinary _)) body
  · exact .bind (act (activation.openBlock_ordinary _)) body
  · exact .bind (act (activation.openMethod_ordinary _)) body

/-- **Code.** The script of code takes routine actions, has a body evaluated and activates code. -/
theorem enter_fits (activation : Activation) : activation.enter.Fits Activation.shape :=
  activation.enter_fits_of ⟨fun h => h.routine, nofun, fun _ => ⟨trivial, fun _ => trivial⟩⟩
    (fun _ _ => ⟨trivial, fun report => ⟨report, rfl⟩⟩)
    fun _ _ => ExceptionPrimitive.raise_routine _

end Activation

/-! ### Jobs -/

/-- The actions that evaluations take. -/
inductive Action.Taken : {β : Type} → Action β → Prop where
  | routine {β : Type} {action : Action β} (h : action.Routine) : Taken action
  | readCall (scope : LocalsId) : Taken (readCall scope)
  | descend : Taken Activation.descend
  | ascend : Taken Activation.ascend

/-- What the scripts of all jobs have in common. -/
def Shape.any : Shape where
  acts := Action.Taken
  asks _ := True
  raises _ := True
  passes _ _ := True

/-- An activation that is asked for is counted before its code is entered and after it has ended. -/
theorem Activation.run_fits (activation : Activation) : activation.run.Fits Shape.any := by
  rw [run_eq]
  have checks := (checkArgumentCount_ordinary activation.code activation.message.name.content
    activation.arguments.length).routine
  refine ⟨.routine checks, fun _ => ⟨.descend, fun _ => ⟨trivial, ?_⟩⟩⟩
  refine fun outcome => .inl ⟨.ascend, fun _ => ?_⟩
  cases activation.leave outcome <;> trivial

/-- **Jobs.** Whatever is asked for, the script of it takes routine actions, reads the running call
    and counts activations. -/
theorem doJob_fits (passes : Nat) (job : Job) : (doJob passes job).Fits Shape.any := by
  cases job with
  | eval node scope =>
    refine (evalNode_fits passes scope node).mono (fun acts => ?_) (fun _ _ => trivial)
      (fun _ _ => trivial) fun _ _ _ => trivial
    cases acts with
    | ordinary h => exact .routine h.routine
    | readCall h => exact .readCall scope
  | activate activation => exact activation.run_fits
  | enter activation =>
    exact activation.enter_fits.mono .routine (fun _ _ => trivial) (fun _ _ => trivial)
      fun _ _ _ => trivial

end SlotTalk
