import SlotTalk.Proofs.ConfinedPrimitive

namespace SlotTalk

/-!
# Steps of the evaluator are confined

What activations, loops, assignments, literals and handlers do by themselves is confined, from a
scope and with values that may be held.

* `Activation.Held`, `Opened.Held` — activations and scopes that are made of what may be held.
* `Activation.openBlock_confined` and its siblings — opening the scope of a body.
* `Counting.advance_confined`, `Elements.next_confined` and the others — what loops do between the
  runs of their bodies.
* `defineOn_confined`, `exceptionOf_confined` and the others — assignments, literals and handlers.
-/

attribute [local irreducible] Value.ofInt

variable {policy : Policy}

/-! ### Activations -/

/-- All that the activation carries may be held. -/
structure Activation.Held (policy : Policy) (activation : Activation) : Prop where
  caller : policy.ref activation.caller
  code : policy.Holds activation.code.toValue
  receiver : policy.Holds activation.receiver
  slotContext : policy.Holds activation.slotContext
  arguments : ∀ value ∈ activation.arguments, policy.Holds value
  sent : policy.sends activation.message activation.arguments

/-- The body may run in the scope. -/
structure Opened.Held (policy : Policy) (opened : Opened) : Prop where
  code : policy.Runs opened.code
  scope : policy.ref opened.scope

/-- Too many arguments are refused with an error that carries none of them. -/
theorem checkArgumentCount_confined (code : Invokable) (name : String) (supplied : Nat) :
    (checkArgumentCount code name supplied).Confined policy fun _ => True :=
  .store fun _ _ => .ite (.fail trivial) (.answer trivial)

/-- Where nothing is missing nothing is added. -/
@[simp] theorem padTo_zero (values : List Value) : padTo 0 values = values := by simp [padTo]

/-- Missing arguments are nil. -/
theorem holds_padTo {values : List Value} (held : ∀ value ∈ values, policy.Holds value)
    (size : Nat) : ∀ value ∈ padTo size values, policy.Holds value := by
  intro value mem
  rcases List.mem_append.mp mem with mem | mem
  · exact held value mem
  · obtain rfl := List.eq_of_mem_replicate mem
    trivial

/-- A scope that is opened for code that may run, with a frame of arguments that may be held, may be
    held; whatever runs in it stays within the policy. -/
theorem openScope_confined {code : Code} (runs : policy.Runs code) {arguments : List Value}
    (held : ∀ value ∈ arguments, policy.Holds value) {self context : Value}
    (holdsSelf : policy.Holds self) (holdsContext : policy.Holds context) {outer : Option FrameId}
    (links : policy.Links outer) :
    (openScope code arguments self context outer).Confined policy (Opened.Held policy) := by
  have vars : (Table.ofList (code.parameters.zip (padTo code.arity arguments))).All policy.Holds :=
    .ofList fun entry mem => holds_padTo held _ _ (List.of_mem_zip mem).2
  -- The frame is new, so that all it leads to is what is put into it here.
  have frame : policy.HoldsFrame ⟨.activation, context, _, outer⟩ := ⟨holdsContext, vars, links⟩
  refine .bind (.extend fun _ closed => closed.addFrame (.ofList _) frame) fun frame ref => ?_
  refine .bind (.extend fun _ closed => closed.addLocals ⟨holdsSelf, ref⟩) fun scope ref => ?_
  exact .answer ⟨runs, ref⟩

namespace Activation

variable {activation : Activation} (held : activation.Held policy)
include held

/-- A call leads to its sender, its target, the place of the code and the code.  All of these may be
    held, and the thread of execution always may. -/
theorem newCall_confined {sender : LocalsId} (ref : policy.ref sender) {target : Value}
    (holds : policy.Holds target) :
    (activation.newCall sender target).Confined policy policy.Holds := by
  have holdsCall : policy.HoldsCall
      ⟨sender, target, activation.message, activation.slotContext, activation.code,
        World.coroutine⟩ :=
    ⟨ref, holds, held.slotContext, held.code, policy.thread⟩
  exact .bind (.extend fun _ closed => closed.addCall holdsCall) fun _ ref => .answer ref

/-- The sender of a block that asks for its call is the scope that the block was written in, and
    that scope is the target as well. -/
theorem blockContext_confined {block : Block} (holds : policy.HoldsBlock block) :
    (activation.blockContext block).Confined policy policy.Holds :=
  .ite (newCall_confined held holds.sender holds.sender) (.answer held.receiver)

/-- A method that asks for its call has a sender made for it, with the receiver for `self` and the
    frame of the caller. -/
theorem methodContext_confined (method : Method) :
    (activation.methodContext method).Confined policy policy.Holds := by
  refine .ite (.store fun store closed => ?_) (.answer held.receiver)
  have frame := (closed.scope held.caller).frame
  have sender : policy.HoldsScope ⟨activation.receiver, _⟩ := ⟨held.receiver, frame⟩
  refine .bind (.extend fun _ closed => closed.addLocals sender) fun sender ref => ?_
  exact newCall_confined held ref held.receiver

/-- A function runs on the lobby, which may always be held. -/
theorem openFunction_confined {id : FunctionId} (ref : policy.ref id) :
    (activation.openFunction id).Confined policy (Opened.Held policy) := by
  refine .store fun store closed => ?_
  have lobby : policy.Holds (.object lobbyObject) := policy.lobby
  exact openScope_confined (closed.function ref) held.arguments lobby held.receiver nofun

/-- A block that may be held leads to the scope that it was written in, and thereby to the frame
    around its own. -/
theorem openBlock_confined {id : BlockId} (ref : policy.ref id) :
    (activation.openBlock id).Confined policy (Opened.Held policy) := by
  refine .store fun store closed => ?_
  have block := closed.block ref
  refine .bind (blockContext_confined held block) fun context holds => ?_
  -- The context may have been a new cell, so that the scope is read from another store.
  refine .store fun store closed => ?_
  have home := closed.scope block.sender
  have enclosing := Policy.links_some home.frame
  exact openScope_confined block.code held.arguments home.self holds enclosing

/-- A method leads to the frame that it remembers, and its `self` is the receiver. -/
theorem openMethod_confined {id : MethodId} (ref : policy.ref id) :
    (activation.openMethod id).Confined policy (Opened.Held policy) := by
  refine .store fun store closed => ?_
  have method := closed.method ref
  refine .bind (methodContext_confined held _) fun context holds => ?_
  exact openScope_confined method.code held.arguments held.receiver holds method.outer

/-- What a built-in is used on may be held: the receiver, and the arguments with nil for those that
    are missing. -/
theorem invocation_held (builtIn : Primitive) : (activation.invocation builtIn).Held policy :=
  ⟨held.receiver, holds_padTo held.arguments _⟩

end Activation

/-! ### Loops -/

/-- The first bound that is no number is refused, with an error that does not carry it. -/
theorem expectNumbers_confined (values : List Value) :
    (expectNumbers values).Confined policy fun _ => True := by
  induction values with
  | nil => exact .answer trivial
  | cons value rest ih => exact .ite ih (.fail trivial)

namespace Counting

variable (counting : Counting) {scope : LocalsId} (ref : policy.ref scope)
include ref

/-- The counter is held by the scope, or else by what `self` leads to. -/
theorem value_confined : (counting.value scope).Confined policy policy.Holds :=
  .view fun _ closed => (closed.readVariable? ref _).getD trivial

/-- A comparison answers no value at all. -/
theorem inRange_confined : (counting.inRange scope).Confined policy fun _ => True :=
  .bind (value_confined counting ref) fun _ _ =>
    .bind (.ofExcept (Number.compare_calculates _ _)) fun _ _ => .answer trivial

/-- The sum may be held even if it is a big integer: such a one is held only where it has to be. -/
theorem advance_confined : (counting.advance scope).Confined policy fun _ => True := by
  refine .bind (value_confined counting ref) fun value held => ?_
  refine .bind (.ofCalculation held (Number.add_calculates _ _)) fun next holds => ?_
  exact .updateVariable ref _ holds

end Counting

namespace Elements

/-- What is left to visit may be held. -/
def Held (policy : Policy) : Elements → Prop
  | .characters .. => True
  | .items list _ => policy.ref list
  | .entries rest => ∀ entry ∈ rest, policy.Holds entry.2

/-- What is left to visit of a value is reached from it. -/
theorem ofValue_confined {value : Value} (held : policy.Holds value) :
    (ofValue value).Confined policy (Held policy) := by
  cases value with
  | string text => exact .answer trivial
  | list id => exact .answer held
  | map id => exact .view fun _ closed => closed.map held
  | _ => exact .fail trivial

/-- An element of a list or a map may be held, as these may; one of a text is a number. -/
theorem next_confined {elements : Elements} (held : elements.Held policy) :
    elements.next.Confined policy fun result =>
      ∀ value rest, result = some (value, rest) → policy.Holds value ∧ rest.Held policy := by
  unfold next
  split
  next text position =>
    split
    next =>
      refine .answer fun value rest same => ?_
      obtain ⟨rfl, rfl⟩ := Prod.mk.inj (Option.some.inj same)
      exact ⟨Policy.holds_ofNat _, trivial⟩
    next => exact .answer fun _ _ same => nomatch same
  next list position =>
    refine .store fun store closed => ?_
    split
    next item itemAt =>
      refine .answer fun value rest same => ?_
      obtain ⟨rfl, rfl⟩ := Prod.mk.inj (Option.some.inj same)
      exact ⟨closed.list held _ (Array.mem_of_getElem? itemAt), held⟩
    next => exact .answer fun _ _ same => nomatch same
  next => exact .answer fun _ _ same => nomatch same
  -- The pair for an entry is a new list of a text and of a value that the map held.
  next key value others =>
    obtain ⟨first, rest⟩ := List.forall_mem_cons.mp held
    have pair : ∀ item ∈ [Value.string key, value], policy.Holds item :=
      List.forall_mem_cons.mpr ⟨trivial, List.forall_mem_singleton.mpr first⟩
    refine .bind (.newList pair) fun list holds => .answer fun value others same => ?_
    obtain ⟨rfl, rfl⟩ := Prod.mk.inj (Option.some.inj same)
    exact ⟨holds, rest⟩

end Elements

/-- The position and the element are defined as any variable is. -/
theorem bindElement_confined {scope : LocalsId} (ref : policy.ref scope) (index : Option Text)
    (element : Text) (position : Nat) {value : Value} (held : policy.Holds value) :
    (bindElement scope index element position value).Confined policy fun _ => True := by
  cases index with
  | some name =>
    exact .bind (.defineVariable ref name (Policy.holds_ofNat position)) fun _ _ =>
      .defineVariable ref element held
  | none => exact .defineVariable ref element held

/-! ### Assignments and literals -/

/-- A definition on a value that may be held, be it an object or a scope. -/
theorem defineOn_confined {target : Value} (on : policy.Holds target) (name : Text) {value : Value}
    (held : policy.Holds value) : (defineOn target name value).Confined policy fun _ => True := by
  cases target with
  | object id => exact .change fun _ closed => closed.putSlot on name held
  | locals id => exact .defineVariable on name held
  | _ => exact .fail trivial

/-- An update on a value that may be held, be it an object or a scope. -/
theorem updateOn_confined {target : Value} (on : policy.Holds target) (name : String)
    {value : Value} (held : policy.Holds value) :
    (updateOn target name value).Confined policy fun _ => True := by
  cases target with
  | locals id => exact .updateVariable on name held
  | _ => exact .bind (.updateSlot on name held) fun _ _ => .ite (.answer trivial) (.fail trivial)

section Literals

variable {scope : LocalsId} (ref : policy.ref scope) {code : Code} (runs : policy.Runs code)
  (closure : policy.closure code)
include ref runs closure

/-- A block may be made of code that is allowed for one, in a scope that may be held. -/
theorem newBlock_confined : (newBlock scope code).Confined policy policy.Holds :=
  .bind (.extend fun _ closed => closed.addBlock ⟨runs, closure, ref⟩) fun _ ref => .answer ref

/-- A method may be made of code that is allowed for one.  It remembers the frame of its scope, or
    none at the top level. -/
theorem newMethod_confined : (newMethod scope code).Confined policy policy.Holds := by
  refine .store fun store closed => ?_
  -- Either way the frame is one that may be held.
  have home : policy.Links (methodHome store scope) := by
    unfold methodHome
    split
    · exact nofun
    · exact Policy.links_some (closed.scope ref).frame
  exact .bind (.extend fun _ closed => closed.addMethod ⟨runs, closure, home⟩) fun _ ref =>
    .answer ref

omit ref closure in
/-- A function may be made of any code that may run: it holds on to nothing else. -/
theorem newFunction_confined : (newFunction code).Confined policy policy.Holds :=
  .bind (.extend fun _ closed => closed.addFunction runs) fun _ ref => .answer ref

end Literals

/-! ### Handlers -/

/-- The lines of a backtrace.  By induction on them. -/
theorem newStrings_confined (contents : List String) :
    (contents.mapM Action.newString).Confined policy fun values =>
      ∀ value ∈ values, policy.Holds value := by
  induction contents with
  | nil => exact .answer nofun
  | cons content rest ih =>
    rw [List.mapM_cons]
    exact .bind (.newString content) fun _ first => .bind ih fun _ others =>
      .answer (List.forall_mem_cons.mpr ⟨first, others⟩)

/-- What a handler gets may be held: the value that was raised, or a new object below the shared
    prototype of exceptions. -/
theorem exceptionOf_confined {report : ErrorReport} (raises : policy.Raises report.error) :
    (exceptionOf report).Confined policy policy.Holds := by
  unfold exceptionOf
  split
  next value text same =>
    -- The handler gets the very value that was raised.
    rw [same] at raises
    exact .answer raises
  next =>
    -- It gets a new object for any other error, with three slots of new cells.
    refine .bind (newStrings_confined _) fun lines held => ?_
    refine .bind (.newList held) fun backtrace holdsBacktrace => ?_
    refine .bind (.newText _) fun nameKey _ => .bind (.newString _) fun name holdsName => ?_
    refine .bind (.newText _) fun messageKey _ => ?_
    refine .bind (.newString _) fun message holdsMessage => ?_
    refine .bind (.newText _) fun backtraceKey _ => ?_
    refine .newObject (policy.shared .exception) (.ofList _) (.ofList ?_)
    exact List.forall_mem_cons.mpr ⟨holdsName, List.forall_mem_cons.mpr ⟨holdsMessage,
      List.forall_mem_singleton.mpr holdsBacktrace⟩⟩

/-- The running call is read from the context of the frame, and anything else in that place is nil.
    -/
theorem readCall_confined {scope : LocalsId} (ref : policy.ref scope) :
    (readCall scope).Confined policy policy.Holds := by
  refine .view fun store closed => ?_
  have context := (closed.frame (closed.scope ref).frame).context
  unfold currentCall
  split
  next id same => exact same ▸ context
  next => trivial

end SlotTalk
