import SlotTalk.Proofs.Reachability
import SlotTalk.Proofs.SoundSession
import SlotTalk.Proofs.Trace

namespace SlotTalk

/-!
# Steps that fail

A built-in that fails has changed nothing by then: neither a cell nor what was printed.  Raising is
the one that makes something before it fails, and that is the very object that is raised.  An
assignment that cannot be carried out leaves the state in which its operands were evaluated.

* `Engine.Raised` — what raising comes to.
* `Node.Assigns`, `Node.OperandsEnd` — assignments, and the evaluation of their operands.
* `failing_steps_change_nothing` — built-ins and assignments that fail.
-/

/-! ### Raising -/

theorem Value.Names.ref_of_holds {policy : Policy} {value : Value} {cell : Cell} {id : Ref cell}
    (names : value.Names id) (held : policy.Holds value) : policy.ref id := by
  cases names <;> exact held

/-- Nothing refers to an object before it is made, and the object itself only to what it is made
    of. -/
theorem Store.Sound.ref_of_points_addObject {store : Store} (sound : store.Sound) {new : Object}
    (held : store.known.HoldsObject new) {cell next : Cell} {id : Ref cell} {other : Ref next}
    (points : (store.addObject new).2.Points id other) : store.known.ref other := by
  have object : ∀ id, store.known.HoldsObject ((store.addObject new).2.object id) := fun id => by
    rw [object_addObject]
    split
    · exact held
    · exact sound.holds_object id
  cases points with
  | prototype above => exact (object _).prototype _ above
  | slot mem names => exact names.ref_of_holds ((object _).slots _ mem)
  | item mem names => exact names.ref_of_holds (sound.holds_list _ _ mem)
  | entry mem names => exact names.ref_of_holds (sound.holds_map _ _ mem)
  | var mem names => exact names.ref_of_holds ((sound.holds_frame _).vars _ mem)
  | context names => exact names.ref_of_holds (sound.holds_frame _).context
  | outer above => exact (sound.holds_frame _).outer _ above
  | self names => exact names.ref_of_holds (sound.holds_scope _).self
  | frame id => exact (sound.holds_scope id).frame
  | sender id => exact (sound.holds_call id).sender
  | target names => exact names.ref_of_holds (sound.holds_call _).target
  | slotContext names => exact names.ref_of_holds (sound.holds_call _).slotContext
  | activated names => exact names.ref_of_holds (sound.holds_call _).activated
  | coroutine id => exact (sound.holds_call id).coroutine
  | home id => exact (sound.holds_block id).sender
  | enclosing above => exact (sound.holds_method _).outer _ above

/-- Nothing refers to an object that was just made, not even the object itself. -/
theorem Store.Sound.alone_addObject {store : Store} (sound : store.Sound) {new : Object}
    (held : store.known.HoldsObject new) {cell : Cell} (id : Ref cell) :
    ¬ (store.addObject new).2.Points id (⟨store.objects.size⟩ : ObjectId) :=
  fun points => Nat.lt_irrefl _ (sound.lt_of_ref (sound.ref_of_points_addObject held points))

/-- One object was made, which only the error refers to, and nothing else happened. -/
structure Engine.Raised (use : Invocation) (before : Engine) (error : RuntimeError)
    (after : Engine) : Prop where
  raises : ∃ text, error = .exception (.object ⟨before.store.objects.size⟩) text
  made : ∃ new, after = { before with
    store := { before.store with objects := before.store.objects.push new }
    nextIdentity := before.nextIdentity + 1 }
  kept {id : ObjectId} : id.index < before.store.objects.size →
    after.store.object id = before.store.object id
  alone : before.store.Sound → use.Held before.store.known → ∀ {cell : Cell} (id : Ref cell),
    ¬ after.store.Points id (⟨before.store.objects.size⟩ : ObjectId)

/-- What is raised refers to what was there before it. -/
theorem ExceptionPrimitive.holds_raised {use : Invocation} {before : Engine}
    (held : use.Held before.store.known) : before.store.known.HoldsObject (raised use before) :=
  ⟨Policy.links_some (Policy.ref_delegate held.receiver), .put .empty _ (held.input 0)⟩

theorem ExceptionPrimitive.raised_of_error {use : Invocation} {before after : Engine}
    {error : RuntimeError} (failed : (run use .raise).on before = (.error error, after)) :
    before.Raised use error after := by
  obtain ⟨text, raised⟩ := raise_on use before
  rw [raised] at failed
  obtain ⟨same, rfl⟩ := Prod.mk.inj failed
  obtain rfl := Except.error.inj same
  refine ⟨⟨text, rfl⟩, ⟨_, rfl⟩, fun {id} old => ?_, fun sound held cell id => ?_⟩
  · show (before.store.addObject _).2.object id = _
    rw [Store.object_addObject, if_neg (Nat.ne_of_lt old)]
  · exact sound.alone_addObject (ExceptionPrimitive.holds_raised held) id

/-! ### Assignments -/

/-- The node assigns the value to a name, on the target if there is one. -/
inductive Node.Assigns : Node → Option Node → Node → Prop where
  | define (target : Option Node) (name : Text) (value : Node) :
    Assigns (.define target name value) target value
  | update (target : Option Node) (name : String) (value : Node) :
    Assigns (.update target name value) target value

/-- The target, if there is one, and the value were evaluated; the latter gave the answer. -/
inductive Node.OperandsEnd (scope : LocalsId) :
    Option Node → Node → Engine → Value → Engine → Prop where
  | value {value : Node} {before after : Engine} {answer : Value}
    (second : Finishes (.eval value scope) before (.ok answer) after) :
    OperandsEnd scope none value before answer after
  | both {target value : Node} {before between after : Engine} {on answer : Value}
    (first : Finishes (.eval target scope) before (.ok on) between)
    (second : Finishes (.eval value scope) between (.ok answer) after) :
    OperandsEnd scope (some target) value before answer after

open SlotTalk.Action (Deliberate)
open RuntimeError (OfAssignment)

section Assignments

variable {before : Engine}

theorem defineVariable_deliberate (scope : LocalsId) (name : Text) (value : Value) :
    (Action.defineVariable scope name value).Deliberate OfAssignment before fun _ _ => True :=
  Deliberate.defineVariable (fun _ _ _ => trivial) fun _ => trivial

theorem updateVariable_deliberate (scope : LocalsId) (name : String) (value : Value) :
    (Action.updateVariable scope name value).Deliberate OfAssignment before fun _ _ => True :=
  Deliberate.updateVariable fun _ _ => trivial

theorem defineOn_deliberate (target : Value) (name : Text) (value : Value) :
    (defineOn target name value).Deliberate OfAssignment before fun _ _ => True := by
  cases target with
  | object id => trivial
  | locals id => exact defineVariable_deliberate id name value
  | _ => exact .fail (.mismatch _)

theorem updateOn_deliberate (target : Value) (name : String) (value : Value) :
    (updateOn target name value).Deliberate OfAssignment before fun _ _ => True := by
  cases target with
  | locals id => exact updateVariable_deliberate id name value
  | _ => exact Deliberate.updateOwned (.undefinedName name none) fun _ _ => trivial

/-- The end of an assignment: the write is done, or it fails and nothing has changed. -/
theorem write_trace {action : Action Unit}
    (careful : action.Deliberate OfAssignment before fun _ _ => True) (answer : Value) :
    (∃ after, (do Script.ofAction action; return answer : Script Value).Trace before []
        (.ok answer) after)
      ∨ ∃ error, OfAssignment error
        ∧ (do Script.ofAction action; return answer : Script Value).Trace before []
          (.error (.ofError error)) before := by
  cases acted : action.on before with
  | mk result after =>
    cases result with
    | ok => exact .inl ⟨after, .act acted (.done _ after)⟩
    | error error =>
      obtain ⟨failing, rfl⟩ := careful.error acted
      exact .inr ⟨error, failing, .failed acted⟩

end Assignments

/-- An assignment whose operands were evaluated is carried out, or fails in that very state. -/
theorem Node.Assigns.ends {node value : Node} {target : Option Node}
    (assigns : node.Assigns target value) {scope : LocalsId} {before written : Engine}
    {answer : Value} (operands : Node.OperandsEnd scope target value before answer written) :
    (∃ after, Finishes (.eval node scope) before (.ok answer) after)
      ∨ ∃ error, OfAssignment error
        ∧ Finishes (.eval node scope) before (.error (.ofError error)) written := by
  -- Whatever it is that writes, its end is that of the whole.
  have whole : ∀ {action : Action Unit} {asked : List Answered},
      action.Deliberate OfAssignment written (fun _ _ => True) →
      (∀ {outcome last}, (do Script.ofAction action; return answer : Script Value).Trace written []
        outcome last → (doJob 0 (.eval node scope)).Trace before asked outcome last) →
      (∃ after, Finishes (.eval node scope) before (.ok answer) after)
        ∨ ∃ error, OfAssignment error
          ∧ Finishes (.eval node scope) before (.error (.ofError error)) written := by
    intro action asked careful extend
    rcases write_trace careful answer with ⟨last, trace⟩ | ⟨error, failing, trace⟩
    · exact .inl ⟨last, (extend trace).finishes⟩
    · exact .inr ⟨error, failing, (extend trace).finishes⟩
  cases assigns with
  | define target name value =>
    cases operands with
    | value second =>
      exact whole (defineVariable_deliberate scope name answer) fun trace => .ask second trace
    | both first second =>
      exact whole (defineOn_deliberate _ name answer) fun trace => .ask first (.ask second trace)
  | update target name value =>
    cases operands with
    | value second =>
      exact whole (updateVariable_deliberate scope name answer) fun trace => .ask second trace
    | both first second =>
      exact whole (updateOn_deliberate _ name answer) fun trace => .ask first (.ask second trace)

/-! ### Both -/

/-- **Failing.**  A built-in that activates nothing else and fails leaves the whole state as it was,
    unless it is the one that raises: that makes the object of the error, to which nothing else
    refers in a sound store, and leaves everything else as it was.  An assignment whose operands
    were evaluated is carried out, or fails because the target cannot have names or because there
    is no such name, and then the state is the one that the operands left. -/
theorem failing_steps_change_nothing :
    (∀ (primitive : PlainPrimitive) (use : Invocation) (before after : Engine)
        (error : RuntimeError), (primitive.run use).on before = (.error error, after) →
      if primitive = .exception .raise then before.Raised use error after else after = before)
      ∧ ∀ (node value : Node) (target : Option Node) (scope : LocalsId) (before written : Engine)
        (answer : Value), node.Assigns target value →
        Node.OperandsEnd scope target value before answer written →
        (∃ after, Finishes (.eval node scope) before (.ok answer) after)
          ∨ ∃ error, OfAssignment error
            ∧ Finishes (.eval node scope) before (.error (.ofError error)) written := by
  constructor
  · intro primitive use before after error failed
    split
    next raises =>
      subst raises
      exact ExceptionPrimitive.raised_of_error failed
    next quiet => exact ((primitive.run_deliberate quiet).error failed).2
  · exact fun node value target scope before written answer assigns operands =>
      assigns.ends operands

/-- What the lobby raises in a new engine. -/
def lobbyRaises : Invocation := ⟨.object lobbyObject, [.bool true], ⟨"raise", 1, none⟩⟩

/-- In a new engine, nothing but the error refers to what the lobby raises; and as nil has no slots,
    a definition on it leaves a new engine. -/
theorem failing_steps_of_a_new_engine :
    (∃ error after, ((PlainPrimitive.exception .raise).run lobbyRaises).on (Engine.new {})
        = (.error error, after)
      ∧ ∀ {cell : Cell} (id : Ref cell), ¬ after.store.Points id (⟨19⟩ : ObjectId))
      ∧ ∃ error, Finishes (.eval (.define (some .nil) "x" (.integer 1)) World.moduleLocals)
        (Engine.new {}) (.error (.ofError error)) (Engine.new {}) := by
  obtain ⟨builtIns, assignments⟩ := failing_steps_change_nothing
  constructor
  · obtain ⟨text, raised⟩ := ExceptionPrimitive.raise_on lobbyRaises (Engine.new {})
    have made := builtIns (.exception .raise) lobbyRaises _ _ _ raised
    rw [if_pos rfl] at made
    have held : lobbyRaises.Held (Engine.new {}).store.known :=
      ⟨Policy.lobby _, List.forall_mem_singleton.mpr trivial⟩
    exact ⟨_, _, raised, made.alone (World.sound_store _) held⟩
  · have target : Finishes (.eval .nil World.moduleLocals) (Engine.new {}) (.ok .nil)
        (Engine.new {}) := ⟨1, rfl⟩
    have value : Finishes (.eval (.integer 1) World.moduleLocals) (Engine.new {}) (.ok (.int 1))
        (Engine.new {}) := ⟨1, rfl⟩
    have ended : Finishes (.eval (.define (some .nil) "x" (.integer 1)) World.moduleLocals)
        (Engine.new {}) (.error (.ofError (.mismatch "Object" .nil))) (Engine.new {}) := ⟨2, rfl⟩
    rcases assignments _ _ _ _ _ _ _ (.define (some .nil) "x" (.integer 1)) (.both target value)
      with ⟨after, done⟩ | ⟨error, -, failed⟩
    · exact nomatch (ended.unique done).1
    · exact ⟨error, failed⟩

end SlotTalk
