import SlotTalk.Proofs.SoundSession

namespace SlotTalk

/-!
# Calls agree with their code

A call can be kept for as long as one likes: in a variable, a slot, a list, or inside an error that
is raised.  Wherever it turns up, it is a call of a block or method that reads its call, sender and
target are the ones that such an activation has, and it is part of the one thread of execution.

* `Call.Describes` — sender and target fit the code.
* `Store.Vouches` — the value, if it is a call, is one that exists and fits its code, and if it is a
  thread of execution, it is that of the engine.
* `Outcome.Carries` — the values that an evaluation ends with.
* `calls_agree_with_their_code` — the values in the state and in outcomes, at any time.
-/

/-! ### Calls -/

/-- The call is one of code that reads its call.  For a block, the scope that it was written in is
    sender and target; the target of a method is the `self` of the sender. -/
inductive Call.Describes (store : Store) (call : Call) : Prop where
  | block {id : BlockId} (activated : call.activated = .block id)
    (inBlocks : id.index < store.blocks.size)
    (reads : (store.block id).code.usesCallContext = true)
    (sender : call.sender = (store.block id).sender)
    (target : call.target = .locals (store.block id).sender)
  | method {id : MethodId} (activated : call.activated = .method id)
    (inMethods : id.index < store.methods.size)
    (reads : (store.method id).code.usesCallContext = true)
    (target : call.target = (store.scope call.sender).self)

/-- What may be relied on if the value is a call, or a thread of execution. -/
structure Store.Vouches (store : Store) (value : Value) : Prop where
  recorded {id : CallId} : value = .call id → id.index < store.calls.size
  sender {id : CallId} : value = .call id → (store.call id).sender.index < store.locals.size
  describes {id : CallId} : value = .call id → (store.call id).Describes store
  place {id : CallId} : value = .call id → (store.call id).slotContext.IsPlace
  coroutine {id : CallId} : value = .call id → (store.call id).coroutine = World.coroutine
  thread : value.type = .coroutine → value = .coroutine World.coroutine

namespace Store.Sound

variable {store : Store} (sound : store.Sound)
include sound

/-- A call that exists is one of a block or method. -/
theorem describes {id : CallId} (inside : id.index < store.calls.size) :
    (store.call id).Describes store := by
  have agrees := sound.calls inside
  have uses := agrees.uses
  have held := (sound.holds_call id).activated
  cases same : (store.call id).activated with
  | primitive | function =>
    rw [same] at uses
    exact nomatch uses
  | block block =>
    rw [same] at uses held
    obtain ⟨sender, target⟩ := agrees.block same
    exact .block same (sound.lt_of_ref held) uses sender (sender ▸ target)
  | method method =>
    rw [same] at uses held
    exact .method same (sound.lt_of_ref held) uses (agrees.method same)

theorem vouches {value : Value} (held : store.known.Holds value) : store.Vouches value := by
  have inside : ∀ {id : CallId}, value = .call id → id.index < store.calls.size := by
    rintro id rfl
    exact sound.lt_of_ref held
  exact
    { recorded := inside
      sender := fun _ => sound.lt_of_ref (sound.holds_call _).sender
      describes := fun same => sound.describes (inside same)
      place := fun same => (sound.calls (inside same)).place
      coroutine := fun _ => sound.eq_coroutine_of_ref (sound.holds_call _).coroutine
      thread := fun same => by
        cases value with
        | coroutine id => exact congrArg Value.coroutine (sound.eq_coroutine_of_ref held)
        | bool value => cases value <;> exact nomatch same
        | _ => exact nomatch same }

/-- Whatever stands in the store exists. -/
theorem holds_of_contains {value : Value} (contains : store.Contains value) :
    store.known.Holds value := by
  cases contains with
  | slot mem => exact (sound.holds_object _).slots _ mem
  | item mem => exact sound.holds_list _ _ mem
  | entry mem => exact sound.holds_map _ _ mem
  | var mem => exact (sound.holds_frame _).vars _ mem
  | context id => exact (sound.holds_frame id).context
  | self id => exact (sound.holds_scope id).self
  | target id => exact (sound.holds_call id).target
  | slotContext id => exact (sound.holds_call id).slotContext

end Store.Sound

/-! ### Outcomes -/

/-- The value is what an evaluation ends with: its value, or what an unwinding carries. -/
inductive Outcome.Carries : Except Unwind Value → Value → Prop where
  | answer (value : Value) : Carries (.ok value) value
  | returned (value : Value) : Carries (.error (.returned value)) value
  | broke (value : Value) : Carries (.error (.broke (some value))) value
  | raised {report : ErrorReport} {value : Value} {text : String}
    (raises : report.error = .exception value text) : Carries (.error (.failed report)) value

theorem Outcome.Carries.holds {policy : Policy} {outcome : Except Unwind Value} {value : Value}
    (carries : Outcome.Carries outcome value) (h : policy.Outcome policy.Holds outcome) :
    policy.Holds value := by
  cases carries with
  | answer => exact h
  | returned => exact h
  | broke => exact h value rfl
  | @raised report value text raises =>
    have held : policy.Raises report.error := h
    rw [raises] at held
    exact held

/-- Asked for its `coroutine`, a call answers the one that it was made with. -/
theorem CallPrimitive.coroutine_on {use : Invocation} {id : CallId} (engine : Engine)
    (receiver : use.receiver = .call id) :
    (run use .coroutine).on engine
      = (.ok (.coroutine (engine.store.call id).coroutine), engine) := by
  rw [run, receiver]
  rfl

/-! ### Sessions -/

/-- **Calls.**  At each moment of each program of a session, each call that stands anywhere in the
    store exists and is one of a block or method that reads its call: for a block the scope that it
    was written in is sender and target, for a method the target is the `self` of the sender, and
    the code was found in an object or a scope.  The thread of execution of the engine is the only
    one there is, the only value of its kind, and the `coroutine` of each call.  So it is after the
    next step, whatever that is, and with the values that the jobs on the way and the program itself
    end with, or carry in an error. -/
theorem calls_agree_with_their_code {config : Config} {programs : List Node} {engine : Engine}
    (session : Engine.Session config programs engine) {program : Node}
    {inside : List Activation} {rest : Script Value} {state : Engine}
    (reached : (Script.evaluate (engine.jobOf program)).Reaches (engine.load program).2 inside rest
      state) :
    (∀ value, state.store.Contains value → state.store.Vouches value)
      ∧ (∀ after, rest.Steps state after →
        ∀ value, after.store.Contains value → after.store.Vouches value)
      ∧ (∀ job next outcome after, rest = .ask job next → Finishes job state outcome after →
        ∀ value, Outcome.Carries outcome value → after.store.Vouches value)
      ∧ (∀ (use : Invocation) (id : CallId), use.receiver = .call id →
        (CallPrimitive.run use .coroutine).on state = (.ok (.coroutine World.coroutine), state))
      ∧ state.store.coroutines.size = 1 := by
  have sound := Engine.sound_of_session session
  have sound' := Engine.sound_of_reaches sound reached
  refine ⟨fun value contains => sound'.vouches (sound'.holds_of_contains contains),
    fun after steps value contains => ?next, fun job next outcome after same finished value
      carries => ?ended, fun use id receiver => ?thread, sound'.oneThread⟩
  case next =>
    have sound'' := (Engine.leads_of_steps sound reached steps).sound
    exact sound''.vouches (sound''.holds_of_contains contains)
  case ended =>
    subst same
    obtain ⟨post, keeps⟩ := Engine.keeps_of_reaches sound reached
    obtain ⟨leads, holds⟩ := (soundness_kept engine.store).finishes finished keeps.2.1
    exact leads.sound.vouches (carries.holds holds)
  case thread =>
    rw [CallPrimitive.coroutine_on state receiver,
      sound'.eq_coroutine_of_ref (sound'.holds_call id).coroutine]

/-- Defines a block that answers its call, and runs it. -/
def escapingCall : Node :=
  .sequence [.define none "b" (.blockOf [] .thisCall), .send none "b" [] none]

/-- The call that comes out of it is one of the block, with the top level as sender and target, in
    the one thread of execution. -/
theorem escaped_call_is_one_of_the_block :
    ∃ after, Finishes ((Engine.new {}).jobOf escapingCall) ((Engine.new {}).load escapingCall).2
        (.ok (.call ⟨0⟩)) after
      ∧ (after.store.call ⟨0⟩).Describes after.store
      ∧ (after.store.call ⟨0⟩).coroutine = World.coroutine := by
  -- What the program comes to is computed; that the call agrees with its code is not.
  have called : (evaluator 12 ((Engine.new {}).jobOf escapingCall)
      ((Engine.new {}).load escapingCall).2).any (fun ending =>
        ending.1.toOption.any fun value => value.sameReference (.call ⟨0⟩)) = true := by
    decide +kernel
  obtain ⟨⟨outcome, after⟩, ended, same⟩ := (Option.any_eq_true _ _).mp called
  match outcome with
  | .error unwind => exact nomatch same
  | .ok value =>
    have answer : value = .call ⟨0⟩ := by
      cases value with
      | call id => exact congrArg Value.call (beq_iff_eq.mp same)
      | _ => exact nomatch same
    subst answer
    obtain ⟨-, -, outcomes, -, -⟩ := calls_agree_with_their_code .fresh .here
    have vouches := outcomes _ _ _ after rfl ⟨12, ended⟩ _ (.answer _)
    exact ⟨after, ⟨12, ended⟩, vouches.describes rfl, vouches.coroutine rfl⟩

end SlotTalk
