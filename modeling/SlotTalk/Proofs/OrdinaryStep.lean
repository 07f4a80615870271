import SlotTalk.Proofs.OrdinaryPrimitive

namespace SlotTalk

/-!
# Steps of the evaluator are ordinary

What activations, loops, assignments, literals and handlers do by themselves is ordinary, but for
the reading of the running call.

* `Activation.openFunction_ordinary` and its siblings — opening the scope of a body.
* `Counting.inRange_ordinary`, `Elements.next_ordinary` and the others — what loops do between the
  runs of their bodies.
* `defineOn_ordinary`, `exceptionOf_ordinary` and the others — assignments, literals and handlers.
-/

/-! ### Activations -/

/-- To refuse an activation for its arguments is to read how many its code takes, and to fail with
    an error that carries no value. -/
theorem checkArgumentCount_ordinary (code : Invokable) (name : String) (supplied : Nat) :
    (checkArgumentCount code name supplied).Ordinary :=
  .store (fun store => by simp) fun _ => .ite (.fail nofun nofun) (.answer _)

/-- A scope that is opened is a frame with the arguments under the names of the parameters, and the
    scope itself on top of it: two new cells. -/
theorem openScope_ordinary (code : Code) (arguments : List Value) (self context : Value)
    (outer : Option FrameId) : (openScope code arguments self context outer).Ordinary :=
  .bind (.extend (.addFrame (.ofList _))) fun _ => .bind (.extend (.addLocals _)) fun _ => .answer _

namespace Activation

variable (activation : Activation)

/-- A call is recorded in a cell of its own, and no cell that exists is changed for it. -/
theorem newCall_ordinary (sender : LocalsId) (target : Value) :
    (activation.newCall sender target).Ordinary :=
  .bind (.extend (.addCall _)) fun _ => .answer _

/-- The context of a block: a new call if the body asks for one, or else the receiver. -/
theorem blockContext_ordinary (block : Block) : (activation.blockContext block).Ordinary :=
  .ite (activation.newCall_ordinary ..) (.answer _)

/-- The context of a method that asks for its call.  The call names a scope that is made for it, on
    the frame that the caller runs in. -/
theorem methodContext_ordinary (method : Method) : (activation.methodContext method).Ordinary :=
  .ite
    -- Of the caller only its frame is read, and that is visible.
    (.store (fun _ => rfl) fun _ =>
      .bind (.extend (.addLocals _)) fun _ => activation.newCall_ordinary ..)
    (.answer _)

/-- A function reads its code alone; its scope lies in no other, and has the lobby for `self`. -/
theorem openFunction_ordinary (id : FunctionId) : (activation.openFunction id).Ordinary :=
  .store (fun _ => rfl) fun _ => openScope_ordinary ..

/-- A block reads the scope that it was written in after its call is recorded, so that the store is
    looked at twice. -/
theorem openBlock_ordinary (id : BlockId) : (activation.openBlock id).Ordinary :=
  .store (fun _ => rfl) fun _ => .bind (activation.blockContext_ordinary _) fun _ =>
    .store (fun _ => rfl) fun _ => openScope_ordinary ..

/-- A method gets the receiver for `self`, and the frame that it remembers for the enclosing one. -/
theorem openMethod_ordinary (id : MethodId) : (activation.openMethod id).Ordinary :=
  .store (fun _ => rfl) fun _ => .bind (activation.methodContext_ordinary _) fun _ =>
    openScope_ordinary ..

end Activation

/-! ### Loops -/

/-- The bounds and the step of a loop are looked at in order, and the first that is no number is the
    error. -/
theorem expectNumbers_ordinary (values : List Value) : (expectNumbers values).Ordinary := by
  induction values with
  | nil => exact .answer _
  | cons value rest ih => exact .ite ih (.mismatch ..)

namespace Counting

variable (counting : Counting) (scope : LocalsId)

/-- Where the counter stands is found by names alone, without the contexts on the way. -/
theorem value_ordinary : (counting.value scope).Ordinary := .view fun store => by simp

/-- The counter is read and compared, which fails if a body has put something else into it. -/
theorem inRange_ordinary : (counting.inRange scope).Ordinary :=
  .bind (counting.value_ordinary scope) fun _ =>
    .bind (.ofExcept (Number.compare_calculates _ _)) fun _ => .answer _

/-- The sum takes the place of the counter; a big one gets an identity first. -/
theorem advance_ordinary : (counting.advance scope).Ordinary :=
  .bind (counting.value_ordinary scope) fun _ =>
    .bind (.ofCalculation (@Number.add_calculates .nil _ _)) fun _ => .updateVariable ..

end Counting

namespace Elements

/-- A text and a list are taken as they are, the entries of a map are copied, and nothing else has
    elements. -/
theorem ofValue_ordinary (value : Value) : (ofValue value).Ordinary := by
  cases value with
  | string text => exact .answer _
  | list id => exact .answer _
  | map id => exact .view fun _ => rfl
  | _ => exact .mismatch ..

/-- The next element is looked up and not removed; only the pair for an entry of a map is a new
    cell. -/
theorem next_ordinary (elements : Elements) : elements.next.Ordinary := by
  unfold next
  split
  · split
    · exact .answer _
    · exact .answer _
  -- The items of a list are read anew in each pass, from whatever the store is by then.
  · refine .store (fun _ => rfl) fun store => ?_
    split
    · exact .answer _
    · exact .answer _
  · exact .answer _
  · exact .bind (.newList _) fun _ => .answer _

end Elements

/-- One definition for the element, and one before it if the position has a name too. -/
theorem bindElement_ordinary (scope : LocalsId) (index : Option Text) (element : Text)
    (position : Nat) (value : Value) :
    (bindElement scope index element position value).Ordinary := by
  cases index with
  | some name => exact .bind (.defineVariable ..) fun _ => .defineVariable ..
  | none => exact .defineVariable ..

/-! ### Assignments, literals and handlers -/

/-- An object gets the slot itself, a scope has the variable defined in its frame, and nothing else
    takes definitions. -/
theorem defineOn_ordinary (target : Value) (name : Text) (value : Value) :
    (defineOn target name value).Ordinary := by
  cases target with
  | object id => exact .change (.putSlot ..)
  | locals id => exact .defineVariable ..
  | _ => exact .mismatch ..

/-- In a scope the name is updated where it stands, and on any other value in the first object that
    owns it. -/
theorem updateOn_ordinary (target : Value) (name : String) (value : Value) :
    (updateOn target name value).Ordinary := by
  have missing : Action.Ordinary (throw (.undefinedName name none) : Action Unit) :=
    .fail nofun nofun
  cases target with
  -- An unreadable name fails inside of this update, and is found missing after the other one.
  | locals id => exact .updateVariable ..
  | _ => exact .bind (.updateSlot ..) fun _ => .ite (.answer _) missing

/-- A literal block remembers the scope that it is written in. -/
theorem newBlock_ordinary (scope : LocalsId) (code : Code) : (newBlock scope code).Ordinary :=
  .bind (.extend (.addBlock _)) fun _ => .answer _

/-- A literal method remembers the frame it is written in, unless that is the one of the top level;
    which of the two it is can be seen without contexts. -/
theorem newMethod_ordinary (scope : LocalsId) (code : Code) : (newMethod scope code).Ordinary :=
  .store (fun store => by rw [store.methodHome_visible]) fun _ =>
    .bind (.extend (.addMethod _)) fun _ => .answer _

/-- A literal function remembers nothing but its code. -/
theorem newFunction_ordinary (code : Code) : (newFunction code).Ordinary :=
  .bind (.extend (.addFunction code)) fun _ => .answer _

/-- One new text for each line of a backtrace.  By induction on the lines. -/
theorem newStrings_ordinary (contents : List String) :
    (contents.mapM Action.newString).Ordinary := by
  induction contents with
  | nil => exact .answer _
  | cons content rest ih =>
    rw [List.mapM_cons]
    exact .bind (.newString content) fun _ => .bind ih fun _ => .answer _

/-- What a handler gets is the value that was raised, or a new object with three slots that tell the
    error. -/
theorem exceptionOf_ordinary (report : ErrorReport) : (exceptionOf report).Ordinary := by
  unfold exceptionOf
  split
  · exact .answer _
  -- Texts of the backtrace, their list, three keys with two more texts, and the object at last.
  · exact .bind (newStrings_ordinary _) fun _ => .bind (.newList _) fun _ =>
      .bind (.newText _) fun _ => .bind (.newString _) fun _ => .bind (.newText _) fun _ =>
      .bind (.newString _) fun _ => .bind (.newText _) fun _ => .newObject _ (.ofList _)

end SlotTalk
