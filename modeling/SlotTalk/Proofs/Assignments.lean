import Mathlib.Data.Finset.Card
import SlotTalk.Proofs.VariableAccess

namespace SlotTalk

/-!
# Assignments to variables

A name is looked for twice over: outward along the frames, and then along the prototypes of `self`.
Reading, defining and updating walk there one by one, and come to the same place.

* `Store.enclosing?`, `Store.NearestDefiner` — the frames around a frame, and the first of them that
  defines a name.
* `definingFrame?_eq_some_iff` — a walk bounded by the number of frames finds just that one.
* `Store.StandsFor`, `resolve_eq_some_iff` — the place that a name stands for.
* `readVariable?_eq_walks`, `updateVariable_eq_walks` — reading and updating as two walks, one after
  the other.
* `Engine.Rewrites` — one place gets another value, and nothing else happens.
* `variables_read_back` — names after a definition, after an update, and after one that failed.
-/

namespace Store

variable {store : Store} {start frame : FrameId} {name : String}

/-! ### Outward along the frames -/

/-- The frame that lies so many frames outside the first one, if there are so many. -/
def enclosing? (store : Store) (start : FrameId) : Nat → Option FrameId
  | 0 => some start
  | steps + 1 => (store.enclosing? start steps).bind fun id => (store.frame id).outer

/-- The frame defines the name, and no frame on the way outward to it does. -/
def NearestDefiner (store : Store) (start : FrameId) (name : String) (frame : FrameId) : Prop :=
  ∃ steps, store.enclosing? start steps = some frame
    ∧ (store.frame frame).vars.contains name = true
    ∧ ∀ fewer < steps, ∀ id, store.enclosing? start fewer = some id →
      (store.frame id).vars.contains name = false

/-- The first step outward can be taken before the others. -/
theorem enclosing?_succ (start : FrameId) (steps : Nat) :
    store.enclosing? start (steps + 1)
      = (store.frame start).outer.bind fun next => store.enclosing? next steps := by
  induction steps with
  | zero =>
    show (store.frame start).outer = (store.frame start).outer.bind some
    rw [Option.bind_fun_some]
  | succ steps ih =>
    rw [enclosing?, ih, Option.bind_assoc]
    rfl

/-- What a bounded walk finds is the nearest frame that defines the name. -/
theorem nearestDefiner_of_definingFrameWithin {bound : Nat}
    (finds : store.definingFrameWithin name bound start = some frame) :
    store.NearestDefiner start name frame := by
  induction bound generalizing start with
  | zero => exact nomatch finds
  | succ bound ih =>
    rw [definingFrameWithin] at finds
    by_cases defines : (store.frame start).vars.contains name = true
    · rw [if_pos defines] at finds
      obtain rfl := Option.some.inj finds
      exact ⟨0, rfl, defines, fun _ before => absurd before (Nat.not_lt_zero _)⟩
    · rw [if_neg defines] at finds
      split at finds
      next next above =>
        obtain ⟨steps, reached, here, before⟩ := ih finds
        have onward : ∀ more, store.enclosing? start (more + 1) = store.enclosing? next more :=
          fun more => by rw [enclosing?_succ, above, Option.bind_some]
        refine ⟨steps + 1, (onward steps).trans reached, here, fun fewer lt id reached' => ?_⟩
        cases fewer with
        | zero => exact Option.some.inj reached' ▸ Bool.eq_false_iff.mpr defines
        | succ fewer => exact before fewer (by omega) id ((onward fewer).symm.trans reached')
      next => cases finds

/-- With a step to spare, a bounded walk comes to the first frame that defines the name. -/
theorem definingFrameWithin_of_reached {bound steps : Nat} (enough : steps < bound)
    (reached : store.enclosing? start steps = some frame)
    (defines : (store.frame frame).vars.contains name = true)
    (before : ∀ fewer < steps, ∀ id, store.enclosing? start fewer = some id →
      (store.frame id).vars.contains name = false) :
    store.definingFrameWithin name bound start = some frame := by
  obtain ⟨bound, rfl⟩ := Nat.exists_eq_add_of_le' (Nat.lt_of_le_of_lt (Nat.zero_le _) enough)
  induction steps generalizing start bound with
  | zero =>
    obtain rfl := Option.some.inj reached
    rw [definingFrameWithin, if_pos defines]
  | succ steps ih =>
    rw [enclosing?_succ] at reached
    obtain ⟨next, above, reached⟩ := Option.bind_eq_some_iff.mp reached
    obtain ⟨bound, rfl⟩ := Nat.exists_eq_add_of_lt (Nat.lt_of_succ_lt_succ enough)
    rw [definingFrameWithin, before 0 (Nat.succ_pos steps) start rfl, if_neg Bool.false_ne_true,
      above]
    refine ih reached (fun fewer lt id reached' => ?_) (steps + bound) (by omega)
    refine before (fewer + 1) (by omega) id ?_
    rw [enclosing?_succ, above, Option.bind_some, reached']

/-- A frame that lies inside another one exists. -/
theorem exists_of_outer {id next : FrameId} (above : (store.frame id).outer = some next) :
    id.index < store.frames.size := by
  refine Nat.lt_of_not_le fun beyond => ?_
  have missing : store.frame id = {} := getD_of_size_le _ beyond {}
  rw [missing] at above
  exact nomatch above

/-- What the walk comes to first is fewer steps away than there are frames: otherwise the walk would
    have met some frame twice by then, and from there on nothing but what it met before. -/
theorem steps_lt_of_nearest {steps : Nat} (reached : store.enclosing? start steps = some frame)
    (defines : (store.frame frame).vars.contains name = true)
    (before : ∀ fewer < steps, ∀ id, store.enclosing? start fewer = some id →
      (store.frame id).vars.contains name = false) : steps < store.frames.size := by
  -- Each step on the way comes to a frame that exists.
  have onTheWay : ∀ fewer ≤ steps, ∃ id, store.enclosing? start fewer = some id
      ∧ id.index < store.frames.size := by
    intro fewer le
    induction le using Nat.decreasingInduction with
    | self => exact ⟨frame, reached, exists_of_contains defines⟩
    | of_succ fewer lt ih =>
      obtain ⟨next, above, -⟩ := ih
      obtain ⟨id, here, outer⟩ := Option.bind_eq_some_iff.mp above
      exact ⟨id, here, exists_of_outer outer⟩
  have : Nonempty FrameId := ⟨start⟩
  choose! met here inside using onTheWay
  refine Nat.lt_of_not_le fun few => ?_
  have placed : ∀ fewer ∈ Finset.range (steps + 1),
      (met fewer).index ∈ Finset.range store.frames.size := by
    intro fewer mem
    rw [Finset.mem_range] at mem ⊢
    exact inside fewer (by omega)
  have more : (Finset.range store.frames.size).card < (Finset.range (steps + 1)).card := by
    rw [Finset.card_range, Finset.card_range]
    omega
  obtain ⟨first, mem, again, memAgain, differs, same⟩ :=
    Finset.exists_ne_map_eq_of_card_lt_of_maps_to more placed
  rw [Finset.mem_range] at mem memAgain
  wlog lt : first < again generalizing first again
  · exact this again memAgain first mem differs.symm same.symm (by omega)
  have revisit : store.enclosing? start again = store.enclosing? start first := by
    have sameFrame : met first = met again := congrArg Ref.mk same
    rw [here first (by omega), here again (by omega), sameFrame]
  obtain ⟨earlier, notLater, revisited⟩ := exists_earlier_of_revisit (fun _ => rfl) lt revisit steps
  have lacks := before earlier (by omega) frame (revisited.symm.trans reached)
  exact Bool.false_ne_true (lacks.symm.trans defines)

/-- A walk bounded by the number of frames finds the nearest frame that defines the name, whatever
    lies inside what. -/
theorem definingFrame?_eq_some_iff :
    store.definingFrame? start name = some frame ↔ store.NearestDefiner start name frame := by
  refine ⟨nearestDefiner_of_definingFrameWithin, ?_⟩
  rintro ⟨steps, reached, defines, before⟩
  exact definingFrameWithin_of_reached (steps_lt_of_nearest reached defines before) reached defines
    before

/-- It finds nothing only where no frame on the way defines the name. -/
theorem definingFrame?_eq_none_iff :
    store.definingFrame? start name = none
      ↔ ∀ steps id, store.enclosing? start steps = some id →
        (store.frame id).vars.contains name = false := by
  constructor
  · intro missing steps
    induction steps using Nat.strongRecOn with
    | ind steps ih =>
      intro id reached
      refine Bool.eq_false_iff.mpr fun defines => ?_
      have found := definingFrame?_eq_some_iff.mpr ⟨steps, reached, defines, ih⟩
      exact nomatch missing.symm.trans found
  · intro lacks
    refine Option.eq_none_iff_forall_ne_some.mpr fun frame found => ?_
    obtain ⟨steps, reached, defines, -⟩ := definingFrame?_eq_some_iff.mp found
    exact Bool.false_ne_true ((lacks steps frame reached).symm.trans defines)

/-! ### The place of a name -/

/-- The place that a name stands for in a scope: a variable of the nearest frame that defines it,
    and only where no frame does a slot of the first object from `self` on that owns it. -/
inductive StandsFor (store : Store) (scope : LocalsId) (name : String) : Binding → Prop where
  | inFrame {frame : FrameId}
    (nearest : store.NearestDefiner (store.scope scope).frame name frame) :
    StandsFor store scope name (.inFrame frame)
  | onObject {found : Found}
    (lacks : ∀ steps id, store.enclosing? (store.scope scope).frame steps = some id →
      (store.frame id).vars.contains name = false)
    (first : store.FirstOwner (store.scope scope).self.delegate name found) :
    StandsFor store scope name (.onObject found.holder)

theorem resolve_eq_some_iff {scope : LocalsId} {binding : Binding} :
    store.resolve scope name = some binding ↔ store.StandsFor scope name binding := by
  constructor
  · intro stands
    cases binding with
    | inFrame frame =>
      exact .inFrame (definingFrame?_eq_some_iff.mp (resolve_inFrame_iff.mp stands))
    | onObject holder =>
      obtain ⟨missing, value, looked⟩ := resolve_onObject_iff.mp stands
      have first := lookup_eq_some_iff.mp looked
      exact @StandsFor.onObject _ _ _ ⟨holder, value⟩ (definingFrame?_eq_none_iff.mp missing) first
  · intro stands
    cases stands with
    | inFrame nearest => exact resolve_inFrame_iff.mpr (definingFrame?_eq_some_iff.mpr nearest)
    | onObject lacks first =>
      exact resolve_onObject_iff.mpr
        ⟨definingFrame?_eq_none_iff.mpr lacks, _, lookup_eq_some_iff.mpr first⟩

/-! ### Two walks -/

/-- **Reading.**  To read where a name stands is to walk twice: a name is read in the frames, and
    then on `self`. -/
theorem readVariable?_eq_walks (scope : LocalsId) :
    store.readVariable? scope name
      = (store.readFrame? (store.scope scope).frame name).or
          ((store.lookupOn (store.scope scope).self name).map Found.value) := by
  rw [readVariable?, readFrame?]
  cases finds : store.definingFrame? (store.scope scope).frame name with
  | some frame =>
    obtain ⟨value, held⟩ := Option.isSome_iff_exists.mp (contains_of_definingFrame? finds)
    rw [resolve_inFrame_iff.mpr finds, Option.bind_some, Option.bind_some, held, Option.some_or]
    exact held
  | none =>
    rw [resolve, finds, Option.bind_none, Option.none_or]
    cases looked : store.lookupOn (store.scope scope).self name with
    | none => rfl
    | some found => exact (firstOwner_iff.mp (lookup_eq_some_iff.mp looked)).2

end Store

theorem updateFrame_on (start : FrameId) (name : String) (value : Value) (before : Engine) :
    (Action.updateFrame start name value).on before =
      match before.store.definingFrame? start name with
      | some frame =>
        (.ok true, { before with store := before.store.putVariable frame name value })
      | none => (.ok false, before) := by
  show (match before.store.definingFrame? start name with
    | some frame => do
      Action.modifyStore (·.putVariable frame name value)
      return true
    | none => return false : Action Bool).on before = _
  split <;> rfl

/-- **Updating.**  To update where a name stands is to walk twice: a name is updated in the frames,
    or else on `self`, or else the update fails. -/
theorem updateVariable_eq_walks (scope : LocalsId) (name : String) (value : Value)
    (before : Engine) :
    (Action.updateVariable scope name value).on before
      = (do
          let store ← Action.store
          if ← Action.updateFrame (store.scope scope).frame name value then return ()
          if ← Action.updateSlot (store.scope scope).self name value then return ()
          throw (.undefinedName name none) : Action Unit).on before := by
  rw [Action.on_store_bind, Action.on_bind, updateFrame_on]
  cases finds : before.store.definingFrame? (before.store.scope scope).frame name with
  | some frame => exact Store.updateVariable_of_resolve value (Store.resolve_inFrame_iff.mpr finds)
  | none =>
    simp only [Bool.false_eq_true, ↓reduceIte]
    rw [Action.on_bind, updateSlot_on]
    cases looked : before.store.lookupOn (before.store.scope scope).self name with
    | some found =>
      exact Store.updateVariable_of_resolve value
        (Store.resolve_onObject_iff.mpr ⟨finds, found.value, looked⟩)
    | none =>
      refine Store.updateVariable_of_unresolved value ?_
      rw [Store.resolve, finds, looked]
      rfl

/-! ### What an update changes -/

/-- The place has got the value in exchange for the one that it held under the name.  All other
    places hold what they held, there are no new ones, and nothing else has changed. -/
structure Engine.Rewrites (before : Engine) (name : String) (binding : Binding) (value : Value)
    (after : Engine) : Prop where
  held : ∃ old, before.store.readBinding? name binding = some old
  places : ∀ place other, after.store.readBinding? other place
    = if binding = place ∧ name = other then some value
      else before.store.readBinding? other place
  vars : ∀ id, (after.store.frame id).vars.keys = (before.store.frame id).vars.keys
  slots : ∀ id, (after.store.object id).slots.keys = (before.store.object id).slots.keys
  frames : after.store.frames.size = before.store.frames.size
    ∧ ∀ id, { after.store.frame id with vars := {} } = { before.store.frame id with vars := {} }
  objects : after.store.objects.size = before.store.objects.size
    ∧ ∀ id, (after.store.object id).prototype = (before.store.object id).prototype
  rest : after = { before with
    store := { before.store with objects := after.store.objects, frames := after.store.frames } }

namespace Store

variable {store : Store} {id other : FrameId} (key : Text) (value : Value)

/-- A frame that gets a variable is otherwise what it was. -/
theorem rest_putVariable :
    { (store.putVariable id key value).frame other with vars := {} }
      = { store.frame other with vars := {} } := by
  rw [putVariable, frame_modifyFrame]
  split <;> rfl

/-- Another value for a variable keeps the order of all variables. -/
theorem keys_putVariable_of_defined
    (defines : (store.frame id).vars.contains key.content = true) :
    ((store.putVariable id key value).frame other).vars.keys = (store.frame other).vars.keys := by
  rw [putVariable, frame_modifyFrame]
  split
  next here =>
    obtain rfl : id = other := congrArg Ref.mk here.1
    exact Table.keys_put_of_contains key value defines
  next => rfl

end Store

/-- A write to a place that holds a value under the name rewrites it. -/
theorem Engine.rewrites_writeBinding {before : Engine} {name : String} {binding : Binding}
    {old : Value} (held : before.store.readBinding? name binding = some old) (value : Value) :
    before.Rewrites name binding value
      { before with store := before.store.writeBinding name value binding } where
  held := ⟨old, held⟩
  places := Store.readBinding?_writeBinding held value
  vars id := by
    cases binding with
    | inFrame frame =>
      exact Store.keys_putVariable_of_defined (name : Text) value (Option.isSome_of_mem held)
    | onObject holder => rfl
  slots id := by
    cases binding with
    | inFrame frame => rfl
    | onObject holder => exact Store.keys_putSlot_of_owned (name : Text) value held
  frames := by
    cases binding with
    | inFrame frame => exact ⟨Array.size_modify, fun _ => Store.rest_putVariable name value⟩
    | onObject holder => exact ⟨rfl, fun _ => rfl⟩
  objects := by
    cases binding with
    | inFrame frame => exact ⟨rfl, fun _ => rfl⟩
    | onObject holder => exact ⟨Array.size_modify, fun id => Store.prototype_putSlot ..⟩
  rest := by cases binding <;> rfl

/-- **Variables.**  In a scope of an activation, or one of the top level whose `self` is an object
    and whose frame has no variables, a name that was defined or updated is read with the value that
    it was given.  An update fails just where the name is read as nothing, and then changes nothing.
    One that succeeds rewrites the place that the name stands for, and makes no new ones: a name is
    read with another value than before, in whatever scope, only if it is the same name and stands
    for that place. -/
theorem variables_read_back {before : Engine} {scope : LocalsId}
    (definable : before.store.Definable scope) (name : Text) (value : Value) :
    (∃ after, (Action.defineVariable scope name value).on before = (.ok (), after)
        ∧ after.store.readVariable? scope name.content = some value)
      ∧ ((∃ error after, (Action.updateVariable scope name.content value).on before
            = (.error error, after))
          ↔ before.store.readVariable? scope name.content = none)
      ∧ (∀ error after, (Action.updateVariable scope name.content value).on before
            = (.error error, after) →
          error = .undefinedName name.content none ∧ after = before)
      ∧ ∀ after, (Action.updateVariable scope name.content value).on before = (.ok (), after) →
        after.store.readVariable? scope name.content = some value
          ∧ ∃ binding, before.store.StandsFor scope name.content binding
            ∧ before.Rewrites name.content binding value after
            ∧ ∀ elsewhere other, after.store.readVariable? elsewhere other
                ≠ before.store.readVariable? elsewhere other →
              other = name.content ∧ before.store.StandsFor elsewhere other binding := by
  refine ⟨definable.defines name value, ?_⟩
  cases stands : before.store.resolve scope name.content with
  | none =>
    have reads : before.store.readVariable? scope name.content = none :=
      Store.readVariable?_of_unresolved stands
    rw [Store.updateVariable_of_unresolved value stands]
    refine ⟨⟨fun _ => reads, fun _ => ⟨_, _, rfl⟩⟩, fun error after same => ?_, nofun⟩
    obtain ⟨failed, rfl⟩ := Prod.mk.inj same
    exact ⟨(Except.error.inj failed).symm, rfl⟩
  | some binding =>
    obtain ⟨old, held⟩ := Store.exists_of_resolve stands
    have reads : before.store.readVariable? scope name.content = some old :=
      (Store.readVariable?_of_resolve stands).trans held
    have readings := Store.readVariable?_writeBinding held value
    have succeeds : ∀ error after, (Action.updateVariable scope name.content value).on before
        ≠ (.error error, after) := by
      intro error after failed
      rw [Store.updateVariable_of_resolve value stands] at failed
      exact nomatch (Prod.mk.inj failed).1
    refine ⟨⟨fun ⟨error, after, failed⟩ => absurd failed (succeeds error after), ?_⟩,
      fun error after failed => absurd failed (succeeds error after), fun after updated => ?_⟩
    · rw [reads]
      exact nofun
    rw [Store.updateVariable_of_resolve value stands] at updated
    obtain rfl := (Prod.mk.inj updated).2
    refine ⟨?_, binding, Store.resolve_eq_some_iff.mp stands,
      Engine.rewrites_writeBinding held value, fun elsewhere other differs => ?_⟩
    · rw [readings, if_pos ⟨stands, rfl⟩]
    · rw [readings] at differs
      split at differs
      next here => exact ⟨here.2.symm, Store.resolve_eq_some_iff.mp here.1⟩
      next => exact absurd rfl differs

/-- An activation inside another one, which has a variable. -/
def oneInsideAnother : Engine where
  config := {}
  store :=
    { frames :=
        #[{ kind := .activation, vars := ⟨[(("x" : Text), .int 1)]⟩ },
          { kind := .activation, outer := some ⟨0⟩ }]
      locals := #[{ frame := ⟨0⟩ }, { frame := ⟨1⟩ }] }

/-- From the inner scope an update rewrites the variable of the outer one, and a definition gives
    the inner one a variable of its own. -/
theorem outer_variable_is_updated_and_inner_defined :
    (∃ after, (Action.updateVariable ⟨1⟩ "x" (.int 2)).on oneInsideAnother = (.ok (), after)
        ∧ after.store.readVariable? ⟨1⟩ "x" = some (.int 2)
        ∧ oneInsideAnother.Rewrites "x" (.inFrame ⟨0⟩) (.int 2) after)
      ∧ ∃ after, (Action.defineVariable ⟨1⟩ "x" (.int 2)).on oneInsideAnother = (.ok (), after)
        ∧ after.store.readVariable? ⟨1⟩ "x" = some (.int 2) := by
  have inner : oneInsideAnother.store.isModule ⟨1⟩ = false := rfl
  have stands : oneInsideAnother.store.resolve ⟨1⟩ "x" = some (.inFrame ⟨0⟩) := rfl
  obtain ⟨defines, -, -, updates⟩ := variables_read_back (.activation inner) "x" (.int 2)
  have updated := Store.updateVariable_of_resolve (.int 2) stands
  obtain ⟨reads, binding, place, rewrites, -⟩ := updates _ updated
  -- Only one place is the one that the name stands for.
  obtain rfl := Option.some.inj ((Store.resolve_eq_some_iff.mpr place).symm.trans stands)
  exact ⟨⟨_, updated, reads, rewrites⟩, defines⟩

end SlotTalk
