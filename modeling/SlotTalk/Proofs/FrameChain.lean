import SlotTalk.Scope

namespace SlotTalk

/-!
# Chains of frames

A variable is looked for in a frame, in the frame that encloses it, and so on to the outermost one.

* `Store.Chain` — the frames from one of them outward, to the last.
* `contains_of_definingFrame?` — a frame that is found defines the name.
* `resolve_inFrame_iff`, `resolve_onObject_iff` — what a name stands for in a scope.
* `definingFrameWithin_eq_find?` — as many steps as there are frames on the chain find the first of
  them that defines the name; more steps change nothing.
-/

namespace Store

/-- The frames from the first one outward; the last has no frame around it. -/
inductive Chain (store : Store) : FrameId → List FrameId → Prop where
  | outermost {id : FrameId} (last : (store.frame id).outer = none) : Chain store id [id]
  | inside {id next : FrameId} {rest : List FrameId} (above : (store.frame id).outer = some next)
    (chain : Chain store next rest) : Chain store id (id :: rest)

variable {store : Store} {name : String}

/-- A walk stops at a frame that defines the name, and nowhere else. -/
theorem contains_of_definingFrameWithin {steps : Nat} {start frame : FrameId}
    (finds : store.definingFrameWithin name steps start = some frame) :
    (store.frame frame).vars.contains name = true := by
  induction steps generalizing start with
  | zero => exact nomatch finds
  | succ steps ih =>
    rw [definingFrameWithin] at finds
    split at finds
    next defines => exact Option.some.inj finds ▸ defines
    next =>
      split at finds
      next next above => exact ih finds
      next => cases finds

theorem contains_of_definingFrame? {start frame : FrameId}
    (finds : store.definingFrame? start name = some frame) :
    (store.frame frame).vars.contains name = true :=
  contains_of_definingFrameWithin finds

theorem resolve_inFrame_iff {scope : LocalsId} {frame : FrameId} :
    store.resolve scope name = some (.inFrame frame)
      ↔ store.definingFrame? (store.scope scope).frame name = some frame := by
  rw [resolve]
  split
  next found finds =>
    rw [finds, Option.some_inj, Option.some_inj]
    exact ⟨Binding.inFrame.inj, congrArg Binding.inFrame⟩
  next finds =>
    rw [finds]
    cases store.lookupOn (store.scope scope).self name <;> exact ⟨nofun, nofun⟩

theorem resolve_onObject_iff {scope : LocalsId} {holder : ObjectId} :
    store.resolve scope name = some (.onObject holder)
      ↔ store.definingFrame? (store.scope scope).frame name = none
        ∧ ∃ value, store.lookupOn (store.scope scope).self name = some ⟨holder, value⟩ := by
  rw [resolve]
  split
  next found finds =>
    rw [finds]
    exact ⟨nofun, fun same => nomatch same.1⟩
  next finds =>
    refine ⟨fun stands => ⟨finds, ?_⟩, fun ⟨_, value, looked⟩ => by rw [looked]; rfl⟩
    obtain ⟨⟨owner, value⟩, looked, same⟩ := Option.map_eq_some_iff.mp stands
    obtain rfl := Binding.onObject.inj same
    exact ⟨value, looked⟩

/-- A name that stands for a variable stands for one of a frame that defines it. -/
theorem contains_of_resolve {scope : LocalsId} {frame : FrameId}
    (stands : store.resolve scope name = some (.inFrame frame)) :
    (store.frame frame).vars.contains name = true :=
  contains_of_definingFrame? (resolve_inFrame_iff.mp stands)

/-- With enough steps the whole chain is walked. -/
theorem definingFrameWithin_eq_find? {start : FrameId} {frames : List FrameId}
    (chain : store.Chain start frames) {steps : Nat} (enough : frames.length ≤ steps) :
    store.definingFrameWithin name steps start
      = frames.find? fun id => (store.frame id).vars.contains name := by
  induction chain generalizing steps with
  | @outermost id last =>
    obtain ⟨steps, rfl⟩ := Nat.exists_eq_add_of_le' enough
    rw [List.length_singleton, definingFrameWithin, last, List.find?_singleton]
  | @inside id next rest above chain ih =>
    obtain ⟨steps, rfl⟩ := Nat.exists_eq_add_of_le' (Nat.le_trans (Nat.le_add_left 1 _) enough)
    have fewer : rest.length ≤ steps := Nat.le_of_succ_le_succ enough
    rw [definingFrameWithin, above, List.find?_cons]
    cases (store.frame id).vars.contains name with
    | true => rfl
    | false => exact ih fewer

end Store

end SlotTalk
