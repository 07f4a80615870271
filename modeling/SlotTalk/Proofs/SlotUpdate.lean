import SlotTalk.Proofs.CellAccess
import SlotTalk.Proofs.PrototypeWalk
import SlotTalk.Scope

namespace SlotTalk

/-!
# Lookups after a slot was written

A write changes the slots of one object.  All other objects may still find another value than
before, because the object lies on the way of their lookups.

* `Store.MetFirst` — an object is met before all owners of a key.
* `lookup_putSlot_of_met`, `lookup_putSlot_of_not_met` — a slot that is put is found from where the
  object is met first, and changes no other lookup.
* `lookup_putSlot_of_owned` — a slot that was there already keeps its holder for all lookups.
* `update_rewrites_and_define_shadows` — both ways of writing a slot.
-/

namespace Store

variable {store : Store} {start id other : ObjectId} {name : String} {found : Found}

/-- The object is met from `start` on, and no object before it owns the key. -/
def MetFirst (store : Store) (start : ObjectId) (name : String) (id : ObjectId) : Prop :=
  ∃ steps, store.ancestor? start steps = some id
    ∧ ∀ fewer < steps, ∀ other, store.ancestor? start fewer = some other → store.Lacks other name

theorem firstOwner_iff :
    store.FirstOwner start name found
      ↔ store.MetFirst start name found.holder ∧ store.Owns found.holder name found.value := by
  constructor
  · rintro ⟨steps, reached, owns, before⟩
    exact ⟨⟨steps, reached, before⟩, owns⟩
  · rintro ⟨⟨steps, reached, before⟩, owns⟩
    exact ⟨steps, reached, owns, before⟩

/-- A lookup finds the first owner and nothing else. -/
theorem lookup_eq_some_iff :
    store.lookup start name = some found ↔ store.FirstOwner start name found := by
  obtain ⟨sound, complete⟩ := lookupFrom_of_walked (Walked.zero store start name)
  refine ⟨sound found, fun first => ?_⟩
  cases result : store.lookup start name with
  | some other => rw [FirstOwner.unique (sound other result) first]
  | none =>
    obtain ⟨steps, reached, owns, -⟩ := first
    have lacks := complete result steps found.holder reached
    exact nomatch owns.symm.trans lacks

/-- Lookups with the same first owners find the same. -/
theorem lookup_congr {after : Store}
    (same : ∀ found, after.FirstOwner start name found ↔ store.FirstOwner start name found) :
    after.lookup start name = store.lookup start name := by
  refine Option.ext fun found => ?_
  rw [lookup_eq_some_iff, lookup_eq_some_iff, same]

theorem ancestor?_congr {after : Store} (same : ∀ id, after.object id = store.object id)
    (steps : Nat) : after.ancestor? start steps = store.ancestor? start steps := by
  induction steps with
  | zero => rfl
  | succ steps ih => simp only [ancestor?, ih, same]

/-- Lookups read nothing but objects. -/
theorem lookup_congr_of_objects {after : Store} (same : ∀ id, after.object id = store.object id) :
    after.lookup start name = store.lookup start name := by
  refine lookup_congr fun found => ?_
  simp only [FirstOwner, ancestor?_congr same, Owns, Lacks, same]

/-- Only an object that exists owns slots. -/
theorem exists_of_owns {value : Value} (owns : store.Owns id name value) :
    id.index < store.objects.size := by
  refine Nat.lt_of_not_le fun beyond => ?_
  have missing : store.object id = {} := getD_of_size_le _ beyond {}
  rw [Owns, missing] at owns
  exact nomatch owns

/-- A search begins with the object itself. -/
theorem MetFirst.self : store.MetFirst start name start :=
  ⟨0, rfl, fun _ before => absurd before (Nat.not_lt_zero _)⟩

/-- An object that is met first is met first at a certain place, and not before. -/
theorem MetFirst.least (met : store.MetFirst start name id) :
    ∃ steps, store.ancestor? start steps = some id
      ∧ ∀ fewer < steps, ∀ other, store.ancestor? start fewer = some other →
        other ≠ id ∧ store.Lacks other name := by
  obtain ⟨steps, reached, before⟩ := met
  induction steps using Nat.strongRecOn with
  | ind steps ih =>
    by_cases again : ∃ fewer < steps, store.ancestor? start fewer = some id
    · obtain ⟨fewer, lt, reached'⟩ := again
      exact ih fewer lt reached' fun least lt' => before least (Nat.lt_trans lt' lt)
    · refine ⟨steps, reached, fun fewer lt other reached' => ⟨?_, before fewer lt other reached'⟩⟩
      rintro rfl
      exact again ⟨fewer, lt, reached'⟩

/-! ### A slot that is put -/

section Put

variable (key : Text) (value : Value)

theorem ancestor?_putSlot (steps : Nat) :
    (store.putSlot id key value).ancestor? start steps = store.ancestor? start steps := by
  induction steps with
  | zero => rfl
  | succ steps ih => simp only [ancestor?, ih, prototype_putSlot]

section Exists

variable (inObjects : id.index < store.objects.size)
include inObjects

theorem owns_putSlot_iff {held : Value} :
    (store.putSlot id key value).Owns other name held
      ↔ if id = other ∧ key.content = name then value = held else store.Owns other name held := by
  rw [Owns, find?_putSlot store id other key value inObjects]
  split
  · exact Option.some_inj
  · exact Iff.rfl

theorem lacks_putSlot_iff :
    (store.putSlot id key value).Lacks other name
      ↔ ¬ (id = other ∧ key.content = name) ∧ store.Lacks other name := by
  rw [Lacks, find?_putSlot store id other key value inObjects]
  split
  next here =>
    exact ⟨fun owned => absurd owned (Option.some_ne_none value), fun lacks => absurd here lacks.1⟩
  next elsewhere => exact ⟨fun lacks => ⟨elsewhere, lacks⟩, fun lacks => lacks.2⟩

/-- From where the object is met first, the slot is found on it. -/
theorem lookup_putSlot_of_met (met : store.MetFirst start key.content id) :
    (store.putSlot id key value).lookup start key.content = some ⟨id, value⟩ := by
  obtain ⟨steps, reached, before⟩ := met.least
  refine lookup_eq_some_iff.mpr ⟨steps, ?_, ?_, fun fewer lt other reached' => ?_⟩
  · rw [ancestor?_putSlot, reached]
  · exact (owns_putSlot_iff key value inObjects).mpr (by rw [if_pos ⟨rfl, rfl⟩])
  · rw [ancestor?_putSlot] at reached'
    obtain ⟨differs, lacks⟩ := before fewer lt other reached'
    exact (lacks_putSlot_iff key value inObjects).mpr ⟨fun same => differs same.1.symm, lacks⟩

/-- From everywhere else, the key is found where it was, or nowhere as before. -/
theorem lookup_putSlot_of_not_met (notMet : ¬ store.MetFirst start key.content id) :
    (store.putSlot id key value).lookup start key.content = store.lookup start key.content := by
  refine lookup_congr fun found => ⟨?_, ?_⟩
  · rintro ⟨steps, reached, owns, before⟩
    rw [ancestor?_putSlot] at reached
    have before' : ∀ fewer < steps, ∀ other, store.ancestor? start fewer = some other →
        store.Lacks other key.content := fun fewer lt other reached' =>
      ((lacks_putSlot_iff key value inObjects).mp
        (before fewer lt other (by rw [ancestor?_putSlot, reached']))).2
    have elsewhere : id ≠ found.holder := by
      rintro rfl
      exact notMet ⟨steps, reached, before'⟩
    rw [owns_putSlot_iff key value inObjects, if_neg fun same => elsewhere same.1] at owns
    exact ⟨steps, reached, owns, before'⟩
  · rintro ⟨steps, reached, owns, before⟩
    have elsewhere : id ≠ found.holder := by
      rintro rfl
      exact notMet ⟨steps, reached, before⟩
    refine ⟨steps, by rw [ancestor?_putSlot, reached], ?_, fun fewer lt other reached' => ?_⟩
    · rw [owns_putSlot_iff key value inObjects, if_neg fun same => elsewhere same.1]
      exact owns
    · rw [ancestor?_putSlot] at reached'
      -- An object on the way that were the one written to would be met first there.
      have differs : ¬ (id = other ∧ key.content = key.content) := by
        rintro ⟨rfl, -⟩
        exact notMet ⟨fewer, reached', fun least lt' => before least (Nat.lt_trans lt' lt)⟩
      exact (lacks_putSlot_iff key value inObjects).mpr ⟨differs, before fewer lt other reached'⟩

/-- No other key is found elsewhere or with another value. -/
theorem lookup_putSlot_of_ne (differs : key.content ≠ name) :
    (store.putSlot id key value).lookup start name = store.lookup start name := by
  have elsewhere : ∀ other, ¬ (id = other ∧ key.content = name) := fun _ same => differs same.2
  refine lookup_congr fun found => ?_
  simp only [FirstOwner, ancestor?_putSlot, owns_putSlot_iff key value inObjects,
    lacks_putSlot_iff key value inObjects, elsewhere, ↓reduceIte, not_false_eq_true, true_and]

end Exists

/-- A slot that was there already keeps its holder, whatever the start and the key. -/
theorem lookup_putSlot_of_owned {old : Value} (owns : store.Owns id key.content old) :
    (store.putSlot id key value).lookup start name
      = (store.lookup start name).map fun seen =>
          if name = key.content ∧ seen.holder = id then ⟨seen.holder, value⟩ else seen := by
  have inObjects := exists_of_owns owns
  by_cases same : key.content = name
  · subst same
    by_cases met : store.MetFirst start key.content id
    · have before : store.lookup start key.content = some ⟨id, old⟩ :=
        lookup_eq_some_iff.mpr (firstOwner_iff.mpr ⟨met, owns⟩)
      rw [lookup_putSlot_of_met key value inObjects met, before]
      simp
    · rw [lookup_putSlot_of_not_met key value inObjects met]
      cases before : store.lookup start key.content with
      | none => rfl
      | some seen =>
        have elsewhere : seen.holder ≠ id := by
          rintro rfl
          exact met (firstOwner_iff.mp (lookup_eq_some_iff.mp before)).1
        simp [elsewhere]
  · rw [lookup_putSlot_of_ne key value inObjects same]
    have differs : name ≠ key.content := fun eq => same eq.symm
    simp [differs]

/-- Such a slot keeps its place as well. -/
theorem keys_putSlot_of_owned {old : Value} (owns : store.Owns id key.content old) :
    ((store.putSlot id key value).object other).slots.keys = (store.object other).slots.keys := by
  rw [putSlot, object_modifyObject]
  split
  next here =>
    obtain rfl : id = other := congrArg Ref.mk here.1
    have present : (store.object id).slots.contains key.content := by
      rw [Table.contains, show (store.object id).slots.find? key.content = some old from owns]
      rfl
    exact Table.keys_put_of_contains key value present
  next => rfl

end Put

end Store

/-! ### Both ways of writing -/

theorem updateSlot_on (receiver : Value) (key : String) (value : Value) (before : Engine) :
    (Action.updateSlot receiver key value).on before =
      match before.store.lookupOn receiver key with
      | some found =>
        (.ok true, { before with store := before.store.putSlot found.holder key value })
      | none => (.ok false, before) := by
  show (match before.store.lookupOn receiver key with
    | some found => do
      Action.modifyStore (·.putSlot found.holder key value)
      return true
    | none => return false : Action Bool).on before = _
  split <;> rfl

/-- **Writing slots.** An update of a key that is found rewrites it on its holder: every lookup has
    the holder it had, the value there is the new one, and prototypes, the order of slots and all
    other cells stay.  An update of a key that is not found changes nothing.  A slot that is put on
    an object is found from wherever the object is met before all owners of the key, and changes no
    other lookup. -/
theorem update_rewrites_and_define_shadows (before : Engine) (receiver : Value) (key : String)
    (value : Value) :
    (∀ found, before.store.lookupOn receiver key = some found →
      ∃ after, (Action.updateSlot receiver key value).on before = (.ok true, after)
        ∧ (∀ start name, after.store.lookup start name
            = (before.store.lookup start name).map fun seen =>
                if name = key ∧ seen.holder = found.holder then ⟨seen.holder, value⟩ else seen)
        ∧ (∀ id, (after.store.object id).prototype = (before.store.object id).prototype
            ∧ (after.store.object id).slots.keys = (before.store.object id).slots.keys)
        ∧ after.store.objects.size = before.store.objects.size
        ∧ after = { before with store := { before.store with objects := after.store.objects } })
      ∧ (before.store.lookupOn receiver key = none →
        (Action.updateSlot receiver key value).on before = (.ok false, before))
      ∧ ∀ (store : Store) (id : ObjectId) (text : Text), id.index < store.objects.size →
        ∀ start,
          (store.MetFirst start text.content id →
            (store.putSlot id text value).lookup start text.content = some ⟨id, value⟩)
          ∧ (¬ store.MetFirst start text.content id →
            (store.putSlot id text value).lookup start text.content
              = store.lookup start text.content)
          ∧ ∀ name, text.content ≠ name →
            (store.putSlot id text value).lookup start name = store.lookup start name := by
  refine ⟨fun found finds => ?_, fun missing => ?_, fun store id text inObjects start =>
    ⟨Store.lookup_putSlot_of_met text value inObjects,
      Store.lookup_putSlot_of_not_met text value inObjects,
      fun _ => Store.lookup_putSlot_of_ne text value inObjects⟩⟩
  · obtain ⟨-, owns⟩ := Store.firstOwner_iff.mp (Store.lookup_eq_some_iff.mp finds)
    refine ⟨{ before with store := before.store.putSlot found.holder key value }, ?_, ?_, ?_, ?_,
      rfl⟩
    · rw [updateSlot_on, finds]
    · exact fun start name => Store.lookup_putSlot_of_owned (key : Text) value owns
    · exact fun id =>
        ⟨Store.prototype_putSlot .., Store.keys_putSlot_of_owned (key : Text) value owns⟩
    · exact Array.size_modify
  · rw [updateSlot_on, missing]

/-- Two objects that are the prototypes of each other; the second owns a slot. -/
def twoInACycle : Engine where
  config := {}
  store :=
    { objects :=
        #[{ prototype := some ⟨1⟩ },
          { prototype := some ⟨0⟩, slots := ⟨[(("x" : Text), .int 1)]⟩ }] }

/-- From the first object, an update rewrites the slot of the second, and a slot that is put hides
    it. -/
theorem cycle_is_rewritten_or_shadowed :
    (∃ after, (Action.updateSlot (.object ⟨0⟩) "x" (.int 2)).on twoInACycle = (.ok true, after)
        ∧ after.store.lookup ⟨0⟩ "x" = some ⟨⟨1⟩, .int 2⟩)
      ∧ (twoInACycle.store.putSlot ⟨0⟩ "x" (.int 2)).lookup ⟨0⟩ "x" = some ⟨⟨0⟩, .int 2⟩ := by
  obtain ⟨rewrites, -, shadows⟩ :=
    update_rewrites_and_define_shadows twoInACycle (.object ⟨0⟩) "x" (.int 2)
  have finds : twoInACycle.store.lookupOn (.object ⟨0⟩) "x" = some ⟨⟨1⟩, .int 1⟩ := by
    refine Store.lookup_eq_some_iff.mpr ⟨1, rfl, rfl, fun fewer lt other reached => ?_⟩
    obtain rfl : fewer = 0 := by omega
    obtain rfl : ⟨0⟩ = other := Option.some.inj reached
    rfl
  constructor
  · obtain ⟨after, updated, lookups, -⟩ := rewrites _ finds
    refine ⟨after, updated, ?_⟩
    rw [lookups, show twoInACycle.store.lookup ⟨0⟩ "x" = some ⟨⟨1⟩, .int 1⟩ from finds]
    rfl
  · have met : twoInACycle.store.MetFirst ⟨0⟩ "x" ⟨0⟩ := ⟨0, rfl, nofun⟩
    exact (shadows twoInACycle.store ⟨0⟩ "x" (by decide) ⟨0⟩).1 met

end SlotTalk
