import SlotTalk.Delegation

namespace SlotTalk

/-!
# Walks along the prototypes

The objects behind `start` form a sequence that may run into a cycle, with or without `start` on
it.  A walk visits each of them once, so that all there is to know about the sequence is known when
the walk would visit one again.

* `Store.ancestor?` — the sequence itself: the prototype of the prototype, and so on.
* `Store.FirstOwner` — the first object of the sequence that owns a key, with the value there.
* `ancestor?_mem_of_revisit` — after a revisit the sequence only repeats what came before.
* `lookup_finds_first_owner` — a lookup finds the first owner, and finds nothing only if no object
  of the sequence owns the key.
-/

/-- A sequence in which each member follows from the one before it only repeats itself from where it
    comes to a member again. -/
theorem exists_earlier_of_revisit {α : Type} {next : α → Option α} {sequence : Nat → Option α}
    (succ : ∀ steps, sequence (steps + 1) = (sequence steps).bind next) {first again : Nat}
    (lt : first < again) (revisit : sequence again = sequence first) (steps : Nat) :
    ∃ earlier < again, sequence steps = sequence earlier := by
  induction steps with
  | zero => exact ⟨0, by omega, rfl⟩
  | succ steps ih =>
    obtain ⟨earlier, before, same⟩ := ih
    have onward : sequence (steps + 1) = sequence (earlier + 1) := by rw [succ, succ, same]
    by_cases h : earlier + 1 < again
    · exact ⟨earlier + 1, h, onward⟩
    · have closes : earlier + 1 = again := by omega
      exact ⟨first, lt, by rw [onward, closes, revisit]⟩

namespace Store

/-- The object that is so many prototypes above `start`, if the sequence gets that far. -/
def ancestor? (store : Store) (start : ObjectId) : Nat → Option ObjectId
  | 0 => some start
  | steps + 1 => (store.ancestor? start steps).bind fun id => (store.object id).prototype

/-- The object itself has the key. -/
def Owns (store : Store) (id : ObjectId) (key : String) (value : Value) : Prop :=
  (store.object id).slots.find? key = some value

/-- The object itself does not have the key. -/
def Lacks (store : Store) (id : ObjectId) (key : String) : Prop :=
  (store.object id).slots.find? key = none

/-- The holder owns the key, and comes before all others that do. -/
def FirstOwner (store : Store) (start : ObjectId) (key : String) (found : Found) : Prop :=
  ∃ steps, store.ancestor? start steps = some found.holder
    ∧ store.Owns found.holder key found.value
    ∧ ∀ fewer < steps, ∀ id, store.ancestor? start fewer = some id → store.Lacks id key

variable {store : Store} {start : ObjectId} {key : String}

theorem ancestor?_succ {steps : Nat} {id : ObjectId} (h : store.ancestor? start steps = some id) :
    store.ancestor? start (steps + 1) = (store.object id).prototype := by
  rw [ancestor?, h, Option.bind_some]

/-- A sequence that has ended does not go on. -/
theorem ancestor?_eq_none_of_le {steps more : Nat} (h : store.ancestor? start steps = none)
    (le : steps ≤ more) : store.ancestor? start more = none := by
  obtain ⟨extra, rfl⟩ := Nat.exists_eq_add_of_le le
  induction extra with
  | zero => exact h
  | succ extra ih => rw [← Nat.add_assoc, ancestor?, ih (by omega), Option.bind_none]

/-- **Revisits.** Once the sequence is where it was before, all that is left of it was met on the
    way there. -/
theorem ancestor?_mem_of_revisit {first again : Nat} (lt : first < again)
    (revisit : store.ancestor? start again = store.ancestor? start first) (steps : Nat) :
    ∃ earlier < again, store.ancestor? start steps = store.ancestor? start earlier :=
  exists_earlier_of_revisit (fun _ => rfl) lt revisit steps

/-- There is only one first owner. -/
theorem FirstOwner.unique {a b : Found} (ha : store.FirstOwner start key a)
    (hb : store.FirstOwner start key b) : a = b := by
  obtain ⟨m, atA, ownsA, beforeA⟩ := ha
  obtain ⟨n, atB, ownsB, beforeB⟩ := hb
  have same : m = n := by
    rcases Nat.lt_trichotomy m n with lt | eq | gt
    · exact absurd (beforeB m lt _ atA) (by rw [Lacks, ownsA]; simp)
    · exact eq
    · exact absurd (beforeA n gt _ atB) (by rw [Lacks, ownsB]; simp)
  subst same
  have holders : a.holder = b.holder := Option.some.inj (atA.symm.trans atB)
  have values : a.value = b.value :=
    Option.some.inj (ownsA.symm.trans (holders ▸ ownsB))
  cases a; cases b; subst holders; subst values; rfl

/-! ### What a walk knows -/

/-- The walk has come `steps` steps from `start` to `current`, and visited exactly the objects
    before it, none of which owns the key. -/
structure Walked (store : Store) (start : ObjectId) (key : String) (visited : List ObjectId)
    (steps : Nat) (current : ObjectId) : Prop where
  here : store.ancestor? start steps = some current
  seen : ∀ id ∈ visited, ∃ fewer < steps, store.ancestor? start fewer = some id
  lacking : ∀ fewer < steps, ∀ id, store.ancestor? start fewer = some id → store.Lacks id key

theorem Walked.zero (store : Store) (start : ObjectId) (key : String) :
    store.Walked start key [] 0 start where
  here := rfl
  seen := by simp
  lacking := by intro fewer lt; omega

variable {visited : List ObjectId} {steps : Nat} {current : ObjectId}

theorem Walked.lacking_succ (h : store.Walked start key visited steps current)
    (lacks : store.Lacks current key) :
    ∀ fewer < steps + 1, ∀ id, store.ancestor? start fewer = some id → store.Lacks id key := by
  intro fewer lt id reached
  rcases Nat.lt_succ_iff_lt_or_eq.mp lt with before | rfl
  · exact h.lacking fewer before id reached
  · rw [h.here, Option.some.injEq] at reached
    exact reached ▸ lacks

theorem Walked.step (h : store.Walked start key visited steps current)
    (lacks : store.Lacks current key) {next : ObjectId}
    (up : (store.object current).prototype = some next) :
    store.Walked start key (current :: visited) (steps + 1) next where
  here := by rw [ancestor?_succ h.here, up]
  seen := by
    intro id mem
    rcases List.mem_cons.mp mem with rfl | old
    · exact ⟨steps, by omega, h.here⟩
    · obtain ⟨fewer, lt, reached⟩ := h.seen id old
      exact ⟨fewer, by omega, reached⟩
  lacking := h.lacking_succ lacks

/-- Where the walk comes back to an object it has visited, it has seen the whole sequence. -/
theorem Walked.lacking_of_revisit (h : store.Walked start key visited steps current)
    (revisit : current ∈ visited) (any : Nat) (id : ObjectId)
    (reached : store.ancestor? start any = some id) : store.Lacks id key := by
  obtain ⟨first, lt, same⟩ := h.seen current revisit
  obtain ⟨earlier, before, again⟩ :=
    ancestor?_mem_of_revisit lt (h.here.trans same.symm) any
  exact h.lacking earlier before id (again ▸ reached)

/-- Where the walk comes to an object without a prototype, it has seen the whole sequence. -/
theorem Walked.lacking_of_end (h : store.Walked start key visited steps current)
    (lacks : store.Lacks current key) (top : (store.object current).prototype = none) (any : Nat)
    (id : ObjectId) (reached : store.ancestor? start any = some id) : store.Lacks id key := by
  have ended : store.ancestor? start (steps + 1) = none := by rw [ancestor?_succ h.here, top]
  have before : any < steps + 1 := by
    refine Nat.lt_of_not_le fun beyond => ?_
    rw [ancestor?_eq_none_of_le ended beyond] at reached
    exact nomatch reached
  exact h.lacking_succ lacks any before id reached

/-- The rest of a walk finds the first owner of the whole sequence, if there is one. -/
theorem lookupFrom_of_walked (h : store.Walked start key visited steps current) :
    (∀ found, store.lookupFrom key visited current = some found → store.FirstOwner start key found)
      ∧ (store.lookupFrom key visited current = none →
          ∀ any id, store.ancestor? start any = some id → store.Lacks id key) := by
  -- The measure of the walk is that of the induction; `Walked` is what each step hands on.
  fun_induction store.lookupFrom key visited current generalizing steps with
  | case1 visited current new value owns =>
    refine ⟨fun found same => ?_, nofun⟩
    obtain rfl := Option.some.inj same
    exact ⟨steps, h.here, owns, h.lacking⟩
  | case2 visited current new lacks next up ih => exact ih (h.step lacks up)
  | case3 visited current new lacks top =>
    exact ⟨nofun, fun _ => h.lacking_of_end lacks top⟩
  | case4 visited current revisit =>
    exact ⟨nofun, fun _ => h.lacking_of_revisit (by simpa using revisit)⟩

/-- **Lookups.** On every graph of prototypes, a lookup finds a value exactly if it is the one of
    the first owner of the key, and finds nothing exactly if no object of the sequence owns the
    key. -/
theorem lookup_finds_first_owner (store : Store) (start : ObjectId) (key : String) :
    (∀ found, store.lookup start key = some found ↔ store.FirstOwner start key found)
      ∧ (store.lookup start key = none ↔
          ∀ steps id, store.ancestor? start steps = some id → store.Lacks id key) := by
  obtain ⟨sound, complete⟩ := lookupFrom_of_walked (Walked.zero store start key)
  constructor
  · intro found
    refine ⟨sound found, fun first => ?_⟩
    have ⟨steps, reached, owns, _⟩ := first
    cases result : store.lookup start key with
    | some other => rw [FirstOwner.unique (sound other result) first]
    | none => exact absurd (complete result steps _ reached) (by rw [Lacks, owns]; simp)
  · refine ⟨complete, fun lacking => ?_⟩
    cases result : store.lookup start key with
    | none => rfl
    | some found =>
      obtain ⟨steps, reached, owns, _⟩ := sound found result
      exact absurd (lacking steps _ reached) (by rw [Lacks, owns]; simp)

end Store

end SlotTalk
