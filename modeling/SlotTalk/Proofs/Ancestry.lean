import SlotTalk.Host
import SlotTalk.Primitive.Objects
import SlotTalk.Proofs.SlotUpdate

namespace SlotTalk

/-!
# Ancestry

An object stands above another one if the sequence of prototypes behind that one comes to it after
one step or more.  An object on a cycle stands above itself.

* `Store.Above` — the relation, told by the sequence alone.
* `ancestor?_add` — the sequence taken up at one of its members.
* `Store.Climbed` — what the walk knows that looks for a candidate; it tests the candidate before it
  looks whether it was there before.
* `hasPrototype_iff_above` — the walk decides the relation.
* `prototype_test_is_reachability` — what follows for chains, cycles, lookups and the built-in.
-/

namespace Store

variable {store : Store} {start candidate : ObjectId}

/-! ### The relation -/

/-- The candidate is met behind `start`, after one step or more. -/
def Above (store : Store) (candidate start : ObjectId) : Prop :=
  ∃ steps, 0 < steps ∧ store.ancestor? start steps = some candidate

/-- From one of its members on, the sequence is the one behind that member. -/
theorem ancestor?_add (first more : Nat) :
    store.ancestor? start (first + more)
      = (store.ancestor? start first).bind fun id => store.ancestor? id more := by
  induction more with
  | zero => simp [ancestor?]
  | succ more ih =>
    rw [← Nat.add_assoc, ancestor?, ih, Option.bind_assoc]
    rfl

/-- What stands above an object that stands above another one stands above that one too. -/
theorem Above.trans {a b c : ObjectId} (upper : store.Above c b) (lower : store.Above b a) :
    store.Above c a := by
  obtain ⟨more, -, atC⟩ := upper
  obtain ⟨first, positive, atB⟩ := lower
  refine ⟨first + more, by omega, ?_⟩
  rw [ancestor?_add, atB, Option.bind_some, atC]

/-- An object stands above itself exactly if the sequence behind it goes round and round. -/
theorem above_self_iff :
    store.Above start start ↔ ∃ period, 0 < period
      ∧ ∀ steps, store.ancestor? start (steps + period) = store.ancestor? start steps := by
  constructor
  · rintro ⟨period, positive, again⟩
    refine ⟨period, positive, fun steps => ?_⟩
    rw [Nat.add_comm, ancestor?_add, again, Option.bind_some]
  · rintro ⟨period, positive, again⟩
    have back := again 0
    rw [Nat.zero_add] at back
    exact ⟨period, positive, back⟩

/-! ### What the walk knows -/

/-- The walk has come `steps` steps from `start` to `current`, and one at least.  It has visited
    objects before `current` only, and none of them but perhaps `start` is the candidate. -/
structure Climbed (store : Store) (start candidate : ObjectId) (visited : List ObjectId)
    (steps : Nat) (current : ObjectId) : Prop where
  left : 0 < steps
  here : store.ancestor? start steps = some current
  seen : ∀ id ∈ visited, ∃ fewer < steps, store.ancestor? start fewer = some id
  missed : ∀ fewer, 0 < fewer → fewer < steps → store.ancestor? start fewer ≠ some candidate

variable {visited : List ObjectId} {steps : Nat} {current next : ObjectId}

theorem Climbed.first (up : (store.object start).prototype = some next) :
    store.Climbed start candidate [start] 1 next where
  left := Nat.one_pos
  here := by rw [ancestor?_succ rfl, up]
  seen := by
    intro id mem
    rw [List.mem_singleton] at mem
    subst mem
    exact ⟨0, Nat.one_pos, rfl⟩
  missed := by
    intro fewer positive lt
    omega

section Climbed

variable (climbed : store.Climbed start candidate visited steps current)
  (differs : current ≠ candidate)
include climbed differs

theorem Climbed.missed_succ :
    ∀ fewer, 0 < fewer → fewer < steps + 1 → store.ancestor? start fewer ≠ some candidate := by
  intro fewer positive lt
  rcases Nat.lt_succ_iff_lt_or_eq.mp lt with before | rfl
  · exact climbed.missed fewer positive before
  · rw [climbed.here]
    exact fun same => differs (Option.some.inj same)

theorem Climbed.step (up : (store.object current).prototype = some next) :
    store.Climbed start candidate (current :: visited) (steps + 1) next where
  left := Nat.succ_pos steps
  here := by rw [ancestor?_succ climbed.here, up]
  seen := by
    intro id mem
    rcases List.mem_cons.mp mem with rfl | old
    · exact ⟨steps, by omega, climbed.here⟩
    · obtain ⟨fewer, lt, reached⟩ := climbed.seen id old
      exact ⟨fewer, by omega, reached⟩
  missed := climbed.missed_succ differs

/-- Where the sequence ends, the candidate would have been met. -/
theorem Climbed.not_above_of_end (top : (store.object current).prototype = none) :
    ¬ store.Above candidate start := by
  rintro ⟨any, positive, reached⟩
  have ended : store.ancestor? start (steps + 1) = none := by
    rw [ancestor?_succ climbed.here, top]
  by_cases before : any < steps + 1
  · exact climbed.missed_succ differs any positive before reached
  · rw [ancestor?_eq_none_of_le ended (by omega)] at reached
    exact nomatch reached

/-- Where the walk comes to an object again, the candidate would have been met.  It may be the
    start that is visited again, and the start was never compared with the candidate; but then the
    present object is the start, which is not the candidate. -/
theorem Climbed.not_above_of_revisit (revisit : current ∈ visited) :
    ¬ store.Above candidate start := by
  rintro ⟨any, positive, reached⟩
  obtain ⟨first, lt, same⟩ := climbed.seen current revisit
  -- The candidate would stand one round earlier, and at last where the walk has been.
  induction any using Nat.strongRecOn with
  | ind any ih =>
    by_cases near : any < steps + 1
    · exact climbed.missed_succ differs any positive near reached
    · have round : store.ancestor? start (first + (any - steps)) = some candidate := by
        rw [ancestor?_add, same, ← climbed.here, ← ancestor?_add,
          Nat.add_sub_cancel' (by omega), reached]
      exact ih (first + (any - steps)) (by omega) (by omega) round

end Climbed

/-- The rest of a walk tells whether the candidate stands above the start. -/
theorem meetsFrom_of_climbed (climbed : store.Climbed start candidate visited steps current) :
    store.meetsFrom candidate visited current = true ↔ store.Above candidate start := by
  fun_induction store.meetsFrom candidate visited current generalizing steps with
  | case1 visited => exact ⟨fun _ => ⟨steps, climbed.left, climbed.here⟩, fun _ => rfl⟩
  | case2 visited current differs new next up ih => exact ih (climbed.step differs up)
  | case3 visited current differs new top =>
    exact ⟨nofun, fun above => absurd above (climbed.not_above_of_end differs top)⟩
  | case4 visited current differs revisit =>
    have again : current ∈ visited := by simpa using revisit
    exact ⟨nofun, fun above => absurd above (climbed.not_above_of_revisit differs again)⟩

/-- **Ancestry.** The walk along the prototypes meets an object exactly if that stands above the
    start, on every graph of prototypes. -/
theorem hasPrototype_iff_above :
    store.hasPrototype start candidate = true ↔ store.Above candidate start := by
  rw [hasPrototype]
  split
  next next up => exact meetsFrom_of_climbed (.first up)
  next top =>
    refine ⟨nofun, ?_⟩
    rintro ⟨steps, positive, reached⟩
    have ended : store.ancestor? start 1 = none := by rw [ancestor?_succ rfl, top]
    rw [ancestor?_eq_none_of_le ended (by omega)] at reached
    exact nomatch reached

/-- What a lookup finds is on the start itself or on an object above it. -/
theorem holder_above {key : String} {found : Found}
    (finds : store.lookup start key = some found) :
    found.holder = start ∨ store.Above found.holder start := by
  obtain ⟨steps, reached, -, -⟩ := lookup_eq_some_iff.mp finds
  cases steps with
  | zero => exact .inl (Option.some.inj reached).symm
  | succ steps => exact .inr ⟨steps + 1, Nat.succ_pos steps, reached⟩

end Store

/-! ### The built-in -/

/-- A value that is no object delegates to the shared prototype of its kind. -/
theorem Value.delegate_of_no_object {value : Value} (scalar : value.object? = none) :
    value.delegate = (Prototype.ofType value.type).id := by
  cases value with
  | object id => exact nomatch scalar
  | _ => rfl

theorem ObjectPrimitive.isAbove_of_no_object {store : Store} {candidate : ObjectId} {value : Value}
    (scalar : value.object? = none) :
    isAbove store candidate value
      = (value.delegate == candidate || store.hasPrototype value.delegate candidate) := by
  cases value with
  | object id => exact nomatch scalar
  | _ => rfl

theorem ObjectPrimitive.hasProto_on (use : Invocation) {candidate : ObjectId} (before : Engine)
    (given : use.input 0 = .object candidate) :
    (ObjectPrimitive.run use .hasProto).on before
      = (.ok (.bool (isAbove before.store candidate use.receiver)), before) := by
  show (do
    let candidate ← (use.input 0).expectObject
    return .bool (isAbove (← Action.store) candidate use.receiver) : Action Value).on before = _
  rw [given]
  rfl

/-- **Ancestry is reachability.** On every graph of prototypes, cycles included: an object is a
    prototype of another one exactly if it is met behind that one after one step or more, so that an
    object is a prototype of itself exactly on a cycle, and prototypes of prototypes are prototypes.
    What a lookup finds is held by the start or by a prototype of it.  For a value that is no
    object, the built-in answers whether the candidate is the shared prototype of its kind or is met
    behind that. -/
theorem prototype_test_is_reachability (engine : Engine) :
    (∀ start candidate, engine.store.hasPrototype start candidate = true
      ↔ ∃ steps, 0 < steps ∧ engine.store.ancestor? start steps = some candidate)
      ∧ (∀ start, engine.store.hasPrototype start start = true
        ↔ ∃ period, 0 < period ∧ ∀ steps,
            engine.store.ancestor? start (steps + period) = engine.store.ancestor? start steps)
      ∧ (∀ a b c, engine.store.hasPrototype a b = true → engine.store.hasPrototype b c = true →
        engine.store.hasPrototype a c = true)
      ∧ (∀ start key found, engine.store.lookup start key = some found →
        found.holder = start ∨ engine.store.hasPrototype start found.holder = true)
      ∧ ∀ (use : Invocation) (candidate : ObjectId),
        use.receiver.object? = none → use.input 0 = .object candidate →
        ∃ answer, (ObjectPrimitive.run use .hasProto).on engine = (.ok (.bool answer), engine)
          ∧ (answer = true ↔ ∃ steps,
              engine.store.ancestor? (Prototype.ofType use.receiver.type).id steps
                = some candidate) := by
  refine ⟨fun start candidate => Store.hasPrototype_iff_above, fun start => ?_, ?_, ?_, ?_⟩
  · rw [Store.hasPrototype_iff_above, Store.above_self_iff]
  · intro a b c lower upper
    rw [Store.hasPrototype_iff_above] at lower upper ⊢
    exact upper.trans lower
  · intro start key found finds
    rw [Store.hasPrototype_iff_above]
    exact Store.holder_above finds
  · intro use candidate scalar given
    refine ⟨_, ObjectPrimitive.hasProto_on use engine given, ?_⟩
    rw [ObjectPrimitive.isAbove_of_no_object scalar, Value.delegate_of_no_object scalar,
      Bool.or_eq_true, beq_iff_eq, Store.hasPrototype_iff_above]
    constructor
    · rintro (rfl | ⟨steps, -, reached⟩)
      · exact ⟨0, rfl⟩
      · exact ⟨steps, reached⟩
    · rintro ⟨steps, reached⟩
      cases steps with
      | zero => exact .inl (Option.some.inj reached)
      | succ steps => exact .inr ⟨steps + 1, Nat.succ_pos steps, reached⟩

/-- In a new engine `Object` stands above itself, since it delegates to the lobby, the lobby to
    `Protos` and that to `Object`; and so the lobby stands above every number. -/
theorem object_is_its_own_ancestor :
    (Engine.new {}).store.hasPrototype objectPrototype objectPrototype = true
      ∧ ∃ answer, (ObjectPrimitive.run ⟨.int 1, [.object lobbyObject], ⟨"hasProto", 1, none⟩⟩
          .hasProto).on (Engine.new {}) = (.ok (.bool answer), Engine.new {}) ∧ answer = true := by
  obtain ⟨reaches, -, chains, -, answers⟩ := prototype_test_is_reachability (Engine.new {})
  have above : (Engine.new {}).store.hasPrototype objectPrototype lobbyObject = true :=
    (reaches _ _).mpr ⟨1, Nat.one_pos, rfl⟩
  have back : (Engine.new {}).store.hasPrototype lobbyObject objectPrototype = true :=
    (reaches _ _).mpr ⟨2, Nat.two_pos, rfl⟩
  refine ⟨chains _ _ _ above back, ?_⟩
  obtain ⟨answer, answered, tells⟩ :=
    answers ⟨.int 1, [.object lobbyObject], ⟨"hasProto", 1, none⟩⟩ lobbyObject rfl rfl
  exact ⟨answer, answered, tells.mpr ⟨2, rfl⟩⟩

end SlotTalk
