import SlotTalk.Host
import SlotTalk.Proofs.NodeShape

namespace SlotTalk

/-!
# The depth

The depth of a state is the number of activations that are running.  An evaluation leaves it as it
was, however it ends, and never takes it beyond the limit.

* `Shape.Level`, `Shape.Level.keeps` — the scripts that do not touch the depth.
* `depth_of_finishes`, `depth_of_run` — the depth at the end of a job, and of a whole program.
* `depthContract`, `depth_kept` — the contract on the depth, and that all jobs keep to it.
-/

/-! ### What does not touch the depth -/

/-- Scripts of the shape do not touch the depth, enter nothing and raise no errors but fresh
    ones. -/
structure Shape.Level (shape : Shape) : Prop where
  acts : ∀ {β : Type} {action : Action β}, shape.acts action → action.Level
  asks : ∀ job, shape.asks job → job.entered = []
  raises : ∀ report, ¬ shape.raises (.failed report)

theorem Node.shape_level (node : Node) (scope : LocalsId) : (node.shape scope).Level where
  acts := by
    intro β action acts
    cases acts with
    | ordinary h => exact h.routine.level
    | readCall h => exact fun before => ⟨rfl, rfl, .ok _⟩
  asks := by
    intro job asked
    cases asked <;> rfl
  raises := fun report raised => nomatch raised

theorem Activation.shape_level : Activation.shape.Level where
  acts := fun acts => acts.level
  asks := by
    intro job asked
    cases job with
    | eval | activate => rfl
    | enter other => exact asked.elim
  raises := fun _ raised => raised.elim

/-- A script that does not touch the depth itself keeps to a contract that settings and depth decide
    about, if the jobs leave these as they were. -/
theorem Shape.Level.keeps {contract : Contract} {shape : Shape} (level : shape.Level) {α : Type}
    {x : Script α} (fits : x.Fits shape) {before : Engine}
    (always : ∀ engine : Engine, engine.config = before.config → engine.depth = before.depth →
      contract.always engine)
    (allows : ∀ {β : Type} {action : Action β} (engine : Engine), action.Level →
      contract.allows action engine)
    (asks : ∀ (job : Job) (engine : Engine), engine.config = before.config →
      engine.depth = before.depth → contract.requires job engine
        ∧ ∀ outcome after, contract.ensures job engine outcome after →
          after.config = engine.config ∧ after.depth = engine.depth) :
    x.Keeps contract before fun _ after =>
      after.config = before.config ∧ after.depth = before.depth := by
  refine fits.keeps (fun engine => engine.config = before.config ∧ engine.depth = before.depth)
    ⟨rfl, rfl⟩ (fun engine inv => always engine inv.1 inv.2) ?acts ?asks (fun _ _ inv => inv)
    (fun _ _ inv => inv) (fun _ _ _ inv => inv) ?passes
  case acts =>
    intro β action engine acts inv
    obtain ⟨depth, settings, -⟩ := level.acts acts engine
    exact ⟨allows engine (level.acts acts), settings.trans inv.1, depth.trans inv.2⟩
  case asks =>
    intro job engine _ inv
    obtain ⟨required, left⟩ := asks job engine inv.1 inv.2
    refine ⟨required, fun outcome after ensured => ?_⟩
    obtain ⟨settings, depth⟩ := left outcome after ensured
    exact ⟨settings.trans inv.1, depth.trans inv.2⟩
  case passes =>
    intro job _ engine _ _ _ inv ensured
    obtain ⟨settings, depth⟩ := (asks job engine inv.1 inv.2).2 _ _ ensured
    exact ⟨settings.trans inv.1, depth.trans inv.2⟩

/-! ### The end of an evaluation -/

/-- Settings and depth are in the end what they were. -/
def levelContract : Contract where
  always _ := True
  allows _ _ := True
  requires _ _ := True
  ensures _ before _ after := after.config = before.config ∧ after.depth = before.depth

theorem level_kept_of_fits {shape : Shape} (level : shape.Level) {x : Script Value}
    (fits : x.Fits shape) (before : Engine) :
    x.Keeps levelContract before fun _ after =>
      after.config = before.config ∧ after.depth = before.depth :=
  level.keeps fits (fun _ _ _ => trivial) (fun _ _ => trivial) fun _ _ _ _ =>
    ⟨trivial, fun _ _ ensured => ensured⟩

/-- What an activation adds to the depth it takes away again. -/
theorem level_kept : levelContract.Valid := by
  intro passes job before _
  cases job with
  | eval node scope =>
    exact level_kept_of_fits (node.shape_level scope) (evalNode_fits passes scope node) before
  | enter activation => exact level_kept_of_fits Activation.shape_level activation.enter_fits before
  | activate activation =>
    refine activation.run_keeps trivial trivial trivial (fun _ _ => ⟨rfl, rfl⟩) fun _ => ?_
    refine ⟨trivial, trivial, fun outcome after ensured => ?_⟩
    obtain ⟨settings, depth⟩ := ensured
    refine ⟨trivial, trivial, trivial, settings, ?_⟩
    rw [Engine.depth_shallower, depth, Engine.depth_deeper, Nat.add_sub_cancel]

theorem depth_of_finishes {job : Job} {before after : Engine} {outcome : Except Unwind Value}
    (ends : Finishes job before outcome after) :
    after.config = before.config ∧ after.depth = before.depth :=
  level_kept.finishes ends trivial

/-- A whole program leaves the depth as it was. -/
theorem depth_of_run {before after : Engine} {fuel : Nat} {program : Node}
    {result : Except ErrorReport Value} (ends : before.run fuel program = some (result, after)) :
    after.config = before.config ∧ after.depth = before.depth := by
  rw [Engine.run, Option.map_eq_some_iff] at ends
  obtain ⟨⟨outcome, engine⟩, evaluated, same⟩ := ends
  obtain ⟨-, rfl⟩ := Prod.mk.inj same
  have finished : Finishes (.eval (before.load program).1 World.moduleLocals)
      (before.load program).2 outcome engine := ⟨fuel, evaluated⟩
  have kept := depth_of_finishes finished
  exact kept

/-! ### The contract on the depth -/

/-- Under the given settings, the depth keeps to its limit and is left as it was, and it is only at
    the limit that activations are nested too deep. -/
def depthContract (config : Config) : Contract where
  always engine := engine.config = config ∧ engine.depth ≤ config.maxDepth
  allows action before := ∀ limit after, action.on before = (.error (.stackOverflow limit), after) →
    limit = config.maxDepth ∧ before.depth = config.maxDepth
  requires _ before := before.config = config ∧ before.depth ≤ config.maxDepth
  ensures _ before _ after := after.config = config ∧ after.depth = before.depth

variable {config : Config}

theorem Action.Level.allowed {β : Type} {action : Action β} (h : action.Level)
    (before : Engine) : (depthContract config).allows action before := by
  intro limit after failed
  obtain ⟨-, -, shallow⟩ := h before
  rw [failed] at shallow
  exact absurd rfl (shallow _ rfl limit)

/-- A script that does not touch the depth itself keeps to the contract. -/
theorem depth_kept_of_fits {α : Type} {shape : Shape} (level : shape.Level) {x : Script α}
    (fits : x.Fits shape) {before : Engine} (settings : before.config = config)
    (room : before.depth ≤ config.maxDepth) :
    x.Keeps (depthContract config) before fun _ after =>
      after.config = config ∧ after.depth = before.depth := by
  subst settings
  refine level.keeps fits (fun engine settings depth => ⟨settings, depth ▸ room⟩)
    (fun engine quiet => quiet.allowed engine) fun job engine settings depth => ?_
  refine ⟨⟨settings, depth ▸ room⟩, fun _ _ ensured => ?_⟩
  exact ⟨ensured.1.trans settings.symm, ensured.2⟩

/-- The scripts of all jobs keep to the contract: what an activation adds to the depth it takes away
    again. -/
theorem depth_kept (config : Config) : (depthContract config).Valid := by
  intro passes job before required
  obtain ⟨settings, room⟩ := required
  cases job with
  | eval node scope =>
    have fits := evalNode_fits passes scope node
    exact depth_kept_of_fits (node.shape_level scope) fits settings room
  | enter activation =>
    exact depth_kept_of_fits Activation.shape_level activation.enter_fits settings room
  | activate activation =>
    -- Here alone the depth changes, and the code runs one deeper.
    refine activation.run_keeps ⟨settings, room⟩ ?checks ?descends ?refused ?entered
    case checks => exact (checkArgumentCount_ordinary ..).routine.level.allowed before
    case descends =>
      intro limit after failed
      obtain ⟨rfl, full, same⟩ := Activation.descend_error failed
      obtain rfl := RuntimeError.stackOverflow.inj same
      rw [settings] at full ⊢
      exact ⟨rfl, by omega⟩
    case refused => exact fun _ _ => ⟨settings, rfl⟩
    case entered =>
      intro free
      have deeper : before.deeper.depth ≤ config.maxDepth := by
        rw [settings] at free
        exact free
      refine ⟨⟨settings, deeper⟩, ⟨settings, deeper⟩, fun outcome after ensured => ?_⟩
      obtain ⟨settings', depth⟩ := ensured
      have restored : after.shallower.depth = before.depth := by
        rw [Engine.depth_shallower, depth, Engine.depth_deeper, Nat.add_sub_cancel]
      have ascends : (depthContract config).allows Activation.ascend after :=
        fun _ last failed => absurd failed (Activation.ascend_ne_error after _ last)
      exact ⟨⟨settings', depth ▸ deeper⟩, ascends, ⟨settings', restored ▸ room⟩,
        settings', restored⟩

end SlotTalk
