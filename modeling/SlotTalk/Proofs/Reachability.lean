import SlotTalk.Proofs.ConfinedScript

namespace SlotTalk

/-!
# Authority

An evaluation in a scope can change what the scope reaches, what the engine itself reaches, and
what it makes; it cannot change anything else.

* `Store.Points`, `Store.Reachable` — what a cell refers to, and what can be reached from a scope
  and from the roots of the engine.
* `Store.authority` — the policy of holding only what can be reached, or is new.
* `authority_is_confined` — the cells that cannot be reached are unchanged.
-/

/-- The value is a reference to the cell. -/
inductive Value.Names : Value → {cell : Cell} → Ref cell → Prop where
  | object (id : ObjectId) : Names (.object id) id
  | list (id : ListId) : Names (.list id) id
  | map (id : MapId) : Names (.map id) id
  | call (id : CallId) : Names (.call id) id
  | locals (id : LocalsId) : Names (.locals id) id
  | coroutine (id : CoroutineId) : Names (.coroutine id) id
  | function (id : FunctionId) : Names (.function id) id
  | block (id : BlockId) : Names (.block id) id
  | method (id : MethodId) : Names (.method id) id

namespace Store

variable (store : Store)

/-- The first cell refers to the second. -/
inductive Points : {cell next : Cell} → Ref cell → Ref next → Prop where
  | prototype {id next : ObjectId} (above : (store.object id).prototype = some next) :
    Points id next
  | slot {id : ObjectId} {entry : Text × Value} {cell : Cell} {next : Ref cell}
    (mem : entry ∈ (store.object id).slots.entries) (names : entry.2.Names next) : Points id next
  | item {id : ListId} {value : Value} {cell : Cell} {next : Ref cell}
    (mem : value ∈ store.list id) (names : value.Names next) : Points id next
  | entry {id : MapId} {entry : Text × Value} {cell : Cell} {next : Ref cell}
    (mem : entry ∈ (store.map id).entries) (names : entry.2.Names next) : Points id next
  | var {id : FrameId} {entry : Text × Value} {cell : Cell} {next : Ref cell}
    (mem : entry ∈ (store.frame id).vars.entries) (names : entry.2.Names next) : Points id next
  | context {id : FrameId} {cell : Cell} {next : Ref cell}
    (names : (store.frame id).context.Names next) : Points id next
  | outer {id next : FrameId} (above : (store.frame id).outer = some next) : Points id next
  | self {id : LocalsId} {cell : Cell} {next : Ref cell}
    (names : (store.scope id).self.Names next) : Points id next
  | frame (id : LocalsId) : Points id (store.scope id).frame
  | sender (id : CallId) : Points id (store.call id).sender
  | target {id : CallId} {cell : Cell} {next : Ref cell}
    (names : (store.call id).target.Names next) : Points id next
  | slotContext {id : CallId} {cell : Cell} {next : Ref cell}
    (names : (store.call id).slotContext.Names next) : Points id next
  | activated {id : CallId} {cell : Cell} {next : Ref cell}
    (names : (store.call id).activated.toValue.Names next) : Points id next
  | coroutine (id : CallId) : Points id (store.call id).coroutine
  | home (id : BlockId) : Points id (store.block id).sender
  | enclosing {id : MethodId} {next : FrameId} (above : (store.method id).outer = some next) :
    Points id next

/-- The cell can be reached from the scope or from the roots of the engine: the shared prototypes,
    `Protos`, the lobby, the scope of the top level and the thread of execution. -/
inductive Reachable (scope : LocalsId) : {cell : Cell} → Ref cell → Prop where
  | scope : Reachable scope scope
  | shared (prototype : Prototype) : Reachable scope prototype.id
  | protos : Reachable scope protosObject
  | lobby : Reachable scope lobbyObject
  | topScope : Reachable scope World.moduleLocals
  | thread : Reachable scope World.coroutine
  | step {cell next : Cell} {id : Ref cell} {other : Ref next} (reached : Reachable scope id)
    (points : store.Points id other) : Reachable scope other

/-- Only what can be reached may be held, and what is new. -/
def authority (scope : LocalsId) : Policy :=
  { Policy.everything with
    ref := fun {cell} id => store.Reachable scope id ∨ store.count cell ≤ id.index
    lobby := .inl .lobby
    shared := fun prototype => .inl (.shared prototype)
    topScope := .inl .topScope
    thread := .inl .thread }

variable {store} {scope : LocalsId}

/-- What a cell that can be reached refers to may be held. -/
theorem holds_of_names {value : Value}
    (reached : ∀ {cell : Cell} {id : Ref cell}, value.Names id → store.Reachable scope id) :
    (store.authority scope).Holds value := by
  cases value with
  | object | list | map | call | locals | coroutine | function | block | method =>
    exact .inl (reached (by constructor))
  | _ => trivial

/-- The store itself is closed: what can be reached refers to what can be reached, and a reference
    to no cell is read as an empty one, or as the scope of the top level. -/
theorem authority_closed (store : Store) (scope : LocalsId) :
    (store.authority scope).Closed store where
  fresh := .inr
  object := by
    rintro id (reached | beyond)
    · exact ⟨fun next above => .inl (.step reached (.prototype above)),
        fun entry mem => holds_of_names fun names => .step reached (.slot mem names)⟩
    · rw [object, getD_of_size_le _ beyond]
      exact ⟨Policy.links_none, .empty⟩
  list := by
    rintro id (reached | beyond)
    · exact fun item mem => holds_of_names fun names => .step reached (.item mem names)
    · rw [list, getD_of_size_le _ beyond]
      exact Policy.holdsItems_empty
  map := by
    rintro id (reached | beyond)
    · exact fun entry mem => holds_of_names fun names => .step reached (.entry mem names)
    · rw [map, getD_of_size_le _ beyond]
      exact .empty
  frame := by
    rintro id (reached | beyond)
    · exact ⟨holds_of_names fun names => .step reached (.context names),
        fun entry mem => holds_of_names fun names => .step reached (.var mem names),
        fun next above => .inl (.step reached (.outer above))⟩
    · rw [frame, getD_of_size_le _ beyond]
      exact ⟨trivial, .empty, Policy.links_none⟩
  scope := by
    have reads : ∀ {id : LocalsId}, store.Reachable scope id →
        (store.authority scope).HoldsScope (store.scope id) := fun {id} reached =>
      ⟨holds_of_names fun names => .step reached (.self names), .inl (.step reached (.frame id))⟩
    rintro id (reached | beyond)
    · exact reads reached
    · rw [scope_of_size_le _ beyond]
      exact reads .topScope
  call := by
    rintro id (reached | beyond)
    · exact ⟨.inl (.step reached (.sender id)),
        holds_of_names fun names => .step reached (.target names),
        holds_of_names fun names => .step reached (.slotContext names),
        holds_of_names fun names => .step reached (.activated names),
        .inl (.step reached (.coroutine id))⟩
    · rw [call, getD_of_size_le _ beyond]
      exact ⟨.inl .topScope, trivial, trivial, trivial, .inl .thread⟩
  function := fun _ => ⟨trivial, .inl trivial⟩
  block := by
    rintro id (reached | beyond)
    · exact ⟨⟨trivial, .inl trivial⟩, trivial, .inl (.step reached (.home id))⟩
    · rw [block, getD_of_size_le _ beyond]
      exact ⟨⟨trivial, .inl trivial⟩, trivial, .inl .topScope⟩
  method := by
    rintro id (reached | beyond)
    · exact ⟨⟨trivial, .inl trivial⟩, trivial,
        fun next above => .inl (.step reached (.enclosing above))⟩
    · rw [method, getD_of_size_le _ beyond]
      exact ⟨⟨trivial, .inl trivial⟩, trivial, Policy.links_none⟩

end Store

/-- **Authority.** However an evaluation ends, the objects, lists, maps and frames that existed when
    it began, and could not be reached then from its scope or from the roots of the engine, are what
    they were. -/
theorem authority_is_confined {node : Node} {scope : LocalsId} {before after : Engine}
    {outcome : Except Unwind Value} (ends : Finishes (.eval node scope) before outcome after) :
    (∀ id : ObjectId, id.index < before.store.objects.size → ¬ before.store.Reachable scope id →
        after.store.object id = before.store.object id)
      ∧ (∀ id : ListId, id.index < before.store.lists.size → ¬ before.store.Reachable scope id →
        after.store.list id = before.store.list id)
      ∧ (∀ id : MapId, id.index < before.store.maps.size → ¬ before.store.Reachable scope id →
        after.store.map id = before.store.map id)
      ∧ ∀ id : FrameId, id.index < before.store.frames.size → ¬ before.store.Reachable scope id →
        after.store.frame id = before.store.frame id := by
  have closed := before.store.authority_closed scope
  have held : Job.Held (before.store.authority scope) (.eval node scope) := ⟨trivial, .inl .scope⟩
  obtain ⟨-, -, step⟩ := (confinement_kept _ _).finishes ends ⟨held, .refl closed⟩
  -- A cell may be held if it is new or reached, and these are neither.
  have out : ∀ {cell : Cell} {id : Ref cell}, id.index < before.store.count cell →
      ¬ before.store.Reachable scope id → ¬ (before.store.authority scope).ref id :=
    fun old unreached ref => ref.elim unreached (Nat.not_le_of_lt old)
  exact ⟨fun id old unreached => step.spares.object (out old unreached),
    fun id old unreached => step.spares.list (out old unreached),
    fun id old unreached => step.spares.map (out old unreached),
    fun id old unreached => step.spares.frame (out old unreached)⟩

/-- A lobby without slots, and a list that nothing refers to. -/
def hiddenList : Engine where
  config := {}
  store :=
    { objects := #[{}, {}, {}]
      lists := #[#[.int 1]]
      frames := #[{}]
      locals := #[{ self := .object lobbyObject, frame := World.moduleFrame }] }

theorem hiddenList_unreachable :
    ¬ hiddenList.store.Reachable World.moduleLocals (⟨0⟩ : ListId) := by
  have object : ∀ id, hiddenList.store.object id = {} := by
    rintro ⟨_ | _ | _ | _⟩ <;> rfl
  have frame : ∀ id, hiddenList.store.frame id = {} := by
    rintro ⟨_ | _⟩ <;> rfl
  have top : ∀ id, hiddenList.store.scope id
      = { self := .object lobbyObject, frame := World.moduleFrame } := by
    rintro ⟨_ | _⟩ <;> rfl
  have noList : ∀ {cell : Cell} {id : Ref cell},
      hiddenList.store.Reachable World.moduleLocals id → cell ≠ .list := by
    intro cell id reached
    -- No cell on the way refers to anything but the lobby and cells that hold nothing.
    induction reached with
    | step reached points ih =>
      cases points with
      | slot mem names =>
        rw [object] at mem
        exact nomatch mem
      | item mem names => exact absurd rfl ih
      | entry mem names => exact nomatch mem
      | var mem names =>
        rw [frame] at mem
        exact nomatch mem
      | context names =>
        rw [frame] at names
        exact nomatch names
      | self names =>
        rw [top] at names
        cases names
        exact nofun
      | target names | slotContext names | activated names => exact nomatch names
      | _ => exact nofun
    | _ => exact nofun
  exact fun reached => noList reached rfl

theorem hidden_list_survives :
    Finishes (.eval (.define none "x" (.integer 5)) World.moduleLocals) hiddenList (.ok (.int 5))
        { hiddenList with store := hiddenList.store.putSlot lobbyObject "x" (.int 5) }
      ∧ (hiddenList.store.putSlot lobbyObject "x" (.int 5)).list ⟨0⟩
        = hiddenList.store.list ⟨0⟩ := by
  have ends : Finishes (.eval (.define none "x" (.integer 5)) World.moduleLocals) hiddenList
      (.ok (.int 5))
      { hiddenList with store := hiddenList.store.putSlot lobbyObject "x" (.int 5) } := ⟨2, rfl⟩
  exact ⟨ends, (authority_is_confined ends).2.1 ⟨0⟩ (by decide) hiddenList_unreachable⟩

end SlotTalk
