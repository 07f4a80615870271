import SlotTalk.HostView
import SlotTalk.Primitive.Plain
import SlotTalk.Proofs.TableHistory
import SlotTalk.Proofs.VariableAccess

namespace SlotTalk

/-!
# The history of an object and of a map

The slots of an object and the entries of a map are tables, and there are many ways to write one of
them.  Each of these ways is one change to the table, so the table keeps its history however the
ways are mixed, and whatever else happens in between.

* `Keeper` — an object or a map, with the table that it keeps.
* `Keeper.Edits` — the ways to change the table, each with the change that it is.
* `Keeper.Edits.store` — what one of them does to the store: that change, and nothing else.
* `Keeper.Changes` — many changes, with anything in between that leaves the table alone.
* `Keeper.Answers` — what the built-ins answer that look into the table.
* `tables_keep_history` — the table and the answers after any number of changes.
-/

/-- What keeps a table: an object its slots, a map its entries. -/
inductive Keeper where
  | object (id : ObjectId)
  | map (id : MapId)

namespace Keeper

/-- The keeper as a value. -/
def value : Keeper → Value
  | object id => .object id
  | map id => .map id

/-- The store has such a cell. -/
def Exists (store : Store) : Keeper → Prop
  | object id => id.index < store.objects.size
  | map id => id.index < store.maps.size

/-- The table that is kept. -/
def table (store : Store) : Keeper → Table Value
  | object id => (store.object id).slots
  | map id => store.map id

/-- Change the table. -/
def modify (store : Store) (change : Table Value → Table Value) : Keeper → Store
  | object id => store.modifyObject id fun object => { object with slots := change object.slots }
  | map id => store.modifyMap id change

variable {keeper : Keeper} {store : Store} {change : Table Value → Table Value}

theorem exists_modify : keeper.Exists (keeper.modify store change) ↔ keeper.Exists store := by
  cases keeper with
  | object id =>
    show id.index < (store.objects.modify id.index _).size ↔ id.index < store.objects.size
    rw [Array.size_modify]
  | map id =>
    show id.index < (store.maps.modify id.index _).size ↔ id.index < store.maps.size
    rw [Array.size_modify]

theorem table_modify (keeperExists : keeper.Exists store) :
    keeper.table (keeper.modify store change) = change (keeper.table store) := by
  cases keeper with
  | object id =>
    rw [table, modify, Store.object_modifyObject, if_pos ⟨rfl, keeperExists⟩]
    rfl
  | map id =>
    rw [table, modify, Store.map_modifyMap, if_pos ⟨rfl, keeperExists⟩]
    rfl

/-- An array of cells with a cell changed twice is what it was if that cell is. -/
theorem modify_modify_eq_self {α : Type} {cells : Array α} {index : Nat} (empty : α)
    {first second : α → α}
    (restores : second (first (cells.getD index empty)) = cells.getD index empty) :
    (cells.modify index first).modify index second = cells := by
  refine Array.ext (by simp) fun place inside inside' => ?_
  rw [Array.getElem_modify, Array.getElem_modify]
  by_cases same : index = place
  · subst same
    rw [Array.getD_eq_getD_getElem?, Array.getElem?_eq_getElem inside', Option.getD_some]
      at restores
    simp only [↓reduceIte]
    exact restores
  · simp only [same, ↓reduceIte]

/-- Two changes that restore the table restore the store. -/
theorem modify_modify_of_restores {first second : Table Value → Table Value}
    (restores : second (first (keeper.table store)) = keeper.table store) :
    keeper.modify (keeper.modify store first) second = store := by
  cases keeper with
  | object id =>
    have same : ({ store.object id with slots := second (first (store.object id).slots) } : Object)
        = store.object id := congrArg (Object.mk (store.object id).prototype) restores
    have cells : (store.objects.modify id.index fun object =>
        { object with slots := first object.slots }).modify id.index (fun object =>
          { object with slots := second object.slots }) = store.objects :=
      modify_modify_eq_self ({} : Object) same
    exact congrArg (fun objects => { store with objects }) cells
  | map id => exact congrArg (fun maps => { store with maps }) (modify_modify_eq_self {} restores)

end Keeper

/-! ### One change -/

/-- The use of a built-in asks the keeper for a key. -/
structure Keeper.Asks (keeper : Keeper) (key : Text) (use : Invocation) : Prop where
  receiver : use.receiver = keeper.value
  named : use.input 0 = .string key

/-- The ways to change a table, for programs and for hosts.  An update changes the table of the
    object on which it finds the name. -/
inductive Keeper.Edits : Keeper → Table.Edit Value → Engine → Engine → Prop
  /-- The built-in that creates slots. -/
  | setSlot {id : ObjectId} {key : Text} {use : Invocation} {before : Engine}
    (asks : (Keeper.object id).Asks key use) :
    Edits (.object id) (.write key (use.input 1)) before
      ((ObjectPrimitive.setSlot.run use).on before).2
  /-- A definition on an object. -/
  | defineOn {id : ObjectId} {key : Text} {value : Value} {before : Engine} :
    Edits (.object id) (.write key value) before ((defineOn (.object id) key value).on before).2
  /-- A definition at the top level. -/
  | defineVariable {id : ObjectId} {key : Text} {value : Value} {scope : LocalsId}
    {before : Engine} (module : before.store.isModule scope = true)
    (self : (before.store.scope scope).self = .object id) :
    Edits (.object id) (.write key value) before
      ((Action.defineVariable scope key value).on before).2
  /-- A host writes a slot, under a name that is a new text. -/
  | writeMember {id : ObjectId} {name : String} {value : Value} {before : Engine} :
    Edits (.object id) (.write ⟨name, .numbered before.nextIdentity⟩ value) before
      ((writeMember (.object id) name value).on before).2
  /-- The built-in that updates slots. -/
  | updateSlot {id : ObjectId} {key : Text} {old : Value} {use : Invocation} {before : Engine}
    (named : use.input 0 = .string key)
    (finds : before.store.lookupOn use.receiver key.content = some ⟨id, old⟩) :
    Edits (.object id) (.write (key.content : Text) (use.input 1)) before
      ((ObjectPrimitive.updateSlot.run use).on before).2
  /-- An update on a value. -/
  | updateOn {id : ObjectId} {name : String} {old value target : Value} {before : Engine}
    (slots : ∀ scope, target ≠ .locals scope)
    (finds : before.store.lookupOn target name = some ⟨id, old⟩) :
    Edits (.object id) (.write (name : Text) value) before
      ((updateOn target name value).on before).2
  /-- An update of a name that stands for a slot. -/
  | updateVariable {id : ObjectId} {name : String} {value : Value} {scope : LocalsId}
    {before : Engine} (stands : before.store.resolve scope name = some (.onObject id)) :
    Edits (.object id) (.write (name : Text) value) before
      ((Action.updateVariable scope name value).on before).2
  /-- A host overwrites a slot that there is. -/
  | replaceSlot {id : ObjectId} {name : String} {value : Value} {before : Engine}
    (owned : (before.store.object id).slots.contains name = true) :
    Edits (.object id) (.write (name : Text) value) before
      ((Action.replaceSlot id name value).on before).2
  /-- The built-in that removes slots. -/
  | removeSlot {id : ObjectId} {key : Text} {use : Invocation} {before : Engine}
    (asks : (Keeper.object id).Asks key use) :
    Edits (.object id) (.remove key.content) before
      ((ObjectPrimitive.removeSlot.run use).on before).2
  /-- A host removes a slot. -/
  | dropSlot {id : ObjectId} {name : String} {before : Engine} :
    Edits (.object id) (.remove name) before ((Action.removeSlot id name).on before).2
  /-- The built-in that writes entries. -/
  | atPut {id : MapId} {key : Text} {use : Invocation} {before : Engine}
    (asks : (Keeper.map id).Asks key use) :
    Edits (.map id) (.write key (use.input 1)) before ((MapPrimitive.atPut.run use).on before).2
  /-- The built-in that removes entries. -/
  | removeAt {id : MapId} {key : Text} {use : Invocation} {before : Engine}
    (asks : (Keeper.map id).Asks key use) :
    Edits (.map id) (.remove key.content) before ((MapPrimitive.removeAt.run use).on before).2

/-- An update on a value overwrites the slot that it finds. -/
theorem updateOn_of_finds {target : Value} {name : String} {found : Found} {before : Engine}
    (value : Value) (slots : ∀ scope, target ≠ .locals scope)
    (finds : before.store.lookupOn target name = some found) :
    (updateOn target name value).on before
      = (.ok (), { before with store := before.store.putSlot found.holder name value }) := by
  have updated : updateOn target name value = (do
      if ← Action.updateSlot target name value then return ()
      else throw (.undefinedName name none)) := by
    cases target with
    | locals scope => exact absurd rfl (slots scope)
    | _ => rfl
  rw [updated, Action.on_bind, updateSlot_on, finds]
  rfl

namespace Keeper

variable {keeper : Keeper} {before after : Engine}

/-- Each of the ways does its change to the table, and nothing else to the store. -/
theorem Edits.store {edit : Table.Edit Value} (edits : keeper.Edits edit before after) :
    after.store = keeper.modify before.store edit.apply := by
  cases edits with
  | setSlot asks =>
    rw [ObjectPrimitive.run, asks.named, asks.receiver]
    rfl
  | defineOn => rfl
  | defineVariable module self => rw [Store.defineVariable_top _ _ module self]; rfl
  | writeMember => rfl
  | updateSlot named finds =>
    rw [ObjectPrimitive.run, named]
    show (((Action.updateSlot _ _ _ >>= _ : Action Value)).on before).2.store = _
    rw [Action.on_bind, updateSlot_on, finds]
    rfl
  | updateOn slots finds =>
    rw [updateOn_of_finds _ slots finds]
    rfl
  | updateVariable stands => rw [Store.updateVariable_of_resolve _ stands]; rfl
  | replaceSlot owned =>
    rw [Action.replaceSlot, Action.on_store_bind, if_pos owned]
    rfl
  | removeSlot asks =>
    rw [ObjectPrimitive.run, asks.named, asks.receiver]
    rfl
  | dropSlot => rfl
  | atPut asks =>
    rw [MapPrimitive.run, asks.named, asks.receiver]
    rfl
  | removeAt asks =>
    rw [MapPrimitive.run, asks.named, asks.receiver]
    rfl

theorem Edits.table {edit : Table.Edit Value} (keeperExists : keeper.Exists before.store)
    (edits : keeper.Edits edit before after) :
    keeper.table after.store = edit.apply (keeper.table before.store) := by
  rw [edits.store, table_modify keeperExists]

/-! ### Many changes -/

/-- The changes that were made to the table in the order in which they were made.  In between,
    anything may have happened that left the table alone. -/
inductive Changes (keeper : Keeper) (before : Engine) : List (Table.Edit Value) → Engine → Prop
  | none : Changes keeper before [] before
  | edit {edits : List (Table.Edit Value)} {edit : Table.Edit Value} {middle after : Engine}
    (changes : Changes keeper before edits middle) (edits' : keeper.Edits edit middle after) :
    Changes keeper before (edits ++ [edit]) after
  | elsewhere {edits : List (Table.Edit Value)} {middle after : Engine}
    (changes : Changes keeper before edits middle)
    (still : keeper.Exists middle.store → keeper.Exists after.store)
    (same : keeper.table after.store = keeper.table middle.store) :
    Changes keeper before edits after

/-- The table has gone through the changes, one after the other. -/
theorem Changes.table {edits : List (Table.Edit Value)} (keeperExists : keeper.Exists before.store)
    (changes : keeper.Changes before edits after) :
    keeper.Exists after.store
      ∧ keeper.table after.store = (keeper.table before.store).edited edits := by
  induction changes with
  | none => exact ⟨keeperExists, rfl⟩
  | edit _ edits' ih =>
    obtain ⟨stillExists, reached⟩ := ih
    refine ⟨?_, ?_⟩
    · rw [edits'.store, exists_modify]
      exact stillExists
    · rw [edits'.table stillExists, reached, Table.edited, Table.edited, List.foldl_append]
      rfl
  | elsewhere _ still same ih =>
    obtain ⟨stillExists, reached⟩ := ih
    exact ⟨still stillExists, same.trans reached⟩

/-! ### What the built-ins answer -/

/-- The built-in that says whether a key is present. -/
def tester : Keeper → PlainPrimitive
  | object _ => .object .hasLocalSlot
  | map _ => .map .hasKey

/-- The built-in that reads a key. -/
def reader : Keeper → PlainPrimitive
  | object _ => .object .getSlot
  | map _ => .map .at

/-- The built-in that removes a key. -/
def remover : Keeper → PlainPrimitive
  | object _ => .object .removeSlot
  | map _ => .map .removeAt

/-- The built-in that lists the keys. -/
def lister : Keeper → PlainPrimitive
  | object _ => .object .slotNames
  | map _ => .map .keys

section Built

variable {use : Invocation} {key : Text} {engine : Engine}

theorem tester_on (asks : keeper.Asks key use) :
    (keeper.tester.run use).on engine
      = (.ok (.bool ((keeper.table engine.store).contains key.content)), engine) := by
  cases keeper with
  | object id =>
    rw [tester, PlainPrimitive.run, ObjectPrimitive.run, asks.named, asks.receiver]
    rfl
  | map id =>
    rw [tester, PlainPrimitive.run, MapPrimitive.run, asks.named, asks.receiver]
    rfl

theorem reader_of_map {id : MapId} (asks : (Keeper.map id).Asks key use) :
    ((Keeper.map id).reader.run use).on engine
      = (.ok (((engine.store.map id).find? key.content).getD .nil), engine) := by
  rw [reader, PlainPrimitive.run, MapPrimitive.run, asks.named, asks.receiver]
  rfl

/-- A key that is present is read on the keeper itself. -/
theorem reader_on (asks : keeper.Asks key use) {value : Value}
    (held : (keeper.table engine.store).find? key.content = some value) :
    (keeper.reader.run use).on engine = (.ok value, engine) := by
  cases keeper with
  | object id =>
    have found : engine.store.lookupOn (.object id) key.content = some ⟨id, value⟩ :=
      Store.lookup_eq_some_iff.mpr (Store.firstOwner_iff.mpr ⟨.self, held⟩)
    rw [reader, PlainPrimitive.run, ObjectPrimitive.run, asks.named, asks.receiver]
    show (Except.ok ((Option.map Found.value (engine.store.lookupOn _ _)).getD .nil), engine) = _
    rw [Keeper.value, found]
    rfl
  | map id =>
    have entry : (engine.store.map id).find? key.content = some value := held
    rw [reader_of_map asks, entry, Option.getD_some]

theorem remover_on (asks : keeper.Asks key use) :
    (keeper.remover.run use).on engine
      = (.ok (((keeper.table engine.store).find? key.content).getD .nil),
          { engine with store := keeper.modify engine.store (·.erase key.content) }) := by
  cases keeper with
  | object id =>
    rw [remover, PlainPrimitive.run, ObjectPrimitive.run, asks.named, asks.receiver]
    rfl
  | map id =>
    rw [remover, PlainPrimitive.run, MapPrimitive.run, asks.named, asks.receiver]
    rfl

theorem lister_on (receiver : use.receiver = keeper.value) :
    (keeper.lister.run use).on engine
      = (Action.newList ((keeper.table engine.store).keys.map .string)).on engine := by
  cases keeper with
  | object id =>
    rw [lister, PlainPrimitive.run, ObjectPrimitive.run, receiver]
    rfl
  | map id =>
    rw [lister, PlainPrimitive.run, MapPrimitive.run, receiver]
    rfl

end Built

/-- What the built-ins answer about a table that keeps the history. -/
structure Answers (keeper : Keeper) (history : List (Table.Edit Value)) (engine : Engine) :
    Prop where
  present {use : Invocation} {key : Text} (asks : keeper.Asks key use) :
    ∃ there, (keeper.tester.run use).on engine = (.ok (.bool there), engine)
      ∧ (there = true ↔ Table.Present history key.content)
  read {use : Invocation} {key : Text} (asks : keeper.Asks key use) {value : Value}
    (reads : Table.Reads history key.content value) :
    (keeper.reader.run use).on engine = (.ok value, engine)
  /-- A map answers nil for an absent key; for an object its prototypes answer. -/
  missing {use : Invocation} {key : Text} (asks : keeper.Asks key use) {id : MapId}
    (here : keeper = .map id) (absent : ¬ Table.Present history key.content) :
    (keeper.reader.run use).on engine = (.ok .nil, engine)
  removed {use : Invocation} {key : Text} (asks : keeper.Asks key use) :
    ∃ answer after, (keeper.remover.run use).on engine = (.ok answer, after)
      ∧ keeper.Edits (.remove key.content) engine after
      ∧ (∀ value, Table.Reads history key.content value → answer = value)
      ∧ (¬ Table.Present history key.content → answer = .nil)
  listed {use : Invocation} (receiver : use.receiver = keeper.value) :
    ∃ id after, (keeper.lister.run use).on engine = (.ok (.list id), after)
      ∧ after.store.list id = ((keeper.table engine.store).keys.map Value.string).toArray
  /-- A key that was absent can be written and removed without a trace. -/
  restored {key : Text} {value : Value} {middle after : Engine}
    (absent : ¬ Table.Present history key.content)
    (written : keeper.Edits (.write key value) engine middle)
    (erased : keeper.Edits (.remove key.content) middle after) : after.store = engine.store

/-- The built-ins answer what the history of the table says. -/
theorem answers_of_keeps {history : List (Table.Edit Value)} {engine : Engine}
    (keeps : Table.Keeps history (keeper.table engine.store)) :
    keeper.Answers history engine where
  present asks := ⟨_, tester_on asks, keeps.contains_iff _⟩
  read asks value reads := reader_on asks ((keeps.reads _ value).mpr reads)
  missing {use key} asks id here absent := by
    subst here
    have nothing : (engine.store.map id).find? key.content = none := keeps.find?_eq_none absent
    rw [reader_of_map asks, nothing, Option.getD_none]
  removed {use key} asks := by
    have edits : keeper.Edits (.remove key.content) engine
        ((keeper.remover.run use).on engine).2 := by
      cases keeper with
      | object id => exact .removeSlot asks
      | map id => exact .removeAt asks
    rw [remover_on asks] at edits
    refine ⟨_, _, remover_on asks, edits, fun value reads => ?_, fun absent => ?_⟩
    · rw [(keeps.reads _ value).mpr reads, Option.getD_some]
    · rw [keeps.find?_eq_none absent, Option.getD_none]
  listed receiver := by
    have made := Store.list_addList engine.store
      ((keeper.table engine.store).keys.map Value.string).toArray ⟨engine.store.lists.size⟩
    rw [if_pos rfl] at made
    exact ⟨_, _, lister_on receiver, made⟩
  restored {key value middle after} absent written erased := by
    rw [erased.store, written.store]
    refine modify_modify_of_restores (Table.erase_put_of_not_contains key value ?_)
    exact Bool.eq_false_iff.mpr fun there => absent ((keeps.contains_iff _).mp there)

end Keeper

/-- **Tables keep their history.**  After any number of changes to an object or a map, by whichever
    ways they were made, a key is read as its last change says.  The keys that are listed are those
    that are present, once each, in the order of the writes that last made each of them present; no
    overwrite moves a key, and no removal moves another one.  A removal answers what it removed, and
    an absent key can be written and removed without a trace.  The entries that the table had at
    first count as written in their order. -/
theorem tables_keep_history {keeper : Keeper} {before after : Engine}
    {edits : List (Table.Edit Value)} (keeperExists : keeper.Exists before.store)
    (distinct : (keeper.table before.store).Distinct)
    (changes : keeper.Changes before edits after) :
    Table.Keeps ((keeper.table before.store).written ++ edits) (keeper.table after.store)
      ∧ (keeper.table after.store).keys.Pairwise (fun key other => ∀ earlier later,
          Table.BornAt ((keeper.table before.store).written ++ edits) earlier key →
          Table.BornAt ((keeper.table before.store).written ++ edits) later other →
          earlier < later)
      ∧ keeper.Answers ((keeper.table before.store).written ++ edits) after := by
  have keeps : Table.Keeps ((keeper.table before.store).written ++ edits)
      (keeper.table after.store) := by
    rw [(changes.table keeperExists).2]
    exact Table.keeps_edited distinct edits
  exact ⟨keeps, keeps.listed_in_order, Keeper.answers_of_keeps keeps⟩

/-- An engine with one object, which has no slots. -/
def oneBareObject : Engine where
  config := {}
  store := { objects := #[{}] }

/-- A slot that is written in place stays first, and one that is removed and written again comes
    last. -/
theorem rewritten_slot_moves_to_the_end :
    ∃ after edits, (Keeper.object ⟨0⟩).Changes oneBareObject edits after
      ∧ Table.Keeps edits (after.store.object ⟨0⟩).slots
      ∧ (after.store.object ⟨0⟩).slots.names = ["b", "a"] := by
  have write : ∀ {edits : List (Table.Edit Value)} {middle : Engine} (key : Text) (value : Value),
      (Keeper.object ⟨0⟩).Changes oneBareObject edits middle →
      (Keeper.object ⟨0⟩).Changes oneBareObject (edits ++ [.write key value])
        ((defineOn (.object ⟨0⟩) key value).on middle).2 :=
    fun key value changes => changes.edit .defineOn
  have remove : ∀ {edits : List (Table.Edit Value)} {middle : Engine} (key : String),
      (Keeper.object ⟨0⟩).Changes oneBareObject edits middle →
      (Keeper.object ⟨0⟩).Changes oneBareObject (edits ++ [.remove key])
        ((Action.removeSlot ⟨0⟩ key).on middle).2 := fun key changes => changes.edit .dropSlot
  have changes := write "a" (.int 4) (remove "a" (write "a" (.int 3)
    (write "b" (.int 2) (write "a" (.int 1) .none))))
  have keeperExists : (Keeper.object ⟨0⟩).Exists oneBareObject.store := Nat.one_pos
  have distinct : ((Keeper.object ⟨0⟩).table oneBareObject.store).Distinct := List.nodup_nil
  exact ⟨_, _, changes, (tables_keep_history keeperExists distinct changes).1, by decide⟩

end SlotTalk
