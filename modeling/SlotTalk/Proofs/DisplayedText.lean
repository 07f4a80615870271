import SlotTalk.Display

namespace SlotTalk

/-!
# The text of nested lists and maps

Lists and maps may contain one another and themselves, and so the values inside a value need not
come to an end.  Its text does: it enters three lists or maps around one another and only names what
lies deeper.

* `Store.Shows`, `shows_iff` — what the text of a value is, by what stands around it.
* `Store.Nested` — what is met inside a value, and how deep.
* `Store.AgreesWithin`, `displayWithin_congr` — heaps that look the same from a value.
* `display_is_finite_and_local` — what the text of a value depends on.
-/

namespace Value

/-- Lists and maps are entered when a value is displayed. -/
def isContainer : Value → Bool
  | .list _ | .map _ => true
  | _ => false

end Value

namespace Store

variable {store other : Store} {format format' : NumberFormat} {root : Value}

/-- The text of a value that stands inside `depth` lists and maps.  What is neither a list nor a map
    has one text wherever it stands.  A list or map that less than three stand around is shown with
    all that it contains in order, and any other one is only named. -/
inductive Shows (store : Store) (format : NumberFormat) :
    Nat → Value → String → Prop where
  | plain {depth : Nat} {value : Value} (alone : value.isContainer = false) :
    Shows store format depth value (store.displayWithin format 0 value)
  | namedList {depth : Nat} {id : ListId} (deep : displayNesting ≤ depth) :
    Shows store format depth (.list id) "list(...)"
  | namedMap {depth : Nat} {id : MapId} (deep : displayNesting ≤ depth) :
    Shows store format depth (.map id) "Map(...)"
  | list {depth : Nat} {id : ListId} {shown : List (Value × String)}
    (shallow : depth < displayNesting) (items : shown.map Prod.fst = (store.list id).toList)
    (texts : ∀ item ∈ shown, Shows store format (depth + 1) item.1 item.2) :
    Shows store format depth (.list id) (parenthesized "list" (shown.map Prod.snd))
  | map {depth : Nat} {id : MapId} {shown : List ((Text × Value) × String)}
    (shallow : depth < displayNesting) (entries : shown.map Prod.fst = (store.map id).entries)
    (texts : ∀ entry ∈ shown, Shows store format (depth + 1) entry.1.2 entry.2) :
    Shows store format depth (.map id)
      (parenthesized "Map" (shown.map fun entry => entry.1.1.content ++ ": " ++ entry.2))

/-- What is neither a list nor a map looks the same at any depth. -/
theorem displayWithin_of_alone {value : Value} (alone : value.isContainer = false)
    (nesting : Nat) :
    store.displayWithin format nesting value
      = store.displayWithin format 0 value := by
  cases value with
  | list id | map id => exact nomatch alone
  | bool value => cases value <;> cases nesting <;> rfl
  | _ => cases nesting <;> rfl

theorem map_fst_paired {α : Type} (values : List α) (text : α → String) :
    (values.map fun value => (value, text value)).map Prod.fst = values := by
  rw [List.map_map]
  exact List.map_id values

/-- Every value has one text at every depth: the levels that are left are those that do not stand
    around the value. -/
theorem shows_iff {nesting depth : Nat} (levels : depth + nesting = displayNesting)
    {value : Value} {text : String} :
    store.Shows format depth value text
      ↔ store.displayWithin format nesting value = text := by
  induction nesting generalizing depth value text with
  | zero =>
    constructor
    · intro shows
      cases shows with
      | plain alone | namedList deep | namedMap deep => rfl
      | list shallow | map shallow => omega
    · rintro rfl
      cases value with
      | list id => exact .namedList (by omega)
      | map id => exact .namedMap (by omega)
      | _ => exact .plain rfl
  | succ nesting ih =>
    have inner : depth + 1 + nesting = displayNesting := by omega
    constructor
    · intro shows
      cases shows with
      | plain alone => exact displayWithin_of_alone alone _
      | namedList deep | namedMap deep => omega
      | @list _ id shown shallow items texts =>
        have same : shown.map Prod.snd
            = shown.map fun item => store.displayWithin format nesting item.1 :=
          List.map_congr_left fun item mem => ((ih inner).mp (texts item mem)).symm
        rw [displayWithin, ← items, List.map_map, same]
        rfl
      | @map _ id shown shallow entries texts =>
        have same : (shown.map fun entry => entry.1.1.content ++ ": " ++ entry.2)
            = shown.map fun entry => entry.1.1.content ++ ": "
              ++ store.displayWithin format nesting entry.1.2 :=
          List.map_congr_left fun entry mem => by rw [(ih inner).mp (texts entry mem)]
        rw [displayWithin, ← entries, List.map_map, same]
        rfl
    · rintro rfl
      cases value with
      | list id =>
        have texts : ∀ item ∈ (store.list id).toList.map
            fun item => (item, store.displayWithin format nesting item),
            store.Shows format (depth + 1) item.1 item.2 := by
          intro item mem
          obtain ⟨value, -, rfl⟩ := List.mem_map.mp mem
          exact (ih inner).mpr rfl
        have shows := Shows.list (by omega) (map_fst_paired _ _) texts
        rwa [List.map_map] at shows
      | map id =>
        have texts : ∀ entry ∈ (store.map id).entries.map
            fun entry => (entry, store.displayWithin format nesting entry.2),
            store.Shows format (depth + 1) entry.1.2 entry.2 := by
          intro entry mem
          obtain ⟨value, -, rfl⟩ := List.mem_map.mp mem
          exact (ih inner).mpr rfl
        have shows := Shows.map (by omega) (map_fst_paired _ _) texts
        rwa [List.map_map] at shows
      | _ =>
        rw [displayWithin_of_alone rfl]
        exact .plain rfl

/-! ### What is met inside a value -/

/-- The value is met inside the root, with `depth` lists and maps around it. -/
inductive Nested (store : Store) (root : Value) : Nat → Value → Prop where
  | root : Nested store root 0 root
  | item {depth : Nat} {id : ListId} {item : Value} (around : Nested store root depth (.list id))
    (mem : item ∈ store.list id) : Nested store root (depth + 1) item
  | entry {depth : Nat} {id : MapId} {entry : Text × Value}
    (around : Nested store root depth (.map id)) (mem : entry ∈ (store.map id).entries) :
    Nested store root (depth + 1) entry.2

/-- Two heaps look the same from the root: the lists and maps that are entered contain the same.
    The code, the calls and the threads that are shown have the same names; as these cells never
    change, that is so for any two states of one engine. -/
structure AgreesWithin (store other : Store) (root : Value) : Prop where
  list : ∀ {depth : Nat} {id : ListId}, depth < displayNesting →
    store.Nested root depth (.list id) → other.list id = store.list id
  map : ∀ {depth : Nat} {id : MapId}, depth < displayNesting →
    store.Nested root depth (.map id) → (other.map id).entries = (store.map id).entries
  block : ∀ {depth : Nat} {id : BlockId}, depth ≤ displayNesting →
    store.Nested root depth (.block id) →
    (other.block id).code.parameterNames = (store.block id).code.parameterNames
  method : ∀ {depth : Nat} {id : MethodId}, depth ≤ displayNesting →
    store.Nested root depth (.method id) →
    (other.method id).code.parameterNames = (store.method id).code.parameterNames
  call : ∀ {depth : Nat} {id : CallId}, depth ≤ displayNesting →
    store.Nested root depth (.call id) →
    (other.call id).message.name.content = (store.call id).message.name.content
  coroutine : ∀ {depth : Nat} {id : CoroutineId}, depth ≤ displayNesting →
    store.Nested root depth (.coroutine id) →
    (other.coroutine id).label = (store.coroutine id).label

theorem AgreesWithin.refl (store : Store) (root : Value) : store.AgreesWithin store root :=
  ⟨fun _ _ => rfl, fun _ _ => rfl, fun _ _ => rfl, fun _ _ => rfl, fun _ _ => rfl, fun _ _ => rfl⟩

/-- No float is shown in the text of the root. -/
def FloatFree (store : Store) (root : Value) : Prop :=
  ∀ depth f, depth ≤ displayNesting → ¬ store.Nested root depth (.float f)

/-- What is neither a list nor a map looks the same in two heaps that agree. -/
theorem displayWithin_congr_of_alone (agrees : store.AgreesWithin other root)
    (formats : format' = format ∨ store.FloatFree root) {depth : Nat} {value : Value}
    (nested : store.Nested root depth value) (shown : depth ≤ displayNesting)
    (alone : value.isContainer = false) :
    other.displayWithin format' 0 value = store.displayWithin format 0 value := by
  cases value with
  | list id | map id => exact nomatch alone
  | bool value => cases value <;> rfl
  | float f =>
    rcases formats with rfl | free
    · rfl
    · exact absurd nested (free depth f shown)
  | block id => rw [displayWithin, displayWithin, agrees.block shown nested]
  | method id => rw [displayWithin, displayWithin, agrees.method shown nested]
  | call id => rw [displayWithin, displayWithin, agrees.call shown nested]
  | coroutine id => rw [displayWithin, displayWithin, agrees.coroutine shown nested]
  | _ => rfl

/-- From any place inside the root, two heaps that agree show the same. -/
theorem displayWithin_congr (agrees : store.AgreesWithin other root)
    (formats : format' = format ∨ store.FloatFree root) {nesting depth : Nat}
    (levels : depth + nesting = displayNesting) {value : Value}
    (nested : store.Nested root depth value) :
    other.displayWithin format' nesting value
      = store.displayWithin format nesting value := by
  induction nesting generalizing depth value with
  | zero =>
    cases value with
    | list id | map id => rfl
    | _ => exact displayWithin_congr_of_alone agrees formats nested (by omega) rfl
  | succ nesting ih =>
    have inner : depth + 1 + nesting = displayNesting := by omega
    cases value with
    | list id =>
      rw [displayWithin, displayWithin, agrees.list (by omega) nested]
      congr 1
      refine List.map_congr_left fun item mem => ?_
      exact ih inner (.item nested (Array.mem_def.mpr mem))
    | map id =>
      rw [displayWithin, displayWithin, agrees.map (by omega) nested]
      congr 1
      refine List.map_congr_left fun (key, item) mem => ?_
      exact congrArg (key.content ++ ": " ++ ·) (ih inner (.entry nested mem))
    | _ =>
      rw [displayWithin_of_alone rfl (nesting + 1), displayWithin_of_alone rfl (nesting + 1)]
      exact displayWithin_congr_of_alone agrees formats nested (by omega) rfl

end Store

/-- **Displayed text.**  Every value of every heap has a text, and only one: the lists and maps that
    less than three others stand around are shown with all that they contain, in order, and deeper
    ones are only named.  Two heaps give the same text if the lists and maps that are entered
    contain the same, whatever lies deeper; and if no float is shown, both number formats give the
    same text. -/
theorem display_is_finite_and_local (store : Store) (format : NumberFormat)
    (root : Value) :
    (∀ text, store.display format root = text ↔ store.Shows format 0 root text)
      ∧ (∀ other, store.AgreesWithin other root →
          other.display format root = store.display format root)
      ∧ (store.FloatFree root →
          store.display .plain root = store.display .legacy root) := by
  refine ⟨fun text => (Store.shows_iff (Nat.zero_add _)).symm, fun other agrees => ?_,
    fun free => ?_⟩
  · exact Store.displayWithin_congr agrees (.inl rfl) (Nat.zero_add _) .root
  · exact Store.displayWithin_congr (.refl store root) (.inr free) (Nat.zero_add _) .root

/-- A list with a map in it, which is around two lists more, and a value in the innermost one. -/
def nestedLists (innermost : Value) : Store where
  lists := #[#[.int 1, .map ⟨0⟩], #[.list ⟨2⟩], #[innermost]]
  maps := #[⟨[("k", .list ⟨1⟩)]⟩]

/-- What is shown of the outermost list. -/
theorem nestedLists_shown {innermost value : Value} {depth : Nat}
    (nested : (nestedLists innermost).Nested (.list ⟨0⟩) depth value)
    (shown : depth ≤ Store.displayNesting) :
    depth = 0 ∧ value = .list ⟨0⟩ ∨ depth = 1 ∧ (value = .int 1 ∨ value = .map ⟨0⟩)
      ∨ depth = 2 ∧ value = .list ⟨1⟩ ∨ depth = 3 ∧ value = .list ⟨2⟩ := by
  induction nested with
  | root => exact .inl ⟨rfl, rfl⟩
  | item around mem ih =>
    obtain ⟨rfl, same⟩ | ⟨-, same | same⟩ | ⟨rfl, same⟩ | ⟨rfl, -⟩ := ih (by omega)
    · cases same
      have mem : _ ∈ #[Value.int 1, Value.map ⟨0⟩] := mem
      simp at mem
      exact .inr (.inl ⟨rfl, mem⟩)
    · cases same
    · cases same
    · cases same
      have mem : _ ∈ #[Value.list ⟨2⟩] := mem
      simp at mem
      exact .inr (.inr (.inr ⟨rfl, mem⟩))
    · -- The list with three levels around it is not entered.
      exact absurd shown (by decide)
  | entry around mem ih =>
    obtain ⟨-, same⟩ | ⟨rfl, same | same⟩ | ⟨-, same⟩ | ⟨-, same⟩ := ih (by omega)
    · cases same
    · cases same
    · cases same
      have mem : _ ∈ [(({ content := "k" } : Text), Value.list ⟨1⟩)] := mem
      rw [List.mem_singleton.mp mem]
      exact .inr (.inr (.inl ⟨rfl, rfl⟩))
    · cases same
    · cases same

theorem nestedLists_agree (innermost innermost' : Value) :
    (nestedLists innermost).AgreesWithin (nestedLists innermost') (.list ⟨0⟩) := by
  constructor
  case list =>
    intro depth id shallow nested
    obtain ⟨-, same⟩ | ⟨-, same | same⟩ | ⟨-, same⟩ | ⟨deep, -⟩ :=
      nestedLists_shown nested (Nat.le_of_lt shallow)
    · cases same
      rfl
    · cases same
    · cases same
    · cases same
      rfl
    · exact absurd (deep ▸ shallow) (by decide)
  case map => exact fun _ _ => rfl
  all_goals
    intro depth id shown nested
    obtain ⟨-, same⟩ | ⟨-, same | same⟩ | ⟨-, same⟩ | ⟨-, same⟩ := nestedLists_shown nested shown
    all_goals cases same

theorem nestedLists_floatFree (innermost : Value) :
    (nestedLists innermost).FloatFree (.list ⟨0⟩) := by
  intro depth f shown nested
  obtain ⟨-, same⟩ | ⟨-, same | same⟩ | ⟨-, same⟩ | ⟨-, same⟩ := nestedLists_shown nested shown
  all_goals cases same

/-- The innermost value is not shown, be it a float or the outermost list. -/
theorem innermost_value_is_not_shown :
    (nestedLists (.float 0.5)).display .plain (.list ⟨0⟩)
        = "list(1, Map(k: list(list(...))))"
      ∧ (nestedLists (.list ⟨0⟩)).display .plain (.list ⟨0⟩)
        = "list(1, Map(k: list(list(...))))"
      ∧ (nestedLists (.float 0.5)).display .legacy (.list ⟨0⟩)
        = "list(1, Map(k: list(list(...))))" := by
  have text : (nestedLists (.float 0.5)).display .plain (.list ⟨0⟩)
      = "list(1, Map(k: list(list(...))))" := by
    decide +kernel
  obtain ⟨-, nearby, formats⟩ :=
    display_is_finite_and_local (nestedLists (.float 0.5)) .plain (.list ⟨0⟩)
  exact ⟨text, (nearby _ (nestedLists_agree _ _)).trans text,
    (formats (nestedLists_floatFree _)).symm.trans text⟩

end SlotTalk
