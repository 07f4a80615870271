import Mathlib.Data.String.Basic
import SlotTalk.Proofs.Visiting

namespace SlotTalk

/-!
# What loops over elements visit

A text is cut at bytes but visited by characters, a map is visited as it was at the start, and a
list as it is by the time that the loop comes to each place.

* `bytePosition` — where a character starts among the bytes of a text.
* `SequencePrimitive.size_on`, `SequencePrimitive.at_on` — built-ins that count characters.
* `characters_numbered`, `entries_numbered`, `items_numbered` — one element after the other.
* `Visiting.OverText`, `Visiting.OverMap`, `Visiting.OverList` — the three ways.
* `foreach_visits_its_elements` — all of them for loops as they are written.
-/

open Counting (lastValue)

/-! ### Characters -/

/-- The place of a character in the bytes of a text: that of all characters before it. -/
def bytePosition (text : String) (i : Nat) : String.Pos.Raw :=
  ⟨String.utf8Len (text.toList.take i)⟩

/-- Characters start where the text may be cut. -/
theorem bytePosition_isValid (text : String) (i : Nat) : (bytePosition text i).IsValid text := by
  rw [String.Pos.Raw.isValid_iff_exists_take_toList]
  exact ⟨i, (String.utf8ByteSize_ofList _).symm⟩

/-- What starts at the place of a character is that character. -/
theorem get?_bytePosition (text : String) (i : Nat) :
    (bytePosition text i).get? text = text.toList[i]? := by
  -- The text is what comes before the place, and what comes after it.
  have found := String.get?_of_valid (text.toList.take i) (text.toList.drop i)
  rw [List.take_append_drop, String.ofList_toList, List.head?_drop] at found
  exact found

/-- The next character starts where this one ends. -/
theorem bytePosition_succ {text : String} {i : Nat} {c : Char} (found : text.toList[i]? = some c) :
    bytePosition text i + c = bytePosition text (i + 1) := by
  have longer : text.toList.take (i + 1) = text.toList.take i ++ [c] := by
    rw [List.take_add_one, found]
    rfl
  rw [bytePosition, bytePosition, longer, String.utf8Len_append, String.utf8Len_cons,
    String.utf8Len_nil, Nat.zero_add]
  rfl

/-- A character is an integer that fits in a word. -/
theorem codePoint_eq (c : Char) :
    ∃ word : Int64, SequencePrimitive.codePoint c = .int word ∧ word.toInt = c.toNat := by
  have small : c.toNat < 0x110000 := by
    obtain small | ⟨-, small⟩ := c.valid
    · exact Nat.lt_trans small (by decide)
    · exact small
  have fits : fitsWord c.toNat = true := by
    rw [fitsWord_iff, wordLimit]
    omega
  have denotes := Value.int?_ofInt c.toNat
  rw [Value.ofInt, if_pos fits] at denotes
  refine ⟨Int64.ofInt c.toNat, ?_, Option.some.inj denotes⟩
  rw [SequencePrimitive.codePoint, Value.ofNat, Value.ofInt, if_pos fits]

/-! Built-ins count characters one by one, from the start. -/

namespace SequencePrimitive

variable {use : Invocation} {text : Text} (receiver : use.receiver = .string text)
include receiver

/-- The size of a text is the number of its characters, not that of its bytes. -/
theorem size_on (state : Engine) :
    (run use .size).on state = (.ok (.ofNat text.content.length), state) := by
  rw [run, receiver]
  rfl

/-- The element of a text at an index is the number of the character there. -/
theorem at_on {position : Int64} {i : Nat} {c : Char} (input : use.input 0 = .int position)
    (number : position.toInt = i) (found : text.content.toList[i]? = some c) (state : Engine) :
    (run use .at).on state = (.ok (codePoint c), state) := by
  -- An index that is not below zero is looked up as it is.
  have inside : (if position.toInt < 0 then none else text.content.toList[position.toInt.toNat]?)
      = some c := by
    rw [number, if_neg (Int.not_lt.mpr (Int.natCast_nonneg i)), Int.toNat_natCast, found]
  have name : (use.receiver.expectString).on state = (.ok text.content, state) := by
    rw [receiver]
    rfl
  have place : ((use.input 0).expectPosition).on state = (.ok position.toInt, state) := by
    rw [input]
    rfl
  rw [run, Action.on_bind, name]
  dsimp only
  rw [Action.on_bind, place]
  dsimp only
  rw [inside]
  rfl

end SequencePrimitive

namespace Elements

/-- From the place of a character, a loop over a text takes its number and goes on to the place of
    the next one. -/
theorem next_characters (text : String) (i : Nat) (state : Engine) :
    (characters text (bytePosition text i)).next.on state
      = (.ok (text.toList[i]?.map fun c =>
          (SequencePrimitive.codePoint c, characters text (bytePosition text (i + 1)))),
        state) := by
  rw [next, get?_bytePosition]
  cases found : text.toList[i]? with
  | none => rfl
  | some c =>
    rw [← bytePosition_succ found]
    rfl

/-- What is taken is made of what is found, and taking it changes nothing. -/
theorem exists_of_took {α : Type} {found : Option α} {make : α → Value × Elements} {value : Value}
    {rest : Elements} {state taken : Engine}
    (took : ((.ok (found.map make), state) :
        Except RuntimeError (Option (Value × Elements)) × Engine)
      = (.ok (some (value, rest)), taken)) :
    ∃ a, found = some a ∧ make a = (value, rest) ∧ taken = state := by
  obtain ⟨same, rfl⟩ := Prod.mk.inj took
  obtain ⟨a, found, made⟩ := Option.map_eq_some_iff.mp (Except.ok.inj same)
  exact ⟨a, found, made, rfl⟩

/-- A loop over a text comes to all characters by their places. -/
theorem characters_numbered (text : String) :
    Numbered fun i => characters text (bytePosition text i) := by
  intro i state value rest taken took
  rw [next_characters] at took
  obtain ⟨c, -, made, -⟩ := exists_of_took took
  exact (Prod.mk.inj made).2.symm

/-! ### Entries -/

/-- The next entry becomes a new list. -/
theorem next_entries (rest : List (Text × Value)) (i : Nat) (state : Engine) :
    (entries (rest.drop i)).next.on state
      = match rest[i]? with
        | none => (.ok none, state)
        | some (key, value) =>
          (.ok (some (.list ⟨state.store.lists.size⟩, .entries (rest.drop (i + 1)))),
            { state with store := (state.store.addList #[.string key, value]).2 }) := by
  rw [← List.head?_drop, ← List.tail_drop]
  cases rest.drop i with
  | nil => rfl
  | cons entry others => rfl

/-- A loop over a map comes to all entries of the copy that it started with. -/
theorem entries_numbered (rest : List (Text × Value)) :
    Numbered fun i => entries (rest.drop i) := by
  intro i state value others taken took
  rw [next_entries] at took
  split at took
  next => cases took
  next =>
    obtain ⟨same, -⟩ := Prod.mk.inj took
    exact (Prod.mk.inj (Option.some.inj (Except.ok.inj same))).2.symm

/-! ### Items -/

/-- The list is looked at by the time that the element is taken. -/
theorem next_items (id : ListId) (i : Nat) (state : Engine) :
    (items id i).next.on state
      = (.ok ((state.store.list id)[i]?.map fun item => (item, .items id (i + 1))), state) := by
  rw [next, Action.on_store_bind]
  cases (state.store.list id)[i]? with
  | none => rfl
  | some item => rfl

/-- A loop over a list comes to all indexes, whatever the list holds by then. -/
theorem items_numbered (id : ListId) : Numbered fun i => items id i := by
  intro i state value rest taken took
  rw [next_items] at took
  obtain ⟨item, -, made, -⟩ := exists_of_took took
  exact (Prod.mk.inj made).2.symm

end Elements

/-! ### The three ways -/

namespace Visiting

section

variable (visiting : Visiting) (source : Node) (before ready : Engine)

/-- Over a text: there is a run for each of its characters, with their numbers, which are what the
    built-ins count and index. -/
structure OverText (text : Text) (runs : List Answered) (final : Engine) : Prop where
  ends : visiting.Ends source before (.string text) ready runs final
  length : runs.length = text.content.length
  size : ∀ use : Invocation, use.receiver = .string text → ∀ engine : Engine,
    (SequencePrimitive.run use .size).on engine = (.ok (.ofNat runs.length), engine)
  run : ∀ (i : Nat) (run : Answered), runs[i]? = some run →
    run.job = .eval visiting.body visiting.scope
    ∧ ∃ (c : Char) (number : Int64), text.content.toList[i]? = some c ∧ number.toInt = c.toNat
      ∧ visiting.Bound run.before.store i (.int number)
      ∧ ∀ (use : Invocation) (position : Int64), use.receiver = .string text →
        use.input 0 = .int position → position.toInt = i → ∀ engine : Engine,
        (SequencePrimitive.run use .at).on engine = (.ok (.int number), engine)
  boundary : ∀ {runs visit state},
    visiting.Comes { elements := .characters text.content 0 } ready runs visit state →
    ∃ position, visit.elements = .characters text.content position
      ∧ position.IsValid text.content

/-- Over a map: there is a run for each of the entries that it had when the loop was opened.  The
    pair of an entry is a list that did not exist when the loop came to look for it. -/
structure OverMap (id : MapId) (runs : List Answered) (final : Engine) : Prop where
  ends : visiting.Ends source before (.map id) ready runs final
  length : runs.length = (ready.store.map id).entries.length
  run : ∀ (i : Nat) (run : Answered), runs[i]? = some run →
    run.job = .eval visiting.body visiting.scope
    ∧ ∃ key held pair, (ready.store.map id).entries[i]? = some (key, held)
      ∧ visiting.Bound run.before.store i (.list pair)
      ∧ run.before.store.list pair = #[.string key, held]
      ∧ ∃ visit state,
        visiting.Comes { elements := .entries (ready.store.map id).entries } ready (runs.take i)
          visit state
        ∧ pair.index = state.store.lists.size

/-- Over a list: the next run comes if the list, as it is by then, has an element at its place, and
    else the loop ends. -/
structure OverList (id : ListId) : Prop where
  goesOn : ∀ {runs visit state item},
    visiting.Comes { elements := .items id 0 } ready runs visit state →
    (state.store.list id)[runs.length]? = some item →
    ∃ run next, run.job = .eval visiting.body visiting.scope
      ∧ visiting.Bound run.before.store runs.length item
      ∧ visiting.Begins source before runs.length run.before
      ∧ visiting.Comes { elements := .items id 0 } ready (runs ++ [run]) next run.after
  ends : ∀ {runs visit state},
    visiting.Comes { elements := .items id 0 } ready runs visit state →
    (state.store.list id).size ≤ runs.length →
    visiting.Ends source before (.list id) ready runs state
  ended : ∀ {outcome final},
    Finishes (.eval (visiting.loop source) visiting.scope) before outcome final →
    ∃ runs visit, visiting.Comes { elements := .items id 0 } ready runs visit final
      ∧ (final.store.list id).size ≤ runs.length ∧ outcome = .ok (lastValue .nil runs)

end

section

variable {visiting : Visiting} {source : Node} {before ready : Engine} {value : Value}
  {elements : Elements} (opens : visiting.Opens source before value elements ready)
  (takes : ready.store.TakesDefinitions visiting.scope)
  (distinct : ∀ name ∈ visiting.index, name.content ≠ visiting.element.content)
  (steady : visiting.Steady { elements := elements } ready)
include opens takes distinct steady

/-- A loop over a text ends, as there are no more runs than characters. -/
theorem Opens.overText {text : Text} (same : value = .string text) :
    ∃ runs final, visiting.OverText source before ready text runs final := by
  subst same
  obtain rfl : .characters text.content 0 = elements :=
    Except.ok.inj (Prod.mk.inj opens.opened).1
  have numbered := Elements.characters_numbered text.content
  obtain ⟨runs, visit, final, length, comes, ends⟩ :=
    opens.exists_runs numbered
      (fun i inside state => by
        rw [Elements.next_characters, List.getElem?_eq_getElem inside]
        exact ⟨_, _, _, rfl⟩)
      (fun state => by
        rw [Elements.next_characters, List.getElem?_length]
        rfl)
      rfl takes distinct steady
  rw [String.length_toList] at length
  refine ⟨runs, final, ends, length, ?_, ?_, ?_⟩
  · intro use receiver engine
    rw [SequencePrimitive.size_on receiver, length]
  · intro i run mem
    obtain ⟨job, earlier, looked, taken, rest, value, comes', count, took, bound, -⟩ :=
      comes.run takes distinct mem
    rw [comes'.place numbered, count, Elements.next_characters] at took
    obtain ⟨c, found, made, -⟩ := Elements.exists_of_took took
    -- What was taken is what the built-in answers: the number of the same character.
    obtain ⟨number, codePoint, denotes⟩ := codePoint_eq c
    obtain rfl : .int number = value := codePoint.symm.trans (Prod.mk.inj made).1
    refine ⟨job, c, number, found, denotes, bound, ?_⟩
    intro use position receiver input place engine
    rw [SequencePrimitive.at_on receiver input place found, codePoint]
  · intro runs visit state comes
    exact ⟨_, comes.place numbered, bytePosition_isValid _ _⟩

/-- A loop over a map ends, as there are no more runs than entries in the copy. -/
theorem Opens.overMap {id : MapId} (same : value = .map id) :
    ∃ runs final, visiting.OverMap source before ready id runs final := by
  subst same
  obtain rfl : .entries (ready.store.map id).entries = elements :=
    Except.ok.inj (Prod.mk.inj opens.opened).1
  have numbered := Elements.entries_numbered (ready.store.map id).entries
  obtain ⟨runs, visit, final, length, comes, ends⟩ :=
    opens.exists_runs numbered
      (fun i inside state => by
        rw [Elements.next_entries, List.getElem?_eq_getElem inside]
        exact ⟨_, _, _, rfl⟩)
      (fun state => by rw [Elements.next_entries, List.getElem?_length])
      rfl takes distinct steady
  refine ⟨runs, final, ends, length, ?_⟩
  intro i run mem
  obtain ⟨job, earlier, looked, taken, rest, value, comes', count, took, bound, lists⟩ :=
    comes.run takes distinct mem
  rw [comes'.place numbered, count, Elements.next_entries] at took
  split at took
  next => cases took
  next key held found =>
    obtain ⟨same, rfl⟩ := Prod.mk.inj took
    obtain rfl := (Prod.mk.inj (Option.some.inj (Except.ok.inj same))).1
    refine ⟨job, key, held, _, found, bound, ?_, earlier, looked, comes', rfl⟩
    -- The names are bound after the pair was made, and that touches no list.
    rw [Store.list, lists]
    exact (Store.list_addList ..).trans (if_pos rfl)

/-- A loop over a list may go on as long as its body adds items, so its runs are described one by
    one. -/
theorem Opens.overList {id : ListId} (same : value = .list id) :
    visiting.OverList source before ready id := by
  subst same
  obtain rfl : .items id 0 = elements := Except.ok.inj (Prod.mk.inj opens.opened).1
  have numbered := Elements.items_numbered id
  refine ⟨?_, ?_, ?_⟩
  · intro runs visit state item comes found
    have took : visit.elements.next.on state
        = (.ok (some (item, .items id (runs.length + 1))), state) := by
      rw [comes.place numbered, Elements.next_items, found]
      rfl
    obtain ⟨bound, outcome, after, named, ran, -, next⟩ := comes.goesOn takes distinct steady took
    have position : visit.position = runs.length := by
      rw [comes.position]
      exact Nat.zero_add _
    exact ⟨_, _, rfl, position ▸ (comes.bound takes distinct took named).1,
      opens.begins comes took named, next⟩
  · intro runs visit state comes beyond
    refine opens.ends comes ?_
    rw [comes.place numbered, Elements.next_items, Array.getElem?_eq_none beyond]
    rfl
  · intro outcome final finished
    obtain ⟨runs, visit, looked, comes, nothing⟩ := opens.ended takes distinct steady finished
    -- A loop ends in one way only: with the value of the runs that were found.
    obtain ⟨rfl, -⟩ := finished.unique (opens.ends comes nothing).finishes
    rw [comes.place numbered, Elements.next_items] at nothing
    obtain ⟨noItem, rfl⟩ := Prod.mk.inj nothing
    have beyond := Array.getElem?_eq_none_iff.mp (Option.map_eq_none_iff.mp (Except.ok.inj noItem))
    exact ⟨runs, visit, comes, beyond, rfl⟩

end

end Visiting

/-- **Visiting.**  In a scope that takes definitions (see `Store.takesDefinitions_iff`), with an
    index that is named apart from the element, and with a body each of whose runs ends normally or
    with a `continue`, a loop visits the right elements, whatever the body does.  Of a text these
    are all characters, in order; the text is only cut between characters.  Of a map they are new
    lists of the keys and values that it had when the loop was opened, in order.  Of a list it is,
    in each run, the element that is then at its place, as long as there is one. -/
theorem foreach_visits_its_elements {visiting : Visiting} {source : Node} {before ready : Engine}
    {value : Value} {elements : Elements}
    (opens : visiting.Opens source before value elements ready)
    (takes : ready.store.TakesDefinitions visiting.scope)
    (distinct : ∀ name ∈ visiting.index, name.content ≠ visiting.element.content)
    (steady : visiting.Steady { elements := elements } ready) :
    (∀ text, value = .string text →
      ∃ runs final, visiting.OverText source before ready text runs final)
    ∧ (∀ id, value = .map id → ∃ runs final, visiting.OverMap source before ready id runs final)
    ∧ (∀ id, value = .list id → visiting.OverList source before ready id) :=
  ⟨fun _ => opens.overText takes distinct steady, fun _ => opens.overMap takes distinct steady,
    fun _ => opens.overList takes distinct steady⟩

/-- Visits the characters of a text, with their numbers. -/
def letters : Visiting :=
  { index := some "i", element := "c", body := .bool true, scope := World.moduleLocals }

/-- A character of two bytes is visited once. -/
theorem two_letters_are_visited :
    ∃ runs final, letters.OverText (.string "né") (Engine.new {}) (Engine.new {}) "né" runs final
      ∧ runs.length = 2 := by
  have opens : letters.Opens (.string "né") (Engine.new {}) (.string "né") (.characters "né" 0)
      (Engine.new {}) := ⟨⟨1, rfl⟩, rfl⟩
  have takes : (Engine.new {}).store.TakesDefinitions letters.scope :=
    ⟨by decide, by decide, fun _ => ⟨_, rfl, by decide⟩⟩
  have distinct : ∀ name ∈ letters.index, name.content ≠ letters.element.content := by
    intro name mem
    obtain rfl := Option.some.inj mem
    decide
  have steady : letters.Steady { elements := .characters "né" 0 } (Engine.new {}) := by
    intro runs visit state value rest taken bound _ _ _
    exact ⟨.ok (.bool true), bound, ⟨1, rfl⟩, .value _⟩
  obtain ⟨runs, final, visited⟩ :=
    (foreach_visits_its_elements opens takes distinct steady).1 "né" rfl
  exact ⟨runs, final, visited, visited.length⟩

end SlotTalk
