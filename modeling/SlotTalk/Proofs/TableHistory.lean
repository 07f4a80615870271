import SlotTalk.Table

namespace SlotTalk

/-!
# The history of a table

A table that starts empty is changed by writes and removals of keys.  What it holds in the end can
be told from the list of changes alone, where the time of a change is its position in that list.

* `Table.Edit`, `Table.edited` — one change, and a list of them made one after the other.
* `Table.Present`, `Table.Reads`, `Table.BornAt` — what the list says about a key: that it is there,
  with which value, and which write brought it there.
* `Table.Keeps` — the table holds what the list says, in the order that the list says.
* `Keeps.write`, `Keeps.remove` — one change more.
* `keeps_edited` — any number of changes, to any table that has each key once.
-/

namespace Table

variable {α : Type}

/-- A change to a table. -/
inductive Edit (α : Type) where
  /-- A key gets a value, whether it is present or not. -/
  | write (key : Text) (value : α)
  | remove (key : String)

/-- The key that is written or removed. -/
def Edit.key : Edit α → String
  | write key _ => key.content
  | remove key => key

/-- Make the change. -/
def Edit.apply (table : Table α) : Edit α → Table α
  | write key value => table.put key value
  | remove key => table.erase key

/-- Make the changes one after the other. -/
def edited (table : Table α) (edits : List (Edit α)) : Table α := edits.foldl Edit.apply table

/-- The changes that make the table from the empty one. -/
def written (table : Table α) : List (Edit α) :=
  table.entries.map fun entry => .write entry.1 entry.2

/-! ### What a history says -/

section Statements

variable (history : List (Edit α)) (time : Nat)

/-- The key is not removed after that time. -/
def Lasts (key : String) : Prop :=
  ∀ later, time < later → history[later]? ≠ some (.remove key)

/-- The key was written, and not removed since. -/
def Present (key : String) : Prop :=
  ∃ time text value, history[time]? = some (.write text value)
    ∧ text.content = key ∧ Lasts history time key

/-- The last change of the key gave it the value. -/
def Reads (key : String) (value : α) : Prop :=
  ∃ (time : Nat) (text : Text), history[time]? = some (Edit.write text value)
    ∧ text.content = key
    ∧ ∀ (later : Nat) (edit : Edit α), time < later → history[later]? = some edit →
      edit.key ≠ key

/-- The change at that time is a write of the key that found it absent, and the key was not removed
    since: this write last made it present. -/
def BornAt (key : Text) : Prop :=
  (∃ value, history[time]? = some (.write key value))
    ∧ ¬ Present (history.take time) key.content ∧ Lasts history time key.content

end Statements

variable {history : List (Edit α)} {edit : Edit α} {time : Nat}

/-- A change that was made was made before the end. -/
theorem lt_of_at (made : history[time]? = some edit) : time < history.length :=
  (List.getElem?_eq_some_iff.mp made).1

/-- Earlier changes keep their times when one more is made. -/
theorem at_snoc_of_lt (more : Edit α) (before : time < history.length) :
    (history ++ [more])[time]? = history[time]? := List.getElem?_append_left before

/-- The changes after one more are those before it, and this one. -/
theorem at_snoc_iff {more : Edit α} :
    (history ++ [more])[time]? = some edit
      ↔ history[time]? = some edit ∨ time = history.length ∧ more = edit := by
  by_cases before : time < history.length
  · rw [at_snoc_of_lt more before]
    refine ⟨.inl, ?_⟩
    rintro (made | ⟨rfl, -⟩)
    · exact made
    · exact absurd before (Nat.lt_irrefl _)
  · have unmade : history[time]? = none := List.getElem?_eq_none (Nat.le_of_not_lt before)
    rw [List.getElem?_append_right (Nat.le_of_not_lt before), unmade,
      List.getElem?_singleton]
    split
    · have last : time = history.length := by omega
      simp [last]
    · have beyond : time ≠ history.length := by omega
      simp [beyond]

/-- What lasts goes on lasting unless it is removed now. -/
theorem lasts_snoc_iff {key : String} (before : time < history.length) :
    Lasts (history ++ [edit]) time key ↔ Lasts history time key ∧ edit ≠ .remove key := by
  constructor
  · intro lasts
    refine ⟨fun later after removed => lasts later after ?_, fun removed => ?_⟩
    · exact at_snoc_iff.mpr (.inl removed)
    · exact lasts history.length before (at_snoc_iff.mpr (.inr ⟨rfl, removed⟩))
  · rintro ⟨lasts, kept⟩ later after removed
    rcases at_snoc_iff.mp removed with removed | ⟨-, removed⟩
    · exact lasts later after removed
    · exact kept removed

/-- Nothing comes after the last change. -/
theorem lasts_last (key : String) : Lasts (history ++ [edit]) history.length key := by
  intro later after removed
  have inside := lt_of_at removed
  rw [List.length_append, List.length_singleton] at inside
  omega

/-! ### One change more -/

theorem present_write_iff {text : Text} {value : α} {key : String} :
    Present (history ++ [.write text value]) key ↔ text.content = key ∨ Present history key := by
  constructor
  · rintro ⟨time, name, old, made, named, lasts⟩
    rcases at_snoc_iff.mp made with made | ⟨-, same⟩
    · exact .inr ⟨time, name, old, made, named, ((lasts_snoc_iff (lt_of_at made)).mp lasts).1⟩
    · obtain ⟨rfl, -⟩ := Edit.write.inj same
      exact .inl named
  · rintro (named | ⟨time, name, old, made, named, lasts⟩)
    · exact ⟨history.length, text, value, at_snoc_iff.mpr (.inr ⟨rfl, rfl⟩), named,
        lasts_last key⟩
    · exact ⟨time, name, old, at_snoc_iff.mpr (.inl made), named,
        (lasts_snoc_iff (lt_of_at made)).mpr ⟨lasts, nofun⟩⟩

theorem present_remove_iff {removed key : String} :
    Present (history ++ [.remove removed]) key ↔ removed ≠ key ∧ Present history key := by
  constructor
  · rintro ⟨time, name, old, made, named, lasts⟩
    rcases at_snoc_iff.mp made with made | ⟨-, same⟩
    · obtain ⟨lasted, kept⟩ := (lasts_snoc_iff (lt_of_at made)).mp lasts
      exact ⟨fun same => kept (congrArg Edit.remove same), time, name, old, made, named, lasted⟩
    · exact nomatch same
  · rintro ⟨differs, time, name, old, made, named, lasts⟩
    exact ⟨time, name, old, at_snoc_iff.mpr (.inl made), named,
      (lasts_snoc_iff (lt_of_at made)).mpr ⟨lasts, fun same => differs (Edit.remove.inj same)⟩⟩

/-- A change leaves the last change of every other key what it was. -/
theorem reads_snoc_of_ne {key : String} {value : α} (differs : edit.key ≠ key) :
    Reads (history ++ [edit]) key value ↔ Reads history key value := by
  constructor
  · rintro ⟨time, text, made, named, last⟩
    rcases at_snoc_iff.mp made with made | ⟨-, same⟩
    · exact ⟨time, text, made, named, fun later other after made' =>
        last later other after (at_snoc_iff.mpr (.inl made'))⟩
    · exact absurd (same ▸ named) differs
  · rintro ⟨time, text, made, named, last⟩
    refine ⟨time, text, at_snoc_iff.mpr (.inl made), named, fun later other after made' => ?_⟩
    rcases at_snoc_iff.mp made' with made' | ⟨-, same⟩
    · exact last later other after made'
    · exact same ▸ differs

/-- The key that is changed now reads as what it gets. -/
theorem reads_snoc_self {value : α} :
    Reads (history ++ [edit]) edit.key value ↔ ∃ text, edit = .write text value := by
  constructor
  · rintro ⟨time, text, made, -, last⟩
    rcases at_snoc_iff.mp made with made | ⟨-, same⟩
    · have latest := last history.length edit (lt_of_at made) (at_snoc_iff.mpr (.inr ⟨rfl, rfl⟩))
      exact absurd rfl latest
    · exact ⟨text, same⟩
  · rintro ⟨text, rfl⟩
    refine ⟨history.length, text, at_snoc_iff.mpr (.inr ⟨rfl, rfl⟩), rfl, ?_⟩
    intro later other after made
    have inside := lt_of_at made
    rw [List.length_append, List.length_singleton] at inside
    omega

namespace BornAt

variable {key : Text}

/-- The write that made a key present goes on being that until the key is removed. -/
theorem snoc (born : BornAt history time key) (kept : edit ≠ .remove key.content) :
    BornAt (history ++ [edit]) time key := by
  obtain ⟨⟨value, made⟩, absent, lasts⟩ := born
  have before := lt_of_at made
  refine ⟨⟨value, at_snoc_iff.mpr (.inl made)⟩, ?_, (lasts_snoc_iff before).mpr ⟨lasts, kept⟩⟩
  rw [List.take_append_of_le_length (Nat.le_of_lt before)]
  exact absent

/-- A write of an absent key makes it present. -/
theorem last (value : α) (absent : ¬ Present history key.content) :
    BornAt (history ++ [.write key value]) history.length key := by
  refine ⟨⟨value, at_snoc_iff.mpr (.inr ⟨rfl, rfl⟩)⟩, ?_, lasts_last _⟩
  rw [List.take_left]
  exact absent

/-- Only one write last made a key present. -/
theorem unique {other : Text} {again : Nat} (born : BornAt history time key)
    (born' : BornAt history again other) (same : key.content = other.content) : time = again := by
  -- The earlier of two such writes would make the key present at the later one.
  have first : ∀ {early late : Nat} {one two : Text}, BornAt history early one →
      BornAt history late two → one.content = two.content → ¬ early < late := by
    rintro early late one two ⟨⟨value, made⟩, -, lasts⟩ ⟨-, absent, -⟩ same lt
    refine absent ⟨early, one, value, ?_, same, fun later after removed => ?_⟩
    · rw [List.getElem?_take_of_lt lt, made]
    · have inside : later < late := by
        have bound := lt_of_at removed
        rw [List.length_take] at bound
        omega
      rw [List.getElem?_take_of_lt inside, ← same] at removed
      exact lasts later after removed
  have notBefore := first born born' same
  have notAfter := first born' born same.symm
  omega

end BornAt

/-! ### Tables that keep their history -/

/-- The table holds what the history says.  Keys are listed once each, with the text that made them
    present, in the order of the writes that last did so. -/
structure Keeps (history : List (Edit α)) (table : Table α) : Prop where
  reads : ∀ key value, table.find? key = some value ↔ Reads history key value
  lists : ∀ key, key ∈ table.names ↔ Present history key
  once : table.Distinct
  born : ∀ key ∈ table.keys, ∃ time, BornAt history time key
  ordered : table.keys.Pairwise fun key other =>
    ∃ earlier later, BornAt history earlier key ∧ BornAt history later other ∧ earlier < later

/-- A table without keys keeps the history in which nothing happened. -/
theorem keeps_nil : Keeps ([] : List (Edit α)) empty where
  reads := by
    refine fun key value => ⟨nofun, ?_⟩
    rintro ⟨time, text, made, -⟩
    exact nomatch made
  lists := by
    refine fun key => ⟨nofun, ?_⟩
    rintro ⟨time, text, value, made, -⟩
    exact nomatch made
  once := Distinct.empty
  born := nofun
  ordered := .nil

namespace Keeps

variable {table : Table α} (keeps : Keeps history table)
include keeps

theorem contains_iff (key : String) : table.contains key = true ↔ Present history key := by
  rw [← keeps.lists, mem_names_iff, contains]

theorem find?_eq_none {key : String} (absent : ¬ Present history key) : table.find? key = none := by
  rw [← Option.not_isSome_iff_eq_none]
  exact fun there => absent ((keeps.contains_iff key).mp there)

/-- Whatever times the writes have that last made two keys present, they are in this order. -/
theorem listed_in_order : table.keys.Pairwise fun key other => ∀ earlier later,
    BornAt history earlier key → BornAt history later other → earlier < later := by
  refine keeps.ordered.imp ?_
  rintro key other ⟨first, second, born, born', lt⟩ earlier later again again'
  rw [again.unique born rfl, again'.unique born' rfl]
  exact lt

/-- What is read in it after one change more, whichever it is. -/
theorem reads_apply (edit : Edit α) (key : String) (value : α) :
    (edit.apply table).find? key = some value ↔ Reads (history ++ [edit]) key value := by
  by_cases same : edit.key = key
  · subst same
    rw [reads_snoc_self]
    cases edit with
    | write text new =>
      show (table.put text new).find? text.content = some value ↔ _
      rw [find?_put, if_pos rfl, Option.some_inj]
      exact ⟨fun equal => ⟨text, equal ▸ rfl⟩, fun ⟨_, equal⟩ => (Edit.write.inj equal).2⟩
    | remove removed =>
      show (table.erase removed).find? removed = some value ↔ _
      rw [find?_erase table keeps.once, if_pos rfl]
      exact ⟨nofun, fun ⟨_, equal⟩ => nomatch equal⟩
  · rw [reads_snoc_of_ne same, ← keeps.reads]
    cases edit with
    | write text new =>
      have differs : ¬ text.content = key := same
      rw [Edit.apply, find?_put, if_neg differs]
    | remove removed =>
      have differs : ¬ removed = key := same
      rw [Edit.apply, find?_erase table keeps.once, if_neg differs]

/-- **One write more.**  A key that is present stays where it is; one that is absent becomes the
    last. -/
theorem write (key : Text) (value : α) :
    Keeps (history ++ [.write key value]) (table.put key value) := by
  have once : (table.put key value).Distinct := keeps.once.put key value
  have reads := keeps.reads_apply (.write key value)
  have lists : ∀ name, name ∈ (table.put key value).names
      ↔ Present (history ++ [.write key value]) name := by
    intro name
    rw [present_write_iff, ← keeps.lists, mem_names_iff, mem_names_iff, find?_put]
    by_cases same : key.content = name
    · simp [same]
    · simp [same]
  have survives : ∀ {name : Text} {time : Nat}, BornAt history time name →
      BornAt (history ++ [.write key value]) time name := fun born => born.snoc nofun
  have older : table.keys.Pairwise fun one two => ∃ earlier later,
      BornAt (history ++ [.write key value]) earlier one
        ∧ BornAt (history ++ [.write key value]) later two ∧ earlier < later := by
    refine keeps.ordered.imp ?_
    rintro one two ⟨earlier, later, born, born', lt⟩
    exact ⟨earlier, later, survives born, survives born', lt⟩
  have bornBefore : ∀ name ∈ table.keys,
      ∃ time, BornAt (history ++ [.write key value]) time name ∧ time < history.length := by
    intro name mem
    obtain ⟨time, born⟩ := keeps.born name mem
    obtain ⟨old, made⟩ := born.1
    exact ⟨time, survives born, lt_of_at made⟩
  by_cases present : table.contains key.content = true
  · have keys := keys_put_of_contains key value present
    refine ⟨reads, lists, once, ?_, ?_⟩
    · intro name mem
      obtain ⟨time, born, -⟩ := bornBefore name (keys ▸ mem)
      exact ⟨time, born⟩
    · rw [keys]
      exact older
  · have keys := keys_put_of_not_contains key value (Bool.eq_false_iff.mpr present)
    have new : BornAt (history ++ [.write key value]) history.length key :=
      .last value fun there => present ((keeps.contains_iff key.content).mpr there)
    refine ⟨reads, lists, once, ?_, ?_⟩
    · intro name mem
      rw [keys, List.mem_append, List.mem_singleton] at mem
      rcases mem with mem | rfl
      · obtain ⟨time, born, -⟩ := bornBefore name mem
        exact ⟨time, born⟩
      · exact ⟨history.length, new⟩
    · rw [keys, List.pairwise_append]
      refine ⟨older, List.pairwise_singleton _ _, ?_⟩
      intro name mem last isLast
      rw [List.mem_singleton] at isLast
      subst isLast
      obtain ⟨time, born, before⟩ := bornBefore name mem
      exact ⟨time, history.length, born, new, before⟩

/-- **One removal more.**  The other keys stay in their order. -/
theorem remove (removed : String) :
    Keeps (history ++ [.remove removed]) (table.erase removed) := by
  have once : (table.erase removed).Distinct := keeps.once.erase removed
  have rest : (table.erase removed).keys.Sublist table.keys :=
    (eraseIn_sublist removed table.entries).map _
  have lists : ∀ name, name ∈ (table.erase removed).names
      ↔ Present (history ++ [.remove removed]) name := by
    intro name
    rw [present_remove_iff, ← keeps.lists, mem_names_iff, mem_names_iff,
      find?_erase table keeps.once]
    by_cases same : removed = name
    · simp [same]
    · simp [same]
  have survives : ∀ name ∈ (table.erase removed).keys, ∀ {time : Nat},
      BornAt history time name → BornAt (history ++ [.remove removed]) time name := by
    intro name mem time born
    have listed := (lists name.content).mp (List.mem_map_of_mem mem)
    exact born.snoc fun same => (present_remove_iff.mp listed).1 (Edit.remove.inj same)
  refine ⟨keeps.reads_apply (.remove removed), lists, once, ?_, ?_⟩
  · intro name mem
    obtain ⟨time, born⟩ := keeps.born name (rest.subset mem)
    exact ⟨time, survives name mem born⟩
  · refine (keeps.ordered.sublist rest).imp_of_mem ?_
    rintro one two mem mem' ⟨earlier, later, born, born', lt⟩
    exact ⟨earlier, later, survives one mem born, survives two mem' born', lt⟩

theorem apply (edit : Edit α) : Keeps (history ++ [edit]) (edit.apply table) := by
  cases edit with
  | write key value => exact keeps.write key value
  | remove key => exact keeps.remove key

/-- **Many changes more.** -/
theorem edited (edits : List (Edit α)) : Keeps (history ++ edits) (table.edited edits) := by
  induction edits generalizing history table with
  | nil =>
    rw [List.append_nil]
    exact keeps
  | cons edit rest ih =>
    rw [List.append_cons]
    exact ih (keeps.apply edit)

end Keeps

/-- Making the entries of a table again makes the table. -/
theorem edited_written {table : Table α} (distinct : table.Distinct) :
    empty.edited table.written = table := by
  have remade : empty.edited table.written = ofList table.entries := List.foldl_map
  have names : (table.entries.map fun entry => entry.1.content) = table.names := by
    rw [Table.names, keys, List.map_map]
    rfl
  obtain ⟨entries⟩ := table
  rw [remade]
  exact congrArg Table.mk (entries_ofList (names ▸ distinct))

/-- Any table with different keys keeps the history that starts with its entries. -/
theorem keeps_edited {table : Table α} (distinct : table.Distinct) (edits : List (Edit α)) :
    Keeps (table.written ++ edits) (table.edited edits) := by
  have start : Keeps table.written table := by
    have made := keeps_nil.edited table.written
    rwa [List.nil_append, edited_written distinct] at made
  exact start.edited edits

/-- To write an absent key and remove it again changes nothing. -/
theorem erase_put_of_not_contains {table : Table α} (key : Text) (value : α)
    (absent : table.contains key.content = false) :
    (table.put key value).erase key.content = table := by
  obtain ⟨entries⟩ := table
  refine congrArg Table.mk ?_
  show eraseIn key.content (putIn key value entries) = entries
  simp only [contains, find?] at absent
  induction entries with
  | nil => rw [putIn, eraseIn, if_pos rfl]
  | cons entry rest ih =>
    obtain ⟨name, old⟩ := entry
    by_cases same : name.content = key.content
    · simp [findIn?, same] at absent
    · simp only [findIn?, same, ↓reduceIte] at absent
      simp only [putIn, same, ↓reduceIte, eraseIn, ih absent]

end Table

end SlotTalk
