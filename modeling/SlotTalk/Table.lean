import SlotTalk.Text

namespace SlotTalk

/-!
# Tables in order of insertion

Slots of an object, variables of a frame and entries of a map are all kept the same way: keys in the
order in which they became present.  Keys are texts, found by their content; the text that made a
key present stays the key.

* `Table.put` keeps a key that is present, text and place, and appends one that is not.
* `Table.erase` keeps the order of the rest.
* `find?_put`, `find?_erase` — reading after each of them, through the view `Table.find?`.
* `keys_put_of_contains`, `keys_put_of_not_contains` — the order of the keys after a write.
* `Distinct.put`, `Distinct.erase`, `Distinct.ofList` — no key ever occurs twice.
* `entries_ofList` — entries with different keys are all kept.
* `Table.All` — what is true of all values, with what keeps it so.
-/

/-- Values by key, in the order in which the keys became present. -/
structure Table (α : Type) where
  entries : List (Text × α) := []
  deriving Repr, Inhabited

namespace Table

variable {α : Type}

/-- The table without keys. -/
def empty : Table α := {}

/-- The first entry of a key. -/
def findIn? (key : String) : List (Text × α) → Option α
  | [] => none
  | (k, v) :: rest => if k.content = key then some v else findIn? key rest

/-- Overwrite the first entry of a key, or append one. -/
def putIn (key : Text) (value : α) : List (Text × α) → List (Text × α)
  | [] => [(key, value)]
  | (k, v) :: rest =>
    if k.content = key.content then (k, value) :: rest else (k, v) :: putIn key value rest

/-- Drop the first entry of a key. -/
def eraseIn (key : String) : List (Text × α) → List (Text × α)
  | [] => []
  | (k, v) :: rest => if k.content = key then rest else (k, v) :: eraseIn key rest

/-- The value of a key. -/
def find? (table : Table α) (key : String) : Option α := findIn? key table.entries

/-- A key is present. -/
def contains (table : Table α) (key : String) : Bool := (table.find? key).isSome

/-- Give a key a value. -/
def put (table : Table α) (key : Text) (value : α) : Table α :=
  ⟨putIn key value table.entries⟩

/-- Make a key absent. -/
def erase (table : Table α) (key : String) : Table α := ⟨eraseIn key table.entries⟩

/-- The keys in order. -/
def keys (table : Table α) : List Text := table.entries.map Prod.fst

/-- The contents of the keys in order. -/
def names (table : Table α) : List String := table.keys.map Text.content

/-- Number of keys. -/
def size (table : Table α) : Nat := table.entries.length

/-- Put the entries one after the other. -/
def ofList (entries : List (Text × α)) : Table α :=
  entries.foldl (fun table entry => table.put entry.1 entry.2) empty

/-- Each key occurs once. -/
def Distinct (table : Table α) : Prop := table.names.Nodup

theorem findIn?_putIn (key : Text) (other : String) (value : α) (entries : List (Text × α)) :
    findIn? other (putIn key value entries)
      = if key.content = other then some value else findIn? other entries := by
  induction entries with
  | nil => simp [putIn, findIn?]
  | cons entry rest ih => grind [putIn, findIn?]

/-- Reading after a write. -/
theorem find?_put (table : Table α) (key : Text) (other : String) (value : α) :
    (table.put key value).find? other
      = if key.content = other then some value else table.find? other :=
  findIn?_putIn key other value table.entries

/-- A key that is present keeps its place, and its text, when it is given another value. -/
theorem keys_put_of_contains {table : Table α} (key : Text) (value : α)
    (present : table.contains key.content) : (table.put key value).keys = table.keys := by
  obtain ⟨entries⟩ := table
  simp only [contains, find?, keys, put] at present ⊢
  induction entries with
  | nil => exact nomatch present
  | cons entry rest ih =>
    obtain ⟨name, old⟩ := entry
    by_cases same : name.content = key.content
    · simp [putIn, same]
    · simp only [findIn?, same, ↓reduceIte] at present
      simp [putIn, same, ih present]

/-- A key that is absent becomes the last one. -/
theorem keys_put_of_not_contains {table : Table α} (key : Text) (value : α)
    (absent : table.contains key.content = false) :
    (table.put key value).keys = table.keys ++ [key] := by
  obtain ⟨entries⟩ := table
  simp only [contains, find?, keys, put] at absent ⊢
  induction entries with
  | nil => rfl
  | cons entry rest ih =>
    obtain ⟨name, old⟩ := entry
    by_cases same : name.content = key.content
    · simp [findIn?, same] at absent
    · simp only [findIn?, same, ↓reduceIte] at absent
      simp [putIn, same, ih absent]

theorem mem_names_iff (table : Table α) (key : String) :
    key ∈ table.names ↔ (table.find? key).isSome := by
  obtain ⟨entries⟩ := table
  simp only [names, keys, find?]
  induction entries with
  | nil => simp [findIn?]
  | cons entry rest ih => grind [findIn?]

theorem findIn?_eraseIn (key other : String) (entries : List (Text × α))
    (h : ((entries.map Prod.fst).map Text.content).Nodup) :
    findIn? other (eraseIn key entries)
      = if key = other then none else findIn? other entries := by
  induction entries with
  | nil => simp [eraseIn, findIn?]
  | cons entry rest ih =>
    obtain ⟨k, v⟩ := entry
    simp only [List.map_cons, List.nodup_cons] at h
    have absent : k.content ∉ (rest.map Prod.fst).map Text.content →
        findIn? k.content rest = none := by
      intro hk
      rw [← Option.not_isSome_iff_eq_none]
      exact fun present => hk ((mem_names_iff ⟨rest⟩ k.content).mpr present)
    grind [eraseIn, findIn?]

/-- Reading after a key was made absent. -/
theorem find?_erase (table : Table α) (h : table.Distinct) (key other : String) :
    (table.erase key).find? other = if key = other then none else table.find? other :=
  findIn?_eraseIn key other table.entries h

/-! ### Distinct keys -/

theorem eraseIn_sublist (key : String) (entries : List (Text × α)) :
    (eraseIn key entries).Sublist entries := by
  induction entries with
  | nil => exact .slnil
  | cons entry rest ih =>
    rw [eraseIn]
    split
    · exact List.sublist_cons_self entry rest
    · exact ih.cons_cons entry

namespace Distinct

theorem empty : (Table.empty : Table α).Distinct := List.nodup_nil

variable {table : Table α} (distinct : table.Distinct)
include distinct

theorem put (key : Text) (value : α) : (table.put key value).Distinct := by
  cases present : table.contains key.content with
  | true =>
    rw [Distinct, names, keys_put_of_contains key value present]
    exact distinct
  | false =>
    have new : key.content ∉ table.names := by
      rw [mem_names_iff]
      exact Bool.eq_false_iff.mp present
    have last : [key.content].Nodup := by simp
    rw [Distinct, names, keys_put_of_not_contains key value present, List.map_append,
      List.nodup_append]
    refine ⟨distinct, last, fun name mem other same => ?_⟩
    rw [List.mem_singleton.mp same]
    exact fun equal => new (equal ▸ mem)

theorem erase (key : String) : (table.erase key).Distinct :=
  (((eraseIn_sublist key table.entries).map _).map _).nodup distinct

omit distinct in
theorem ofList (entries : List (Text × α)) : (Table.ofList entries).Distinct := by
  suffices grown : ∀ table : Table α, table.Distinct →
      (entries.foldl (fun table entry => table.put entry.1 entry.2) table).Distinct from
    grown Table.empty empty
  induction entries with
  | nil => exact fun _ held => held
  | cons entry rest ih => exact fun table held => ih _ (held.put entry.1 entry.2)

end Distinct

/-- An entry with a new key goes after the others. -/
theorem putIn_of_not_mem {key : Text} {value : α} {entries : List (Text × α)}
    (absent : key.content ∉ entries.map fun entry => entry.1.content) :
    putIn key value entries = entries ++ [(key, value)] := by
  induction entries with
  | nil => rfl
  | cons entry rest ih =>
    simp only [List.map_cons, List.mem_cons, not_or] at absent
    rw [putIn, if_neg (Ne.symm absent.1), ih absent.2, List.cons_append]

/-- Entries with different keys are all kept, in their order. -/
theorem entries_ofList {entries : List (Text × α)}
    (distinct : (entries.map fun entry => entry.1.content).Nodup) :
    (ofList entries).entries = entries := by
  have appended : ∀ (rest before : List (Text × α)),
      ((before ++ rest).map fun entry => entry.1.content).Nodup →
      (rest.foldl (fun table entry => table.put entry.1 entry.2) ⟨before⟩ : Table α).entries
        = before ++ rest := by
    intro rest
    induction rest with
    | nil => exact fun before _ => (List.append_nil before).symm
    | cons entry rest ih =>
      intro before distinct
      have new : entry.1.content ∉ before.map fun entry => entry.1.content := by
        rw [List.map_append, List.map_cons, List.nodup_append] at distinct
        exact fun mem => distinct.2.2 _ mem _ List.mem_cons_self rfl
      have put : (⟨before⟩ : Table α).put entry.1 entry.2 = ⟨before ++ [entry]⟩ :=
        congrArg Table.mk (putIn_of_not_mem new)
      rw [List.append_cons] at distinct ⊢
      rw [List.foldl_cons, put]
      exact ih (before ++ [entry]) distinct
  exact appended entries [] distinct

/-! ### All values -/

/-- All values of the table have the property. -/
def All (property : α → Prop) (table : Table α) : Prop :=
  ∀ entry ∈ table.entries, property entry.2

namespace All

variable {property : α → Prop} {table : Table α}

theorem empty : (Table.empty : Table α).All property := nofun

theorem find? (all : table.All property) {key : String} {value : α}
    (found : table.find? key = some value) : property value := by
  obtain ⟨entries⟩ := table
  induction entries with
  | nil => exact nomatch found
  | cons entry rest ih =>
    obtain ⟨k, v⟩ := entry
    simp only [Table.find?, findIn?] at found
    split at found
    · obtain rfl := Option.some.inj found
      exact all (k, v) List.mem_cons_self
    · exact ih (fun entry mem => all entry (List.mem_cons_of_mem _ mem)) found

theorem put (all : table.All property) (key : Text) {value : α} (new : property value) :
    (table.put key value).All property := by
  obtain ⟨entries⟩ := table
  show ∀ entry ∈ putIn key value entries, property entry.2
  induction entries with
  | nil => exact List.forall_mem_singleton.mpr new
  | cons entry rest ih =>
    obtain ⟨first, others⟩ := List.forall_mem_cons.mp all
    rw [putIn]
    split
    · exact List.forall_mem_cons.mpr ⟨new, others⟩
    · exact List.forall_mem_cons.mpr ⟨first, ih others⟩

theorem erase (all : table.All property) (key : String) : (table.erase key).All property := by
  obtain ⟨entries⟩ := table
  show ∀ entry ∈ eraseIn key entries, property entry.2
  induction entries with
  | nil => exact nofun
  | cons entry rest ih =>
    obtain ⟨first, others⟩ := List.forall_mem_cons.mp all
    rw [eraseIn]
    split
    · exact others
    · exact List.forall_mem_cons.mpr ⟨first, ih others⟩

theorem ofList {entries : List (Text × α)} (all : ∀ entry ∈ entries, property entry.2) :
    (Table.ofList entries).All property := by
  suffices grown : ∀ table : Table α, table.All property →
      (entries.foldl (fun table entry => table.put entry.1 entry.2) table).All property from
    grown Table.empty empty
  induction entries with
  | nil => exact fun _ held => held
  | cons entry rest ih =>
    obtain ⟨first, others⟩ := List.forall_mem_cons.mp all
    exact fun table held => ih others (table.put entry.1 entry.2) (held.put entry.1 first)

end All

end Table

end SlotTalk
