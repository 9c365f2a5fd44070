/-!
Tables: values filed under text keys, each key once, in the order in which the keys first came.
-/

namespace RhythmBot

/-- Files a value under a key, in the place of the value already there or else at the end. -/
def putEntry {α : Type} (key : String) (value : α) : List (String × α) → List (String × α)
  | [] => [(key, value)]
  | (name, old) :: rest =>
    if name = key then (name, value) :: rest else (name, old) :: putEntry key value rest

def entryValue? {α : Type} (key : String) : List (String × α) → Option α
  | [] => none
  | (name, value) :: rest => if name = key then some value else entryValue? key rest

structure Table (α : Type) where
  entries : List (String × α)
  distinct : (entries.map Prod.fst).Nodup

namespace Table

variable {α β : Type}

def empty : Table α := ⟨[], by simp⟩

instance : Inhabited (Table α) := ⟨empty⟩

def find? (table : Table α) (key : String) : Option α :=
  entryValue? key table.entries

def keys (table : Table α) : List String :=
  table.entries.map Prod.fst

theorem mem_keys_putEntry {key name : String} {value : α} {entries : List (String × α)} :
    name ∈ (putEntry key value entries).map Prod.fst ↔
      name = key ∨ name ∈ entries.map Prod.fst := by
  induction entries with
  | nil => simp [putEntry]
  | cons entry rest ih =>
    obtain ⟨head, old⟩ := entry
    unfold putEntry
    split
    · rename_i same
      subst same
      simp
    · simp only [List.map_cons, List.mem_cons, ih]
      exact ⟨fun h => h.elim (.inr ∘ .inl) (·.elim .inl (.inr ∘ .inr)),
        fun h => h.elim (.inr ∘ .inl) (·.elim .inl (.inr ∘ .inr))⟩

theorem distinct_putEntry {key : String} {value : α} {entries : List (String × α)}
    (distinct : (entries.map Prod.fst).Nodup) :
    ((putEntry key value entries).map Prod.fst).Nodup := by
  induction entries with
  | nil => simp [putEntry]
  | cons entry rest ih =>
    obtain ⟨head, old⟩ := entry
    simp only [List.map_cons, List.nodup_cons] at distinct
    unfold putEntry
    split
    · simpa using distinct
    · rename_i different
      simp only [List.map_cons, List.nodup_cons, mem_keys_putEntry, not_or]
      exact ⟨⟨different, distinct.1⟩, ih distinct.2⟩

def insert (table : Table α) (key : String) (value : α) : Table α :=
  ⟨putEntry key value table.entries, distinct_putEntry table.distinct⟩

def erase (table : Table α) (key : String) : Table α where
  entries := table.entries.filter fun entry => entry.1 != key
  distinct := table.distinct.sublist ((List.filter_sublist).map Prod.fst)

/-- Files entries one after the other, so that of two under one key the later stays. -/
def ofList (entries : List (String × α)) : Table α :=
  entries.foldl (fun table entry => table.insert entry.1 entry.2) empty

def search? (table : Table α) (holds : α → Bool) : Option (String × α) :=
  table.entries.find? fun entry => holds entry.2

@[simp] theorem find?_empty (key : String) : (empty : Table α).find? key = none := rfl

theorem entryValue?_putEntry (key name : String) (value : α) (entries : List (String × α)) :
    entryValue? name (putEntry key value entries) =
      if name = key then some value else entryValue? name entries := by
  induction entries with
  | nil => simp [putEntry, entryValue?, eq_comm]
  | cons entry rest ih =>
    obtain ⟨head, old⟩ := entry
    unfold putEntry
    split
    · rename_i found
      subst found
      by_cases same : name = head
      · simp [entryValue?, same]
      · simp [entryValue?, same, Ne.symm same]
    · rename_i different
      simp only [entryValue?, ih]
      by_cases same : head = name
      · subst same
        simp [different]
      · simp [same]

@[simp] theorem find?_insert (table : Table α) (key name : String) (value : α) :
    (table.insert key value).find? name = if name = key then some value else table.find? name :=
  entryValue?_putEntry key name value table.entries

@[simp] theorem find?_erase (table : Table α) (key name : String) :
    (table.erase key).find? name = if name = key then none else table.find? name := by
  unfold find? erase
  simp only
  induction table.entries with
  | nil => simp [entryValue?]
  | cons entry rest ih =>
    obtain ⟨head, value⟩ := entry
    by_cases gone : head = key
    · subst gone
      by_cases same : name = head
      · subst same
        simpa using ih
      · simp [entryValue?, ih, same, Ne.symm same]
    · by_cases same : head = name
      · subst same
        simp [entryValue?, gone]
      · simp [entryValue?, gone, same, ih]

end Table

end RhythmBot
