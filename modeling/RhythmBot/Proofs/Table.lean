import Mathlib.Data.List.Forall2
import RhythmBot.Table
/-!
The entries of a table as what its look-ups find, searches that do not depend on the order of the
entries, and tables that hold related values under the same keys.
-/

namespace RhythmBot

variable {α β : Type}

theorem entryValue?_eq_some {key : String} {value : α} {entries : List (String × α)}
    (distinct : (entries.map Prod.fst).Nodup) :
    entryValue? key entries = some value ↔ (key, value) ∈ entries := by
  induction entries with
  | nil => simp [entryValue?]
  | cons entry rest ih =>
    obtain ⟨name, old⟩ := entry
    simp only [List.map_cons, List.nodup_cons] at distinct
    unfold entryValue?
    split
    · rename_i same
      subst same
      constructor
      · intro found
        cases found
        exact List.mem_cons_self
      · intro member
        rcases List.mem_cons.1 member with same | later
        · cases same
          rfl
        · exact absurd (List.mem_map_of_mem (f := Prod.fst) later) distinct.1
    · rename_i different
      rw [ih distinct.2, List.mem_cons]
      exact ⟨.inr, fun member => member.resolve_left fun same => different (by cases same; rfl)⟩

theorem putEntry_of_not_mem {key : String} {value : α} {entries : List (String × α)}
    (fresh : key ∉ entries.map Prod.fst) :
    putEntry key value entries = entries ++ [(key, value)] := by
  induction entries with
  | nil => rfl
  | cons entry rest ih =>
    obtain ⟨name, old⟩ := entry
    simp only [List.map_cons, List.mem_cons, not_or] at fresh
    rw [putEntry, if_neg (Ne.symm fresh.1), ih fresh.2, List.cons_append]

theorem mem_putEntry {key : String} {value : α} {entries : List (String × α)}
    {entry : String × α} (member : entry ∈ putEntry key value entries) :
    entry = (key, value) ∨ entry ∈ entries := by
  induction entries with
  | nil => exact .inl (List.mem_singleton.1 member)
  | cons first rest ih =>
    unfold putEntry at member
    split at member
    · rename_i same
      rcases List.mem_cons.1 member with rfl | later
      · exact .inl (by rw [same])
      · exact .inr (List.mem_cons_of_mem _ later)
    · rcases List.mem_cons.1 member with rfl | later
      · exact .inr List.mem_cons_self
      · exact (ih later).imp_right (List.mem_cons_of_mem _)

namespace Table

theorem eq_of_entries {first second : Table α} (same : first.entries = second.entries) :
    first = second := by
  cases first
  cases second
  cases same
  rfl

theorem entries_foldl_insert {table : Table α} {entries : List (String × α)}
    (distinct : ((table.entries ++ entries).map Prod.fst).Nodup) :
    (entries.foldl (fun table entry => table.insert entry.1 entry.2) table).entries =
      table.entries ++ entries := by
  induction entries generalizing table with
  | nil => simp
  | cons entry rest ih =>
    obtain ⟨key, value⟩ := entry
    have fresh : key ∉ table.entries.map Prod.fst := by
      rw [List.map_append, List.nodup_append] at distinct
      intro member
      exact distinct.2.2 key member key (by simp) rfl
    have filed : (table.insert key value).entries = table.entries ++ [(key, value)] :=
      putEntry_of_not_mem fresh
    rw [List.foldl_cons, ih (by rwa [filed, List.append_assoc, List.singleton_append]), filed,
      List.append_assoc, List.singleton_append]

/-- Filing entries adds no others. -/
theorem mem_foldl_insert {entries : List (String × α)} {table : Table α}
    {entry : String × α}
    (member : entry ∈
      (entries.foldl (fun table entry => table.insert entry.1 entry.2) table).entries) :
    entry ∈ entries ∨ entry ∈ table.entries := by
  induction entries generalizing table with
  | nil => exact .inr member
  | cons first rest ih =>
    rcases ih member with later | filed
    · exact .inl (List.mem_cons_of_mem _ later)
    · rcases mem_putEntry filed with rfl | old
      · exact .inl List.mem_cons_self
      · exact .inr old

/-- Filing the entries of a table one after the other makes the table again. -/
theorem ofList_entries (table : Table α) : ofList table.entries = table := by
  apply eq_of_entries
  exact entries_foldl_insert table.distinct

/-- The entries of a table are what its look-ups find. -/
theorem find?_eq_some {table : Table α} {key : String} {value : α} :
    table.find? key = some value ↔ (key, value) ∈ table.entries :=
  entryValue?_eq_some table.distinct

theorem find?_of_search? {table : Table α} {holds : α → Bool} {key : String} {value : α}
    (found : table.search? holds = some (key, value)) :
    table.find? key = some value ∧ holds value = true := by
  have satisfied := List.find?_some found
  exact ⟨find?_eq_some.2 (List.mem_of_find?_eq_some found), satisfied⟩

theorem holds_false_of_search?_eq_none {table : Table α} {holds : α → Bool}
    (none : table.search? holds = none) {key : String} {value : α}
    (found : table.find? key = some value) : holds value = false := by
  have unsatisfied := List.find?_eq_none.1 none (key, value) (find?_eq_some.1 found)
  simpa using unsatisfied

/-- Where at most one entry satisfies a condition, the search finds it in any order of the entries.
-/
theorem search?_of_perm {table : Table α} (holds : α → Bool) {order : List (String × α)}
    (reordered : order.Perm table.entries)
    (unique : ∀ first ∈ table.entries, ∀ second ∈ table.entries,
      holds first.2 = true → holds second.2 = true → first = second) :
    (order.find? fun entry => holds entry.2) = table.search? holds := by
  unfold search?
  cases found : order.find? fun entry => holds entry.2 with
  | none =>
    symm
    rw [List.find?_eq_none] at found ⊢
    intro entry member
    exact found entry (reordered.mem_iff.2 member)
  | some entry =>
    have member := reordered.mem_iff.1 (List.mem_of_find?_eq_some found)
    have satisfied := List.find?_some found
    cases other : table.entries.find? fun entry => holds entry.2 with
    | none => exact absurd satisfied (List.find?_eq_none.1 other entry member)
    | some second =>
      rw [unique entry member second (List.mem_of_find?_eq_some other) satisfied
        (List.find?_some (p := fun entry : String × α => holds entry.2) other)]

end Table

def Alike (related : α → β → Prop) (first : String × α) (second : String × β) : Prop :=
  first.1 = second.1 ∧ related first.2 second.2

section Alike

variable {related : α → β → Prop}

theorem keys_eq_of_alike {first : List (String × α)} {second : List (String × β)}
    (alike : List.Forall₂ (Alike related) first second) :
    second.map Prod.fst = first.map Prod.fst := by
  induction alike with
  | nil => rfl
  | cons same _ ih => rw [List.map_cons, List.map_cons, same.1, ih]

theorem rel_find?_of_alike {first : Table α} {second : Table β}
    (alike : List.Forall₂ (Alike related) first.entries second.entries) (key : String) :
    Option.Rel related (first.find? key) (second.find? key) := by
  unfold Table.find?
  generalize first.entries = entries at alike ⊢
  generalize second.entries = others at alike ⊢
  induction alike with
  | nil => exact .none
  | @cons entry other _ _ same _ ih =>
    obtain ⟨name, value⟩ := entry
    obtain ⟨_, otherValue⟩ := other
    obtain ⟨rfl, held⟩ := same
    unfold entryValue?
    split
    · exact .some held
    · exact ih

end Alike

end RhythmBot
