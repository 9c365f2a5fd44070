import RhythmBot.Json.Shape
import RhythmBot.Proofs.Table
/-!
Lists and tables read back from their documents. Main statement: a table is read with the keys it was
written with if each of its values is read, and is refused if one of them is.
-/

namespace RhythmBot.Json

variable {α β : Type}

theorem le_of_natural? {largest : Nat} {json : Json} {n : Nat}
    (read : natural? largest json = some n) : n ≤ largest := by
  unfold natural? at read
  split at read
  · split at read
    · cases read
      assumption
    · cases read
  · cases read

theorem list?_ofList {encode : α → Json} {decode : Json → Option α}
    (each : ∀ value, decode (encode value) = some value) (items : List α) :
    list? decode (ofList encode items) = some items := by
  change (items.map encode).mapM decode = some items
  induction items with
  | nil => rfl
  | cons item rest ih =>
    rw [List.map_cons, List.mapM_cons, each, ih]
    rfl

def ofMember? (decode : Json → Option α) (member : Option String × Json) :
    Option (String × α) := do
  let name ← member.1
  let value ← decode member.2
  some (name, value)

def memberOf (encode : α → Json) (entry : String × α) : Option String × Json :=
  (some entry.1, encode entry.2)

theorem ofMember?_memberOf (encode : α → Json) (decode : Json → Option β) (entry : String × α) :
    ofMember? decode (memberOf encode entry) = (decode (encode entry.2)).map (entry.1, ·) := by
  unfold ofMember? memberOf
  cases decode (encode entry.2) <;> rfl

theorem table?_eq (encode : α → Json) (decode : Json → Option β) (table : Table α) :
    table? decode (ofTable encode table) =
      ((table.entries.map (memberOf encode)).mapM (ofMember? decode)).bind fun entries =>
        some (Table.ofList entries) := by
  simp only [ofTable, record, List.map_map]
  rfl

theorem mapM_members {encode : α → Json} {decode : Json → Option α}
    (each : ∀ value, decode (encode value) = some value) (entries : List (String × α)) :
    (entries.map (memberOf encode)).mapM (ofMember? decode) = some entries := by
  induction entries with
  | nil => rfl
  | cons entry rest ih =>
    rw [List.map_cons, List.mapM_cons, ofMember?_memberOf, each, ih]
    rfl

theorem table?_ofTable {encode : α → Json} {decode : Json → Option α}
    (each : ∀ value, decode (encode value) = some value) (table : Table α) :
    table? decode (ofTable encode table) = some table := by
  rw [table?_eq, mapM_members each, Option.bind_some, Table.ofList_entries]

theorem mapM_members_rel {encode : α → Json} {decode : Json → Option β} {holds : α → β → Prop}
    {entries : List (String × α)}
    (each : ∀ entry ∈ entries, ∃ value, decode (encode entry.2) = some value ∧ holds entry.2 value) :
    ∃ loaded, (entries.map (memberOf encode)).mapM (ofMember? decode) = some loaded ∧
      List.Forall₂ (Alike holds) entries loaded := by
  induction entries with
  | nil => exact ⟨[], rfl, .nil⟩
  | cons entry rest ih =>
    obtain ⟨value, read, held⟩ := each entry List.mem_cons_self
    obtain ⟨later, readLater, alike⟩ :=
      ih fun other member => each other (List.mem_cons_of_mem entry member)
    refine ⟨(entry.1, value) :: later, ?_, .cons ⟨rfl, held⟩ alike⟩
    rw [List.map_cons, List.mapM_cons, ofMember?_memberOf, read, readLater]
    rfl

/-- A table whose values are all read is read with the same keys and what is read for its values. -/
theorem table?_ofTable_rel {encode : α → Json} {decode : Json → Option β} {holds : α → β → Prop}
    {table : Table α}
    (each : ∀ entry ∈ table.entries,
      ∃ value, decode (encode entry.2) = some value ∧ holds entry.2 value) :
    ∃ loaded, table? decode (ofTable encode table) = some loaded ∧
      List.Forall₂ (Alike holds) table.entries loaded.entries := by
  obtain ⟨loaded, read, alike⟩ := mapM_members_rel each
  have distinct : (loaded.map Prod.fst).Nodup := by
    rw [keys_eq_of_alike alike]
    exact table.distinct
  refine ⟨⟨loaded, distinct⟩, ?_, alike⟩
  rw [table?_eq, read, Option.bind_some]
  exact congrArg some (Table.ofList_entries ⟨loaded, distinct⟩)

theorem mapM_members_eq_none {encode : α → Json} {decode : Json → Option β}
    {entries : List (String × α)} {entry : String × α} (member : entry ∈ entries)
    (refused : decode (encode entry.2) = none) :
    (entries.map (memberOf encode)).mapM (ofMember? decode) = none := by
  induction entries with
  | nil => cases member
  | cons first rest ih =>
    rw [List.map_cons, List.mapM_cons]
    rcases List.mem_cons.1 member with rfl | later
    · rw [ofMember?_memberOf, refused]
      rfl
    · rw [ih later]
      cases ofMember? decode (memberOf encode first) <;> rfl

/-- One value that is refused makes the whole table refused. -/
theorem table?_ofTable_eq_none {encode : α → Json} {decode : Json → Option β} {table : Table α}
    {entry : String × α} (member : entry ∈ table.entries)
    (refused : decode (encode entry.2) = none) : table? decode (ofTable encode table) = none := by
  rw [table?_eq, mapM_members_eq_none member refused, Option.bind_none]

theorem read_of_mapM {decode : Json → Option α} {members : List (Option String × Json)}
    {entries : List (String × α)} (read : members.mapM (ofMember? decode) = some entries)
    {entry : String × α} (member : entry ∈ entries) : ∃ json, decode json = some entry.2 := by
  induction members generalizing entries with
  | nil =>
    cases read
    cases member
  | cons first rest ih =>
    rw [List.mapM_cons] at read
    obtain ⟨head, headRead, read⟩ := Option.bind_eq_some_iff.1 read
    obtain ⟨later, laterRead, read⟩ := Option.bind_eq_some_iff.1 read
    cases read
    rcases List.mem_cons.1 member with rfl | member
    · obtain ⟨name, _, headRead⟩ := Option.bind_eq_some_iff.1 headRead
      obtain ⟨value, valueRead, headRead⟩ := Option.bind_eq_some_iff.1 headRead
      cases headRead
      exact ⟨first.2, valueRead⟩
    · exact ih laterRead member

theorem read_of_table? {decode : Json → Option α} {json : Json} {table : Table α}
    (loaded : table? decode json = some table) {entry : String × α}
    (member : entry ∈ table.entries) : ∃ json, decode json = some entry.2 := by
  cases json with
  | object members =>
    obtain ⟨entries, read, whole⟩ := Option.bind_eq_some_iff.1 loaded
    cases whole
    exact read_of_mapM read ((Table.mem_foldl_insert member).resolve_right List.not_mem_nil)
  | _ => cases loaded

end RhythmBot.Json
