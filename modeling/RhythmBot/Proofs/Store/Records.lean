import RhythmBot.Store.Players
/-!
The records of a store as what was kept: a record is found under its own player and mode, and the
last one kept for them is the one that counts. Main statement: records for other players or modes do
not meet it, whatever the ids are.
-/

namespace RhythmBot.Store.PlayerData

theorem toString_index (mode : Mode) :
    ∃ digit, (toString mode.index).toList = [digit] := by
  cases mode with
  | standard => exact ⟨'0', by decide⟩
  | taiko => exact ⟨'1', by decide⟩
  | fruits => exact ⟨'2', by decide⟩
  | mania => exact ⟨'3', by decide⟩

theorem toString_index_injective {first second : Mode}
    (same : toString first.index = toString second.index) : first = second := by
  revert same
  cases first <;> cases second <;> decide

/-- Two records share a key only if they are for one player in one mode. The mode is a single digit at
the end, so the id may hold colons and digits. -/
theorem recordKey_injective {first second : String} {firstMode secondMode : Mode}
    (same : recordKey first firstMode = recordKey second secondMode) :
    first = second ∧ firstMode = secondMode := by
  have letters : (first.toList ++ [':']) ++ (toString firstMode.index).toList =
      (second.toList ++ [':']) ++ (toString secondMode.index).toList := by
    have lists := congrArg String.toList same
    simp only [recordKey, String.toList_append] at lists
    exact lists
  obtain ⟨firstDigit, firstIndex⟩ := toString_index firstMode
  obtain ⟨secondDigit, secondIndex⟩ := toString_index secondMode
  have lengths : (toString firstMode.index).toList.length =
      (toString secondMode.index).toList.length := by
    rw [firstIndex, secondIndex]
    rfl
  have ids := List.append_inj_left' letters lengths
  have digits := List.append_inj_right' letters lengths
  constructor
  · exact String.toList_inj.1 (List.append_cancel_right ids)
  · exact toString_index_injective (String.toList_inj.1 digits)

/-- A record that is filed is found under its player and mode, and nothing else is found anew. -/
theorem find?_file (data : PlayerData) (record : Record) (playerId : String) (mode : Mode) :
    (data.file record).records.find? (recordKey playerId mode) =
      if record.playerId = playerId ∧ record.mode = mode then some record
      else data.records.find? (recordKey playerId mode) := by
  unfold file
  rw [Table.find?_insert]
  by_cases same : record.playerId = playerId ∧ record.mode = mode
  · rw [if_pos same, if_pos (by rw [same.1, same.2])]
  · rw [if_neg same, if_neg]
    intro key
    obtain ⟨player, played⟩ := recordKey_injective key
    exact same ⟨player.symm, played.symm⟩

/-- Every record that is found for a player is the player's own. -/
def Filed (data : PlayerData) : Prop :=
  ∀ playerId mode record,
    data.records.find? (recordKey playerId mode) = some record → record.playerId = playerId

theorem filed_empty : empty.Filed := by
  rintro playerId mode record ⟨⟩

theorem Filed.of_records {before after : PlayerData} (filed : before.Filed)
    (same : after.records = before.records) : after.Filed := by
  intro playerId mode record found
  rw [same] at found
  exact filed playerId mode record found

theorem Filed.file {data : PlayerData} (filed : data.Filed) (record : Record) :
    (data.file record).Filed := by
  intro playerId mode other found
  rw [find?_file] at found
  split at found
  · rename_i own
    cases found
    exact own.1
  · exact filed playerId mode other found

def lastRecord? (kept : List Record) (playerId : String) (mode : Mode) : Option Record :=
  kept.reverse.find? fun record => record.playerId = playerId ∧ record.mode = mode

theorem lastRecord?_concat (kept : List Record) (record : Record) (playerId : String)
    (mode : Mode) :
    lastRecord? (kept ++ [record]) playerId mode =
      if record.playerId = playerId ∧ record.mode = mode then some record
      else lastRecord? kept playerId mode := by
  unfold lastRecord?
  rw [List.reverse_append, List.reverse_singleton, List.singleton_append, List.find?_cons]
  by_cases same : record.playerId = playerId ∧ record.mode = mode
  · simp [same]
  · simp [same]

theorem lastRecord?_own {kept : List Record} {playerId : String} {mode : Mode} {record : Record}
    (last : lastRecord? kept playerId mode = some record) :
    record.playerId = playerId ∧ record.mode = mode := by
  have holds := List.find?_some last
  simpa using holds

def Tracks (kept : List Record) (data : PlayerData) : Prop :=
  ∀ playerId mode,
    data.records.find? (recordKey playerId mode) = lastRecord? kept playerId mode

theorem tracks_empty : Tracks [] empty := fun _ _ => rfl

theorem Tracks.of_records {kept : List Record} {before after : PlayerData}
    (tracks : Tracks kept before) (same : after.records = before.records) : Tracks kept after := by
  intro playerId mode
  rw [same]
  exact tracks playerId mode

theorem Tracks.file {kept : List Record} {data : PlayerData} (tracks : Tracks kept data)
    (record : Record) : Tracks (kept ++ [record]) (data.file record) := by
  intro playerId mode
  rw [find?_file, lastRecord?_concat, tracks playerId mode]

end RhythmBot.Store.PlayerData
