import RhythmBot.Proofs.Store.Records
import RhythmBot.Proofs.Store.WriteThrough
/-!
The records of a store through any sequence of operations and failing writes. Main statement: what is
found for a player in a mode is the last record filed for just them, which nothing else touches.
-/

namespace RhythmBot.Store

open PlayerData

namespace Players

variable {players : Players} {kept : List Record}

theorem tracks_perform (tracks : Tracks kept players.data) (operation : Operation) :
    Tracks (kept ++ operation.record?.toList) (players.perform operation).2.data := by
  cases filed : operation.record? with
  | none =>
    rw [Option.toList_none, List.append_nil]
    exact tracks.of_records (records_perform filed)
  | some record =>
    rw [Option.toList_some, data_perform_of_record? filed]
    exact tracks.file record

theorem tracks_run (tracks : Tracks kept players.data) (operations : List Operation) :
    Tracks (kept ++ operations.filterMap Operation.record?) (players.run operations).data := by
  induction operations generalizing players kept with
  | nil =>
    rw [List.filterMap_nil, List.append_nil]
    exact tracks
  | cons operation later ih =>
    have split : (operation :: later).filterMap Operation.record? =
        operation.record?.toList ++ later.filterMap Operation.record? := by
      rw [List.filterMap_cons]
      cases operation.record? <;> rfl
    rw [split, ← List.append_assoc]
    exact ih (tracks_perform tracks operation)

/-- In every run of a store that is empty at first, on a file or not: the record of a player in a mode
is the last one filed for exactly that player and that mode; and no operation that does not file one
for them changes it, whether it succeeds or fails. -/
theorem run_lastRecord? (file : Option File) (operations : List Operation) (playerId : String)
    (mode : Mode) :
    let players := (Players.mk .empty file).run operations
    players.record? playerId mode =
        lastRecord? (operations.filterMap Operation.record?) playerId mode ∧
      (∀ record, players.record? playerId mode = some record →
        record.playerId = playerId ∧ record.mode = mode) ∧
      ∀ operation : Operation,
        (∀ record, operation.record? = some record →
          ¬ (record.playerId = playerId ∧ record.mode = mode)) →
        (players.perform operation).2.record? playerId mode = players.record? playerId mode := by
  intro players
  have start : Tracks [] (Players.mk .empty file).data := tracks_empty
  have tracks : Tracks (operations.filterMap Operation.record?) players.data :=
    tracks_run start operations
  have last : players.record? playerId mode =
      lastRecord? (operations.filterMap Operation.record?) playerId mode := tracks playerId mode
  refine ⟨last, ?_, ?_⟩
  · intro record found
    exact lastRecord?_own (last.symm.trans found)
  · intro operation others
    have after := tracks_perform tracks operation playerId mode
    unfold record?
    rw [after, tracks playerId mode]
    cases filed : operation.record? with
    | none => rw [Option.toList_none, List.append_nil]
    | some record => rw [Option.toList_some, lastRecord?_concat, if_neg (others record filed)]

end Players

end RhythmBot.Store
