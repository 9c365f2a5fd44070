import RhythmBot.Store.Players
/-!
What a change to the accounts does to a store. One that is saved makes the changed data the content
of the store and of its file; any other leaves both as they are.
-/

namespace RhythmBot.Store

theorem saveTo_saved {file after : Option File} {attempt : Attempt} {snapshot : String}
    (saved : saveTo file attempt snapshot = (true, after)) :
    after = file.map fun _ => ⟨some snapshot, none⟩ := by
  cases file with
  | none =>
    cases saved
    rfl
  | some file =>
    cases attempt with
    | succeeds =>
      cases saved
      rfl
    | failsToWrite left => cases saved
    | failsToRename => cases saved

theorem saveTo_failed {file after : Option File} {attempt : Attempt} {snapshot : String}
    (failed : saveTo file attempt snapshot = (false, after)) :
    after.map File.content = file.map File.content := by
  cases file with
  | none => cases failed
  | some file =>
    cases attempt with
    | succeeds => cases failed
    | failsToWrite left =>
      cases failed
      rfl
    | failsToRename =>
      cases failed
      rfl

namespace Players

variable {players after : Players} {attempt : Attempt} {change : Option PlayerData}

theorem commit_saved (saved : players.commit attempt change = (.saved, after)) :
    ∃ data, change = some data ∧
      after = ⟨data, players.file.map fun _ => ⟨some data.snapshot, none⟩⟩ := by
  cases change with
  | none => simp [commit] at saved
  | some data =>
    simp only [commit] at saved
    split at saved
    · rename_i file written
      simp only [Prod.mk.injEq, true_and] at saved
      exact ⟨data, rfl, by rw [← saved, saveTo_saved written]⟩
    · simp at saved

theorem commit_nothing (nothing : players.commit attempt change = (.nothing, after)) :
    change = none ∧ after = players := by
  cases change with
  | none => simpa [commit, eq_comm] using nothing
  | some data =>
    simp only [commit] at nothing
    split at nothing <;> simp at nothing

theorem commit_failed (failed : players.commit attempt change = (.failed, after)) :
    after.data = players.data ∧
      after.file.map File.content = players.file.map File.content := by
  cases change with
  | none => simp [commit] at failed
  | some data =>
    simp only [commit] at failed
    split at failed
    · simp at failed
    · rename_i file refused
      simp only [Prod.mk.injEq, true_and] at failed
      subst failed
      exact ⟨rfl, saveTo_failed refused⟩

end Players

end RhythmBot.Store
