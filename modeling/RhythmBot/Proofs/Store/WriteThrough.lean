import Mathlib.Data.List.Induction
import RhythmBot.Proofs.Store.Commit
import RhythmBot.Proofs.Store.Snapshot
/-!
A store of players and its file through any sequence of operations and failing writes. Main
statement: the accounts in memory are those of the last snapshot on disk, whereas a record waits for
the next one.
-/

namespace RhythmBot.Store

/-- An operation on the players of a server, with how the attempt to save goes where it makes one.
-/
inductive Operation where
  | setAccount (attempt : Attempt) (sender : String) (account : Account)
  | setMode (attempt : Attempt) (sender : String) (mode : Mode)
  | removeAccount (attempt : Attempt) (sender : String)
  | putRecord (record : Record)
  | save (attempt : Attempt)

def Operation.record? : Operation → Option Record
  | .putRecord record => some record
  | _ => none

def Operation.Sized (operation : Operation) : Prop :=
  ∀ record ∈ operation.record?, record.Sized

def Players.saveOutcome (players : Players) (attempt : Attempt) : Change :=
  if (saveTo players.file attempt players.data.snapshot).1 then .saved else .failed

namespace Players

/-- Carries out an operation; all but the keeping of a record tell what came of it. -/
def perform (players : Players) : Operation → Option Change × Players
  | .setAccount attempt sender account =>
    (players.setAccount attempt sender account).map some id
  | .setMode attempt sender mode => (players.setMode attempt sender mode).map some id
  | .removeAccount attempt sender => (players.removeAccount attempt sender).map some id
  | .putRecord record => (none, players.putRecord record)
  | .save attempt => (some (players.saveOutcome attempt), players.save attempt)

def run : Players → List Operation → Players
  | players, [] => players
  | players, operation :: later => run (players.perform operation).2 later

def content? (players : Players) : Option String :=
  players.file.bind File.content

/-- What an operation does to a store on a file, by what it tells. -/
inductive Effect (before : Players) : Option Change → Players → Prop
  | saved {after : Players} :
      after.content? = some after.data.snapshot → Effect before (some .saved) after
  | nothing : Effect before (some .nothing) before
  | failed {after : Players} :
      after.data = before.data → after.content? = before.content? →
      Effect before (some .failed) after
  | filed (record : Record) : Effect before none (before.putRecord record)

variable {players : Players}

theorem content?_of_map {first second : Option File}
    (same : second.map File.content = first.map File.content) :
    second.bind File.content = first.bind File.content := by
  cases first with
  | none => rw [Option.map_eq_none_iff.1 same]
  | some first =>
    obtain ⟨second, rfl, content⟩ := Option.map_eq_some_iff.1 same
    rw [Option.bind_some, Option.bind_some, content]

theorem commit_effect (onFile : players.file.isSome = true) (attempt : Attempt)
    (change : Option PlayerData) :
    Effect players (some (players.commit attempt change).1) (players.commit attempt change).2 := by
  rcases committed : players.commit attempt change with ⟨_ | _ | _, after⟩
  · obtain ⟨data, _, rfl⟩ := commit_saved committed
    obtain ⟨file, present⟩ := Option.isSome_iff_exists.1 onFile
    apply Effect.saved
    rw [content?, present]
    rfl
  · obtain ⟨_, rfl⟩ := commit_nothing committed
    exact .nothing
  · obtain ⟨same, content⟩ := commit_failed committed
    exact .failed same (content?_of_map content)

theorem save_effect (onFile : players.file.isSome = true) (attempt : Attempt) :
    Effect players (some (players.saveOutcome attempt)) (players.save attempt) := by
  unfold saveOutcome
  rcases stored : saveTo players.file attempt players.data.snapshot with ⟨_ | _, after⟩
  · refine .failed rfl ?_
    simp only [save, content?, stored]
    exact content?_of_map (saveTo_failed stored)
  · obtain ⟨file, present⟩ := Option.isSome_iff_exists.1 onFile
    apply Effect.saved
    simp only [save, content?, stored]
    rw [saveTo_saved stored, present]
    rfl

theorem perform_effect (onFile : players.file.isSome = true) (operation : Operation) :
    Effect players (players.perform operation).1 (players.perform operation).2 := by
  cases operation with
  | setAccount attempt sender account =>
    simp only [perform, setAccount, Prod.map_fst, Prod.map_snd, id_eq]
    exact commit_effect onFile attempt _
  | setMode attempt sender mode =>
    simp only [perform, setMode, Prod.map_fst, Prod.map_snd, id_eq]
    exact commit_effect onFile attempt _
  | removeAccount attempt sender =>
    simp only [perform, removeAccount, Prod.map_fst, Prod.map_snd, id_eq]
    exact commit_effect onFile attempt _
  | putRecord record => exact .filed record
  | save attempt => exact save_effect onFile attempt

theorem isSome_saveTo (file : Option File) (attempt : Attempt) (snapshot : String) :
    (saveTo file attempt snapshot).2.isSome = file.isSome := by
  cases file <;> rfl

theorem isSome_file_commit (attempt : Attempt) (change : Option PlayerData) :
    (players.commit attempt change).2.file.isSome = players.file.isSome := by
  cases change with
  | none => rfl
  | some data =>
    have kept := isSome_saveTo players.file attempt data.snapshot
    simp only [commit]
    split
    all_goals
      rename_i after written
      rw [written] at kept
      exact kept

/-- No operation takes the file of a store away. -/
theorem isSome_file_perform (operation : Operation) :
    (players.perform operation).2.file.isSome = players.file.isSome := by
  cases operation with
  | setAccount attempt sender account =>
    simp only [perform, setAccount, Prod.map_snd, id_eq]
    exact isSome_file_commit attempt _
  | setMode attempt sender mode =>
    simp only [perform, setMode, Prod.map_snd, id_eq]
    exact isSome_file_commit attempt _
  | removeAccount attempt sender =>
    simp only [perform, removeAccount, Prod.map_snd, id_eq]
    exact isSome_file_commit attempt _
  | putRecord record => rfl
  | save attempt => exact isSome_saveTo players.file attempt players.data.snapshot

theorem records_commit (attempt : Attempt) {change : Option PlayerData}
    (same : ∀ data ∈ change, data.records = players.data.records) :
    (players.commit attempt change).2.data.records = players.data.records := by
  rcases committed : players.commit attempt change with ⟨_ | _ | _, after⟩
  · obtain ⟨data, changed, rfl⟩ := commit_saved committed
    exact same data changed
  · rw [(commit_nothing committed).2]
  · rw [(commit_failed committed).1]

/-- Only the filing of a record changes the records. -/
theorem records_perform {operation : Operation} (unfiled : operation.record? = none) :
    (players.perform operation).2.data.records = players.data.records := by
  cases operation with
  | setAccount attempt sender account =>
    simp only [perform, setAccount, Prod.map_snd, id_eq]
    apply records_commit
    intro data changed
    cases changed
    rfl
  | setMode attempt sender mode =>
    simp only [perform, setMode, Prod.map_snd, id_eq]
    apply records_commit
    intro data changed
    obtain ⟨account, _, rfl⟩ := Option.map_eq_some_iff.1 changed
    rfl
  | removeAccount attempt sender =>
    simp only [perform, removeAccount, Prod.map_snd, id_eq]
    apply records_commit
    intro data changed
    obtain ⟨account, _, rfl⟩ := Option.map_eq_some_iff.1 changed
    rfl
  | putRecord record => cases unfiled
  | save attempt => rfl

theorem data_perform_of_record? {operation : Operation} {record : Record}
    (filed : operation.record? = some record) :
    (players.perform operation).2.data = players.data.file record := by
  cases operation with
  | putRecord kept =>
    cases filed
    rfl
  | _ => cases filed

theorem sized_perform (sized : players.data.Sized) {operation : Operation}
    (operationSized : operation.Sized) : (players.perform operation).2.data.Sized := by
  cases filed : operation.record? with
  | none => exact sized.of_records (records_perform filed)
  | some record =>
    rw [data_perform_of_record? filed]
    exact sized.file (operationSized record filed)

theorem sized_run (sized : players.data.Sized) {operations : List Operation}
    (each : ∀ operation ∈ operations, operation.Sized) : (players.run operations).data.Sized := by
  induction operations generalizing players with
  | nil => exact sized
  | cons operation later ih =>
    have first := sized_perform sized (each operation List.mem_cons_self)
    exact ih first fun other member => each other (List.mem_cons_of_mem operation member)

theorem sized_onFile (initial : File) : (onFile initial).data.Sized := by
  unfold onFile File.load
  cases loaded : initial.content.bind PlayerData.ofSnapshot? with
  | none =>
    intro entry member
    cases member
  | some data =>
    obtain ⟨text, _, decoded⟩ := Option.bind_eq_some_iff.1 loaded
    exact PlayerData.sized_of_ofSnapshot? decoded

theorem isSome_file_run (players : Players) (operations : List Operation) :
    (players.run operations).file.isSome = players.file.isSome := by
  induction operations generalizing players with
  | nil => rfl
  | cons operation later ih =>
    exact (ih (players.perform operation).2).trans (isSome_file_perform operation)

theorem run_concat (players : Players) (operations : List Operation) (operation : Operation) :
    players.run (operations ++ [operation]) = ((players.run operations).perform operation).2 := by
  induction operations generalizing players with
  | nil => rfl
  | cons first later ih => exact ih (players.perform first).2

/-- The accounts in memory are those of the last snapshot in the file: the one that was loaded at the
start, or one saved since, at a moment of the run with the same accounts. -/
def InStep (initial : File) (operations : List Operation) : Prop :=
  let players := (onFile initial).run operations
  (players.content? = initial.content ∧ players.data.accounts = (onFile initial).data.accounts) ∨
    ∃ earlier, earlier <+: operations ∧
      ((onFile initial).run earlier).data.SavedIn players.content? ∧
      players.data.accounts = ((onFile initial).run earlier).data.accounts

theorem InStep.of_same {initial : File} {operations : List Operation} {operation : Operation}
    (inStep : InStep initial operations)
    (content : ((onFile initial).run (operations ++ [operation])).content? =
      ((onFile initial).run operations).content?)
    (accounts : ((onFile initial).run (operations ++ [operation])).data.accounts =
      ((onFile initial).run operations).data.accounts) :
    InStep initial (operations ++ [operation]) := by
  unfold InStep at inStep ⊢
  simp only at inStep ⊢
  rw [content, accounts]
  rcases inStep with first | ⟨earlier, before, saved, same⟩
  · exact .inl first
  · exact .inr ⟨earlier, before.trans (List.prefix_append _ _), saved, same⟩

theorem InStep.perform {initial : File} {operations : List Operation} (inStep : InStep initial operations)
    (operation : Operation)
    (sized : ((onFile initial).run (operations ++ [operation])).data.Sized) :
    InStep initial (operations ++ [operation]) := by
  have effect := perform_effect (isSome_file_run (onFile initial) operations) operation
  rw [← run_concat] at effect
  generalize (((onFile initial).run operations).perform operation).1 = report at effect
  generalize ran : (onFile initial).run (operations ++ [operation]) = after at effect
  cases effect with
  | saved written =>
    refine .inr ⟨operations ++ [operation], List.prefix_rfl, ?_, rfl⟩
    rw [← ran] at written
    rw [written]
    exact PlayerData.savedIn_snapshot sized
  | nothing => exact inStep.of_same (by rw [ran]) (by rw [ran])
  | failed data content => exact inStep.of_same (by rw [ran, content]) (by rw [ran, data])
  | filed record => exact inStep.of_same (by rw [ran]; rfl) (by rw [ran]; rfl)

theorem inStep_run (initial : File) {operations : List Operation}
    (sized : ∀ operation ∈ operations, operation.Sized) : InStep initial operations := by
  -- From the last operation on, since the moment of the last snapshot is counted from the start.
  induction operations using List.reverseRecOn with
  | nil => exact .inl ⟨rfl, rfl⟩
  | append_singleton operations operation ih =>
    have inStep := ih fun other member => sized other (List.mem_append_left [operation] member)
    exact inStep.perform operation (sized_run (sized_onFile initial) sized)

/-- In every run of a store from a file, whatever that file holds and whichever writes fail: the
accounts in memory are those of the last snapshot in the file; an operation that fails changes neither
the data nor the file; and after one that is saved the file has the whole data, unless a number of its
records is not finite, which leaves nothing to load. -/
theorem run_writesThrough (initial : File) {operations : List Operation}
    (sized : ∀ operation ∈ operations, operation.Sized) :
    InStep initial operations ∧
      ∀ (operation : Operation) (after : Players), operation.Sized →
        (((onFile initial).run operations).perform operation = (some .failed, after) →
          after.data = ((onFile initial).run operations).data ∧
            after.content? = ((onFile initial).run operations).content?) ∧
        (((onFile initial).run operations).perform operation = (some .saved, after) →
          after.data.SavedIn after.content?) := by
  refine ⟨inStep_run initial sized, fun operation after operationSized => ?_⟩
  have effect := perform_effect (isSome_file_run (onFile initial) operations) operation
  have afterSized := sized_perform (sized_run (sized_onFile initial) sized) operationSized
  constructor
  · intro failed
    rw [failed] at effect
    cases effect with
    | failed data content => exact ⟨data, content⟩
  · intro saved
    rw [saved] at effect afterSized
    cases effect with
    | saved written =>
      rw [written]
      exact PlayerData.savedIn_snapshot afterSized

/-- A link that cannot be written is not in memory either. Once it is written, it is in the file, and
with it a record that was fetched before. -/
theorem run_writesThrough_refused :
    let account : Account := ⟨"7", "Seven", none⟩
    let record : Record := ⟨"7", "Seven", .standard, 1, 5000, 99, 1, none⟩
    let players := (onFile .absent).run [.putRecord record]
    let refused := (players.perform (.setAccount .failsToRename "ann" account)).2
    let linked := (players.perform (.setAccount .succeeds "ann" account)).2
    refused.account? "ann" = none ∧ refused.content? = none ∧
      ∃ loaded, linked.content?.bind PlayerData.ofSnapshot? = some loaded ∧
        loaded.accounts.find? "ann" = some account ∧
        Option.Rel Record.ReadFor (some record) (loaded.records.find? "7:0") := by
  intro account record players refused linked
  have sized : ∀ operation ∈ [Operation.putRecord record], operation.Sized := by
    rintro operation listed record filed
    cases List.mem_singleton.1 listed
    cases filed
    exact ⟨by decide, by decide⟩
  have linkSized : ∀ attempt, (Operation.setAccount attempt "ann" account).Sized := by
    rintro attempt record ⟨⟩
  obtain ⟨_, each⟩ := run_writesThrough .absent sized
  obtain ⟨data, content⟩ := (each _ refused (linkSized .failsToRename)).1 rfl
  have finite : linked.data.recordsFinite = true := by
    unfold linked players record
    decide
  obtain ⟨loaded, read, accounts, records⟩ :=
    ((each _ linked (linkSized .succeeds)).2 rfl).whole finite
  have found : linked.data.records.find? "7:0" = some record :=
    (Table.find?_insert .empty (PlayerData.recordKey "7" .standard) "7:0" record).trans
      (if_pos (by decide))
  refine ⟨?_, content, loaded, read, ?_, ?_⟩
  · rw [account?, data]
    rfl
  · rw [accounts]
    rfl
  · rw [← found]
    exact rel_find?_of_alike records "7:0"

/-- A link is written besides a record without a performance, and cannot be loaded from the file. -/
theorem run_writesThrough_lost :
    let account : Account := ⟨"7", "Seven", none⟩
    let record : Record := ⟨"7", "Seven", .standard, 1, .ofBits 0x7ff8000000000000, 99, 1, none⟩
    let players := (onFile .absent).run [.putRecord record]
    let (change, after) := players.perform (.setAccount .succeeds "ann" account)
    change = some .saved ∧ after.account? "ann" = some account ∧
      after.record? "7" .standard = some record ∧
      after.content?.bind PlayerData.ofSnapshot? = none := by
  intro account record players
  have infinite : (players.data.link "ann" account).recordsFinite = false := by
    unfold players record
    decide
  have sized : (players.data.link "ann" account).Sized := by
    intro entry member
    rw [List.mem_singleton.1 member]
    exact ⟨by decide, by decide⟩
  refine ⟨rfl, rfl, ?_, (PlayerData.savedIn_snapshot sized).lost infinite⟩
  exact (Table.find?_insert .empty (PlayerData.recordKey "7" .standard) _ record).trans (if_pos rfl)

end Players

end RhythmBot.Store
