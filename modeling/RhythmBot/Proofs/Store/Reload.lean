import RhythmBot.Proofs.Store.WriteThrough
import RhythmBot.Store.Chats
/-!
What a store is loaded with after it was saved. Main statement: the chats are loaded as they were; of the
players the accounts and the keys of the records are, if every number of the records is finite, and
otherwise nothing is.
-/

namespace RhythmBot.Store

open Json

namespace ChatData

theorem plain_encode (data : ChatData) : Plain data.encode := by
  have members : ∀ names, Plain (ofList ofText names) := by
    intro names
    apply Plain.array
    intro item listed
    obtain ⟨name, _, rfl⟩ := List.mem_map.1 listed
    exact .ofText name
  apply Plain.record
  simp only [List.mem_cons, List.not_mem_nil, or_false, forall_eq_or_imp, forall_eq]
  exact ⟨.ofTable members _, .ofTable .ofText _⟩

theorem ofSnapshot?_snapshot (data : ChatData) : ofSnapshot? data.snapshot = some data := by
  have text : ∀ text, text? (ofText text) = some text := fun _ => rfl
  have fields : fields? ["members", "last_beatmaps"] data.encode =
      some [.given (ofTable (ofList ofText) data.members),
        .given (ofTable ofText data.lastBeatmaps)] := rfl
  simp only [ofSnapshot?, snapshot, read?_render data.plain_encode, Option.bind_some, decode?,
    Option.bind_eq_bind, fields, Field.required?, table?_ofTable (list?_ofList text),
    table?_ofTable text]

end ChatData

namespace Players

theorem onFile_finite {data : PlayerData} (sized : data.Sized) (finite : data.recordsFinite = true)
    {file : File} (content : file.content = some data.snapshot) :
    (onFile file).data.accounts = data.accounts ∧
      (onFile file).data.records.keys = data.records.keys := by
  obtain ⟨loaded, read, accounts, records⟩ := (PlayerData.savedIn_snapshot sized).whole finite
  unfold onFile File.load
  rw [content, read]
  exact ⟨accounts, keys_eq_of_alike records⟩

theorem onFile_infinite {data : PlayerData} (sized : data.Sized)
    (infinite : data.recordsFinite = false) {file : File}
    (content : file.content = some data.snapshot) : (onFile file).data = .empty := by
  unfold onFile File.load
  rw [content, (PlayerData.savedIn_snapshot sized).lost infinite]
  rfl

/-- What is saved is loaded again. In every run of a store of players from a file, whatever that file
holds, after an operation that is saved: the file gives the accounts in memory and the keys of the records
in memory, if all numbers of the records are finite, and nothing at all otherwise. The chats are loaded as
they were saved. -/
theorem reload_saved (initial : File) {operations : List Operation}
    (sized : ∀ operation ∈ operations, operation.Sized) (chats : Chats) :
    (∀ (operation : Operation) (after : Players), operation.Sized →
      ((onFile initial).run operations).perform operation = (some .saved, after) →
      ∃ file, after.file = some file ∧
        (after.data.recordsFinite = true →
          (onFile file).data.accounts = after.data.accounts ∧
            (onFile file).data.records.keys = after.data.records.keys) ∧
        (after.data.recordsFinite = false → (onFile file).data = .empty)) ∧
      ∀ (attempt : Attempt) (file : File),
        saveTo chats.file attempt chats.data.snapshot = (true, some file) →
        (Chats.onFile file).data = chats.data := by
  constructor
  · intro operation after operationSized saved
    have effect := perform_effect (isSome_file_run (onFile initial) operations) operation
    have afterSized := sized_perform (sized_run (sized_onFile initial) sized) operationSized
    rw [saved] at effect afterSized
    cases effect with
    | saved written =>
      obtain ⟨file, present, content⟩ := Option.bind_eq_some_iff.1 written
      exact ⟨file, present, fun finite => onFile_finite afterSized finite content,
        fun infinite => onFile_infinite afterSized infinite content⟩
  · intro attempt file saved
    have written := saveTo_saved saved
    obtain ⟨_, _, rfl⟩ := Option.map_eq_some_iff.1 written.symm
    unfold Chats.onFile File.load
    rw [Option.bind_some, ChatData.ofSnapshot?_snapshot]
    rfl

/-- A link, the key of a record and a member of a room that are saved are loaded. -/
theorem reload_saved_linked :
    let (change, after) := ((onFile .absent).run
      [.putRecord ⟨"7", "Seven", .standard, 1, 5000, 99, 1, none⟩]).perform
      (.setAccount .succeeds "ann" ⟨"7", "Seven", none⟩)
    let chats : Chats := ⟨ChatData.empty.addMember "hall" "ann", some .absent⟩
    change = some .saved ∧
      (∃ file, after.file = some file ∧
        (onFile file).account? "ann" = some ⟨"7", "Seven", none⟩ ∧
        (onFile file).data.records.keys = ["7:0"]) ∧
      ∃ file, saveTo chats.file .succeeds chats.data.snapshot = (true, some file) ∧
        (Chats.onFile file).membersOf "hall" = ["ann"] := by
  have sized : ∀ operation ∈ [Operation.putRecord
      ⟨"7", "Seven", .standard, 1, 5000, 99, 1, none⟩], operation.Sized := by
    rintro operation listed record filed
    cases List.mem_singleton.1 listed
    cases filed
    exact ⟨by decide, by decide⟩
  have reload := reload_saved .absent sized
    ⟨ChatData.empty.addMember "hall" "ann", some .absent⟩
  refine ⟨rfl, ?_, _, rfl, ?_⟩
  · have linkSized : (Operation.setAccount .succeeds "ann" ⟨"7", "Seven", none⟩).Sized := by
      rintro record ⟨⟩
    obtain ⟨file, present, loaded, _⟩ := reload.1 _ _ linkSized rfl
    obtain ⟨accounts, keys⟩ := loaded rfl
    refine ⟨file, present, ?_, keys⟩
    rw [account?, accounts]
    rfl
  · rw [Chats.membersOf, reload.2 .succeeds _ rfl]
    rfl

/-- A link that was saved is lost once a record without a performance is saved besides. -/
theorem reload_saved_lost :
    let (change, after) := ((onFile .absent).run
      [.setAccount .succeeds "ann" ⟨"7", "Seven", none⟩,
        .putRecord ⟨"7", "Seven", .standard, 1, .ofBits 0x7ff8000000000000, 99, 1, none⟩]).perform
      (.setAccount .succeeds "bob" ⟨"8", "Eight", none⟩)
    change = some .saved ∧ after.account? "ann" = some ⟨"7", "Seven", none⟩ ∧
      ∃ file, after.file = some file ∧ (onFile file).account? "ann" = none := by
  refine ⟨rfl, rfl, _, rfl, ?_⟩
  rw [account?, onFile_infinite ?_ rfl rfl]
  · rfl
  · intro entry member
    rw [List.mem_singleton.1 member]
    exact ⟨by decide, by decide⟩

end Players

end RhythmBot.Store
