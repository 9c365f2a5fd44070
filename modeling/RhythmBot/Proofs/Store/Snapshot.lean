import RhythmBot.Proofs.Json.Exact
import RhythmBot.Proofs.Json.RoundTrip
import RhythmBot.Proofs.Json.Shape
import RhythmBot.Store.Players
/-!
What a file gives for a snapshot of players that was saved in it. Main statement: the accounts and the
records, if all their numbers are finite, and otherwise nothing.
-/

namespace RhythmBot

namespace Json

theorem Plain.ofText (text : String) : Plain (.ofText text) := .string text

theorem Plain.ofNat (n : Nat) : Plain (.ofNat n) := .number (Literal.wellFormed_ofNat n)

theorem Plain.ofFloat (x : Float) : Plain (.ofFloat x) := by
  unfold Json.ofFloat
  split
  · rename_i literal written
    exact .number (Literal.wellFormed_ofFloat? written)
  · exact .null

theorem Plain.ofOption {α : Type} {encode : α → Json} (each : ∀ value, Plain (encode value))
    (value : Option α) : Plain (.ofOption encode value) := by
  cases value with
  | none => exact .null
  | some value => exact each value

theorem Plain.record {members : List (String × Json)}
    (each : ∀ member ∈ members, Plain member.2) : Plain (.record members) := by
  apply Plain.object
  · intro member listed
    obtain ⟨named, _, rfl⟩ := List.mem_map.1 listed
    rfl
  · intro member listed
    obtain ⟨named, within, rfl⟩ := List.mem_map.1 listed
    exact each named within

theorem Plain.ofTable {α : Type} {encode : α → Json} (each : ∀ value, Plain (encode value))
    (table : Table α) : Plain (.ofTable encode table) := by
  apply Plain.record
  intro member listed
  obtain ⟨entry, _, rfl⟩ := List.mem_map.1 listed
  exact each entry.2

/-- A number as it is read from a literal that stands for another one. -/
def ReadFor (written read : Float) : Prop :=
  ∃ literal : Literal, literal.StandsFor written ∧
    literal.value?.map Number.toFloat = some read

theorem readFor_of_float? {x y : Float} (read : float? (ofFloat x) = some y) : ReadFor x y := by
  unfold ofFloat at read
  split at read
  · rename_i literal written
    exact ⟨literal, Literal.standsFor_ofFloat? written, read⟩
  · cases read

end Json

/-- A record whose rank and count of plays have 64 bits, as those that are fetched or loaded have. -/
structure Record.Sized (record : Record) : Prop where
  rank : record.rank ≤ Json.largestWord
  playCount : record.playCount ≤ Json.largestWord

def Record.isFinite (record : Record) : Bool :=
  record.performance.isFinite && record.accuracy.isFinite

/-- A record as it is read from a document that was made for another one: its numbers are those read for
the numbers of the other one, and all else is the same. -/
structure Record.ReadFor (written read : Record) : Prop where
  same : read =
    { written with
      performance := read.performance
      accuracy := read.accuracy }
  performance : Json.ReadFor written.performance read.performance
  accuracy : Json.ReadFor written.accuracy read.accuracy

namespace Store.PlayerData

open Json

theorem plain_encode (data : PlayerData) : Plain data.encode := by
  have accounts : ∀ account, Plain (encodeAccount account) := by
    intro account
    apply Plain.record
    simp only [List.mem_cons, List.not_mem_nil, or_false, forall_eq_or_imp, forall_eq]
    exact ⟨.ofText _, .ofText _, .ofOption (fun mode => .ofText (modeName mode)) _⟩
  have records : ∀ entry, Plain (encodeRecord entry) := by
    intro entry
    apply Plain.record
    simp only [List.mem_cons, List.not_mem_nil, or_false, forall_eq_or_imp, forall_eq]
    exact ⟨.ofText _, .ofText _, .ofText _, .ofNat _, .ofFloat _, .ofFloat _, .ofNat _,
      .ofOption .ofText _⟩
  apply Plain.record
  simp only [List.mem_cons, List.not_mem_nil, or_false, forall_eq_or_imp, forall_eq]
  exact ⟨.ofTable accounts _, .ofTable records _⟩

theorem read?_snapshot (data : PlayerData) : read? data.snapshot = some data.encode :=
  read?_render data.plain_encode

theorem decodeAccount?_encodeAccount (account : Account) :
    decodeAccount? (encodeAccount account) = some account := by
  obtain ⟨remoteId, nickname, mode⟩ := account
  rcases mode with _ | _ | _ | _ | _ <;> rfl

/-- The reading of a record comes down to that of its numbers. -/
theorem decodeRecord?_encodeRecord {entry : Record} (sized : entry.Sized) :
    decodeRecord? (encodeRecord entry) =
      (float? (ofFloat entry.performance)).bind fun performance =>
        (float? (ofFloat entry.accuracy)).map fun accuracy =>
          { entry with
            performance := performance
            accuracy := accuracy } := by
  have fields : fields? ["player_id", "nickname", "mode", "rank", "performance", "accuracy",
      "play_count", "country"] (encodeRecord entry) =
      some [.given (ofText entry.playerId), .given (ofText entry.nickname),
        .given (encodeMode entry.mode), .given (ofNat entry.rank),
        .given (ofFloat entry.performance), .given (ofFloat entry.accuracy),
        .given (ofNat entry.playCount), .given (ofOption ofText entry.country)] := rfl
  have text : ∀ text, text? (ofText text) = some text := fun _ => rfl
  have mode : decodeMode? (encodeMode entry.mode) = some entry.mode := by
    cases entry.mode <;> rfl
  have country : nullable? text? (ofOption ofText entry.country) = some entry.country := by
    cases entry.country <;> rfl
  simp only [decodeRecord?, fields, Field.required?, Field.optional?, text, mode, country,
    natural?_ofNat sized.rank, natural?_ofNat sized.playCount, Option.bind_eq_bind,
    Option.bind_some, Option.map_eq_bind]
  rfl

/-- A record is read back from its document if its numbers are finite. -/
theorem exists_decodeRecord? {entry : Record} (sized : entry.Sized)
    (finite : entry.isFinite = true) :
    ∃ read, decodeRecord? (encodeRecord entry) = some read ∧ entry.ReadFor read := by
  unfold Record.isFinite at finite
  rw [Bool.and_eq_true, ← isSome_float?_ofFloat, ← isSome_float?_ofFloat] at finite
  obtain ⟨performance, performanceRead⟩ := Option.isSome_iff_exists.1 finite.1
  obtain ⟨accuracy, accuracyRead⟩ := Option.isSome_iff_exists.1 finite.2
  rw [decodeRecord?_encodeRecord sized, performanceRead, accuracyRead]
  exact ⟨_, rfl, rfl, readFor_of_float? performanceRead, readFor_of_float? accuracyRead⟩

theorem decodeRecord?_eq_none {entry : Record} (sized : entry.Sized)
    (infinite : entry.isFinite = false) : decodeRecord? (encodeRecord entry) = none := by
  unfold Record.isFinite at infinite
  rw [← isSome_float?_ofFloat, ← isSome_float?_ofFloat] at infinite
  rw [decodeRecord?_encodeRecord sized]
  cases performanceRead : float? (ofFloat entry.performance) with
  | none => rfl
  | some performance =>
    cases accuracyRead : float? (ofFloat entry.accuracy) with
    | none => rfl
    | some accuracy =>
      rw [performanceRead, accuracyRead] at infinite
      cases infinite

theorem le_of_required {field : Field} {n : Nat}
    (read : field.required? (natural? largestWord) = some n) : n ≤ largestWord := by
  cases field with
  | given json => exact le_of_natural? read
  | leftOut => cases read
  | cutOff => cases read

theorem sized_of_decodeRecord? {json : Json} {entry : Record}
    (read : decodeRecord? json = some entry) : entry.Sized := by
  unfold decodeRecord? at read
  obtain ⟨fields, _, read⟩ := Option.bind_eq_some_iff.1 read
  split at read
  · obtain ⟨_, _, read⟩ := Option.bind_eq_some_iff.1 read
    obtain ⟨_, _, read⟩ := Option.bind_eq_some_iff.1 read
    obtain ⟨_, _, read⟩ := Option.bind_eq_some_iff.1 read
    obtain ⟨rank, rankRead, read⟩ := Option.bind_eq_some_iff.1 read
    obtain ⟨_, _, read⟩ := Option.bind_eq_some_iff.1 read
    obtain ⟨_, _, read⟩ := Option.bind_eq_some_iff.1 read
    obtain ⟨playCount, playCountRead, read⟩ := Option.bind_eq_some_iff.1 read
    obtain ⟨_, _, read⟩ := Option.bind_eq_some_iff.1 read
    cases read
    exact ⟨le_of_required rankRead, le_of_required playCountRead⟩
  · cases read

def Sized (data : PlayerData) : Prop :=
  ∀ entry ∈ data.records.entries, entry.2.Sized

def recordsFinite (data : PlayerData) : Bool :=
  data.records.entries.all fun entry => entry.2.isFinite

theorem sized_of_ofSnapshot? {text : String} {data : PlayerData}
    (loaded : ofSnapshot? text = some data) : data.Sized := by
  obtain ⟨json, _, decoded⟩ := Option.bind_eq_some_iff.1 loaded
  unfold decode? at decoded
  obtain ⟨fields, _, decoded⟩ := Option.bind_eq_some_iff.1 decoded
  split at decoded
  · rename_i accounts records _
    obtain ⟨_, _, decoded⟩ := Option.bind_eq_some_iff.1 decoded
    obtain ⟨table, read, decoded⟩ := Option.bind_eq_some_iff.1 decoded
    cases decoded
    intro entry member
    cases records with
    | given json =>
      obtain ⟨value, valueRead⟩ := read_of_table? read member
      exact sized_of_decodeRecord? valueRead
    | leftOut => cases read
    | cutOff => cases read
  · cases decoded

theorem Sized.of_records {before after : PlayerData} (sized : before.Sized)
    (same : after.records = before.records) : after.Sized := by
  unfold Sized
  rw [same]
  exact sized

theorem Sized.file {data : PlayerData} (sized : data.Sized) {record : Record}
    (recordSized : record.Sized) : (data.file record).Sized := by
  intro entry member
  rcases mem_putEntry member with rfl | old
  · exact recordSized
  · exact sized entry old

/-- The reading of a snapshot comes down to that of its records, since the accounts are always read. -/
theorem ofSnapshot?_snapshot (data : PlayerData) :
    ofSnapshot? data.snapshot =
      (table? decodeRecord? (ofTable encodeRecord data.records)).map fun records =>
        ⟨data.accounts, records⟩ := by
  have fields : fields? ["accounts", "records"] data.encode =
      some [.given (ofTable encodeAccount data.accounts),
        .given (ofTable encodeRecord data.records)] := rfl
  have accounts := table?_ofTable decodeAccount?_encodeAccount data.accounts
  simp only [ofSnapshot?, read?_snapshot, Option.bind_some, decode?, Option.bind_eq_bind, fields,
    Field.required?, accounts]
  rw [Option.map_eq_bind]
  rfl

/-- What a file gives for data that was saved in it. Of data with a number that is not finite nothing is
left. -/
structure SavedIn (data : PlayerData) (content : Option String) : Prop where
  whole : data.recordsFinite = true →
    ∃ loaded, content.bind ofSnapshot? = some loaded ∧ loaded.accounts = data.accounts ∧
      List.Forall₂ (Alike Record.ReadFor) data.records.entries loaded.records.entries
  lost : data.recordsFinite = false → content.bind ofSnapshot? = none

/-- The text of a snapshot has the data that it was made of. -/
theorem savedIn_snapshot {data : PlayerData} (sized : data.Sized) :
    data.SavedIn (some data.snapshot) where
  whole finite := by
    obtain ⟨records, read, alike⟩ := table?_ofTable_rel fun entry member =>
      exists_decodeRecord? (sized entry member) (List.all_eq_true.1 finite entry member)
    refine ⟨⟨data.accounts, records⟩, ?_, rfl, alike⟩
    rw [Option.bind_some, ofSnapshot?_snapshot, read]
    rfl
  lost infinite := by
    obtain ⟨entry, member, notFinite⟩ := List.all_eq_false.1 infinite
    have refused := decodeRecord?_eq_none (sized entry member) (Bool.eq_false_iff.2 notFinite)
    rw [Option.bind_some, ofSnapshot?_snapshot, table?_ofTable_eq_none member refused]
    rfl

end Store.PlayerData

end RhythmBot
