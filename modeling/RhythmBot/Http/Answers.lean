import RhythmBot.Json.Shape
import RhythmBot.Leaderboard
import RhythmBot.Score
/-!
The documents that a server answers with. What they may leave out has a value of its own.
-/

namespace RhythmBot.Http.Answers

open Json

/-- An id, which may be written as a text or as a number. -/
def idText? : Json → Option String
  | .string text => text
  | .number literal => literal.value?.map Number.text
  | _ => none

def count? (field : Field) : Option Nat := field.withDefault? 0 (natural? largestWord)

def small? (field : Field) : Option Nat := field.withDefault? 0 (natural? largestHalf)

def amount? (field : Field) : Option Float := field.withDefault? 0 float?

def maybe? {α : Type} (decode : Json → Option α) (field : Field) : Option (Option α) :=
  field.withDefault? none (nullable? decode)

def statistics? (mode : Mode) (json : Json) : Option Record := do
  let [rank, performance, accuracy, playCount] ←
    fields? ["global_rank", "pp", "accuracy", "play_count"] json | none
  some
    { playerId := "", nickname := "", mode := mode
      rank := (← maybe? (natural? largestWord) rank).getD 0
      performance := ← amount? performance
      accuracy := ← amount? accuracy
      playCount := ← count? playCount
      country := none }

def record? (mode : Mode) (json : Json) : Option Record := do
  let [playerId, nickname, country, statistics] ←
    fields? ["id", "username", "country", "stats"] json | none
  let playerId ← playerId.required? idText?
  let nickname ← nickname.required? text?
  let country ← maybe? text? country
  let record ← statistics.required? (statistics? mode)
  some { record with playerId := playerId, nickname := nickname, country := country }

def beatmap? (json : Json) : Option (String × String) := do
  let [beatmapId, title] ← fields? ["beatmap_id", "song_name"] json | none
  some (← beatmapId.required? idText?, ← title.required? text?)

def score? (json : Json) : Option Score := do
  let [scoreId, beatmap, mods, accuracy, performance, grade, maxCombo] ←
    fields? ["id", "beatmap", "mods", "accuracy", "pp", "rank", "max_combo"] json | none
  let scoreId ← maybe? idText? scoreId
  let (beatmapId, title) ← beatmap.required? beatmap?
  some
    { scoreId := scoreId, beatmapId := beatmapId, title := title
      mods := ⟨BitVec.ofNat 32 (← small? mods)⟩
      accuracy := ← accuracy.required? float?
      performance := ← maybe? float? performance
      grade := ← grade.required? text?
      maxCombo := ← small? maxCombo }

/-- The only field of a record, a list that may be left out or `null`. -/
def onlyList? {α : Type} (name : String) (decode : Json → Option α) (json : Json) :
    Option (List α) := do
  let [items] ← fields? [name] json | none
  some ((← maybe? (list? decode) items).getD [])

def scores? (json : Json) : Option (List Score) := onlyList? "scores" score? json

def entry? (json : Json) : Option Entry := do
  let [playerId, nickname, rank, performance, accuracy] ←
    fields? ["user_id", "username", "position", "pp", "accuracy"] json | none
  some
    { playerId := ← playerId.required? idText?
      nickname := ← nickname.required? text?
      rank := ← rank.required? (natural? largestWord)
      performance := ← amount? performance
      accuracy := ← accuracy.required? float? }

def entries? (json : Json) : Option (List Entry) := onlyList? "entries" entry? json

end RhythmBot.Http.Answers
