import RhythmBot.Answer.Basic
/-!
The leaderboards of a chat: of its members by their rank on the server, and on one beatmap.
-/

namespace RhythmBot.Answer

def recordsOf (players : Store.Players) (playerIds : List String) (mode : Mode) :
    List (String × Record) :=
  (Leaderboard.distinctBy id playerIds).filterMap fun playerId =>
    (players.record? playerId mode).map (playerId, ·)

def knownBoard (players : Store.Players) (playerIds : List String) (mode : Mode) : List Entry :=
  let records := recordsOf players playerIds mode
  Id.run (Leaderboard.aggregate (fun playerId _ => entryValue? playerId records) playerIds mode)

/-- The room that `chat` is about: the one typed, which has to be a number, else the one of the
message; or else the reply that asks for one. -/
def chatRoom (context : Context) : Except Reply String :=
  match context.arguments.nickname, context.origin.room with
  | room :: _, _ =>
    if (Text.integer? room).isSome then .ok room
    else .error (.ofText (context.text "chat_invalid" [("chat", room)]))
  | [], some room => .ok room
  | [], none => .error (.ofText (context.text "chat_no_room" []))

/-- The members of a chat by their rank, from the records kept; no server is asked. -/
def chat : Answer Reply := do
  let context ← read
  match chatRoom context with
  | .error reply => return reply
  | .ok room =>
    let playerIds ← memberPlayers room
    let entries := knownBoard (← get).players playerIds context.mode
    if entries.isEmpty then
      return .ofText (context.text "chat_empty" [])
    let header := context.text "chat_header" [("mode", context.mode.name)]
    return .ofText (Report.leaderboard context.catalog header entries)

def beatmapBoard (beatmapId : String) (playerIds : List String) (mods : Option Mods) :
    Answer (List Entry) := do
  if playerIds.isEmpty then
    return []
  return Leaderboard.rank (← askLeaderboard beatmapId playerIds mods)

/-- The beatmap that `lb` is about: the one typed, else the last one of the room. -/
def boardBeatmap (room : String) : Answer (Option String) := do
  let context ← read
  match context.arguments.nickname with
  | beatmapId :: _ => return some beatmapId
  | [] => return (← get).chats.lastBeatmap? room

def leaderboard : Answer Reply := do
  let context ← read
  match context.origin.room with
  | none => return .ofText (context.text "chat_no_room" [])
  | some room =>
    match ← boardBeatmap room with
    | none => return .ofText (context.text "lb_no_map" [])
    | some beatmapId =>
      let mods := context.arguments.mods?
      let entries ← beatmapBoard beatmapId (← memberPlayers room) mods
      if entries.isEmpty then
        return .ofText (context.text "lb_empty" [("beatmap", beatmapId)])
      let header := context.text "lb_header"
        [("beatmap", beatmapId), ("mode", context.mode.name),
          ("mods", (mods.getD Mods.none).text)]
      return .ofText (Report.leaderboard context.catalog header entries)

end RhythmBot.Answer
