import RhythmBot.Answer.Basic
/-!
The commands about one player: the profile, the best plays and the most recent play.
-/

namespace RhythmBot.Answer

def topLimit : Nat := 5

def profileButtons (context : Context) (record : Record) : List Button :=
  let target := context.server.target record
  let button (operation : Operation) (key : String) (command : Command) : List Button :=
    if context.server.capabilities.supports operation then
      [⟨context.text key [], context.followUp command target⟩]
    else []
  button .top "button_top" .top ++ button .recent "button_recent" .recent

/-- The profile of a player. Its record is kept for the leaderboards of chats. -/
def user : Answer Reply := do
  let context ← read
  let query ← playerQuery (← reference) .lookup
  let record ← askUser query
  keepRecord record
  return (Reply.ofText (Report.profile context.catalog record)).withRow
    (profileButtons context record)

def playsParameters (context : Context) (player : Reference) : Parameters :=
  [("nickname", player.label), ("mode", context.mode.name)]

/-- The button of each play that can be drawn, numbered like the plays. -/
def playButtons (context : Context) (scores : List Score) : List Button :=
  (scores.mapIdx fun index score => context.renderButton? score (index + 1)).filterMap id

def top : Answer Reply := do
  let context ← read
  let player ← reference
  let scores ← askTop (← playerQuery player .top) topLimit
  let parameters := playsParameters context player
  if scores.isEmpty then
    return .ofText (context.text "top_empty" parameters)
  let header := context.text "top_header" parameters
  return (Reply.ofText (Report.scores context.catalog header scores)).withRow
    (playButtons context scores)

def scoreReply (context : Context) (header : String) (score : Score) : Reply :=
  (Reply.ofText (Report.scores context.catalog header [score])).withRow
    (context.scoreButtons score)

def recent : Answer Reply := do
  let context ← read
  let player ← reference
  let parameters := playsParameters context player
  match ← askRecent (← playerQuery player .recent) with
  | [] => return .ofText (context.text "recent_empty" parameters)
  | score :: _ =>
    showBeatmap score.beatmapId
    return scoreReply context (context.text "recent_header" parameters) score

end RhythmBot.Answer
