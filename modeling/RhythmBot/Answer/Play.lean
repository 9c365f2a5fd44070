import RhythmBot.Answer.Profile
/-!
The commands about one play: showing it and drawing it.
-/

namespace RhythmBot.Answer

/-- The play whose id is typed, if one is. Its beatmap becomes the last one of the room. -/
def typedScore : Answer (Option Score) := do
  match (← read).arguments.nickname with
  | [] => return none
  | scoreId :: _ =>
    let score ← askScore scoreId
    showBeatmap score.beatmapId
    return some score

def score : Answer Reply := do
  let context ← read
  match ← typedScore with
  | none => return context.usageReply .score
  | some score =>
    let header := context.text "score_header"
      [("score", score.scoreId.getD ""), ("mode", context.mode.name)]
    return scoreReply context header score

def render : Answer Reply := do
  let context ← read
  match context.renderer with
  | none => return .ofText (context.text "unsupported" [])
  | some renderer =>
    match ← typedScore with
    | none => return context.usageReply .render
    | some score =>
      let image ← askImage renderer score
      return (Reply.ofText
        (context.text "render_done" [("score", score.scoreId.getD "")])).withImage image

end RhythmBot.Answer
