import RhythmBot.Mods
/-!
Plays.
-/

namespace RhythmBot

/-- A single play. Some servers give no id, and unranked plays have no performance. -/
structure Score where
  scoreId : Option String
  beatmapId : String
  title : String
  mods : Mods
  accuracy : Float
  performance : Option Float
  grade : String
  maxCombo : Nat

end RhythmBot
