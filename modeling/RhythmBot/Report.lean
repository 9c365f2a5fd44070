import RhythmBot.Catalog
import RhythmBot.Command
import RhythmBot.Decimal.Fixed
import RhythmBot.Leaderboard
import RhythmBot.Score
import RhythmBot.Text.Blank
/-!
The texts of replies: profiles, scores, leaderboards, the help and the usage of a command.
-/

namespace RhythmBot.Report

open Decimal

def points (performance : Float) : String := fixed 0 performance

def percent (accuracy : Float) : String := fixed 2 accuracy

def page (header : String) (lines : List String) : String :=
  header ++ "\n\n" ++ "\n".intercalate lines

def usageLine (server : String) (command : Command) : String :=
  Text.trimEnd (server ++ " " ++ command.name ++ " " ++ command.usage)

def usage (catalog : Catalog) (server : String) (command : Command) : String :=
  catalog.text "usage" [("usage", usageLine server command)]

def helpLine (catalog : Catalog) (server : String) (command : Command) : String :=
  catalog.text "help_line"
    [("usage", usageLine server command),
      ("description", catalog.text ("help_" ++ command.name) [])]

def help (catalog : Catalog) (name link server : String) (commands : List Command) : String :=
  page (catalog.text "help_header" [("server", name), ("link", link)])
    (commands.map (helpLine catalog server))

def rankText (catalog : Catalog) (rank : Nat) : String :=
  if rank = 0 then catalog.text "unranked" [] else "#" ++ toString rank

def profile (catalog : Catalog) (record : Record) : String :=
  catalog.text "profile"
    [("nickname", record.nickname),
      ("mode", record.mode.name),
      ("country", record.country.getD "-"),
      ("rank", rankText catalog record.rank),
      ("performance", points record.performance),
      ("accuracy", percent record.accuracy),
      ("play_count", toString record.playCount)]

def scorePoints : Option Float → String
  | some performance => points performance ++ "pp"
  | none => "-"

def scoreLine (catalog : Catalog) (index : Nat) (score : Score) : String :=
  catalog.text "score_line"
    [("index", toString index),
      ("title", score.title),
      ("mods", score.mods.text),
      ("accuracy", percent score.accuracy),
      ("grade", score.grade),
      ("combo", toString score.maxCombo),
      ("performance", scorePoints score.performance)]

def scores (catalog : Catalog) (header : String) (list : List Score) : String :=
  page header (list.mapIdx fun index score => scoreLine catalog (index + 1) score)

def entryLine (catalog : Catalog) (index : Nat) (entry : Entry) : String :=
  catalog.text "leaderboard_line"
    [("index", toString index),
      ("nickname", entry.nickname),
      ("rank", toString entry.rank),
      ("performance", points entry.performance),
      ("accuracy", percent entry.accuracy)]

def leaderboard (catalog : Catalog) (header : String) (entries : List Entry) : String :=
  page header (entries.mapIdx fun index entry => entryLine catalog (index + 1) entry)

end RhythmBot.Report
