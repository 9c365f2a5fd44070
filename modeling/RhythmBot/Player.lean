import RhythmBot.Decimal.Shortest
import RhythmBot.Mode
/-!
Players of a server: their statistics, the accounts that link chat senders to them, and the ways to
point at one.
-/

namespace RhythmBot

/-- The statistics of a player in one mode. Rank 0 means unranked. -/
structure Record where
  playerId : String
  nickname : String
  mode : Mode
  rank : Nat
  performance : Float
  accuracy : Float
  playCount : Nat
  country : Option String

def Record.summary (record : Record) : String :=
  "id=" ++ record.playerId ++ ", nickname=" ++ record.nickname ++ ", mode=" ++ record.mode.name ++
    ", rank=" ++ toString record.rank ++ ", pp=" ++ Decimal.plain record.performance

structure Account where
  remoteId : String
  nickname : String
  mode : Option Mode
  deriving Repr, DecidableEq

inductive PlayerQuery where
  | name (text : String)
  | id (text : String)
  deriving Repr, DecidableEq

def PlayerQuery.summary : PlayerQuery → String
  | .name text => "name=" ++ text
  | .id text => "id=" ++ text

inductive Reference where
  | linked (account : Account)
  | nickname (text : String)
  | id (text : String)
  deriving Repr, DecidableEq

def Reference.label : Reference → String
  | .linked account => account.nickname
  | .nickname text => text
  | .id text => text

def Reference.mode? : Reference → Option Mode
  | .linked account => account.mode
  | _ => none

end RhythmBot
