import RhythmBot.Leaderboard
import RhythmBot.Reply
import RhythmBot.Score
/-!
The interface of a server and of a renderer as commands see it: what can be asked, how it can fail,
and the calls made.
-/

namespace RhythmBot

/-- Why an exchange with a server has no result: the request cannot be built, the server answers
with an error status, its answer cannot be read, or anything else. -/
inductive HttpFault where
  | builder
  | status (code : Nat)
  | decode
  | other
  deriving Repr, DecidableEq

inductive RemoteError where
  | notFound
  | unsupported (operation : String)
  | http (fault : HttpFault)
  deriving Repr, DecidableEq

/-- Why no player can be found for a command: the sender replied to has no account, the sender has
none and names nobody, or the id typed is blank. -/
inductive ResolutionFailure where
  | noIdentity
  | noLinkedAccount
  | invalidId
  deriving Repr, DecidableEq

def ResolutionFailure.key : ResolutionFailure → String
  | .noIdentity => "no_identity"
  | .noLinkedAccount => "no_linked_account"
  | .invalidId => "invalid_id"

def ResolutionFailure.message : ResolutionFailure → String
  | .noIdentity => "replied sender has no linked account"
  | .noLinkedAccount => "sender has no linked account"
  | .invalidId => "empty player id"

inductive Failure where
  | remote (error : RemoteError)
  | resolution (failure : ResolutionFailure)
  | save
  | other (message : String)
  | panic
  deriving Repr, DecidableEq

abbrev Outcome := Except Failure

structure Remote where
  user : PlayerQuery → Mode → Outcome Record
  top : PlayerQuery → Mode → Nat → Outcome (List Score)
  recent : PlayerQuery → Mode → Outcome (List Score)
  score : String → Mode → Outcome Score
  leaderboard : String → List String → Mode → Option Mods → Outcome (List Entry)

abbrev Renderer := Score → Mode → Outcome Image

inductive Call where
  | user (query : PlayerQuery) (mode : Mode)
  | top (query : PlayerQuery) (mode : Mode) (limit : Nat)
  | recent (query : PlayerQuery) (mode : Mode)
  | score (scoreId : String) (mode : Mode)
  | leaderboard (beatmapId : String) (players : List String) (mode : Mode) (mods : Option Mods)
  | render (score : Score) (mode : Mode)

def Call.mode : Call → Mode
  | .user _ mode => mode
  | .top _ mode _ => mode
  | .recent _ mode => mode
  | .score _ mode => mode
  | .leaderboard _ _ mode _ => mode
  | .render _ mode => mode

end RhythmBot
