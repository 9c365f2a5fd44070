import RhythmBot.Arguments
import RhythmBot.Message
import RhythmBot.Remote
import RhythmBot.Server
import RhythmBot.Store.Players
/-!
Who a command is about: the player typed, else the account of the sender replied to, else the
account of the sender.
-/

namespace RhythmBot.Identity

/-- The player typed in the arguments, if there is one: a name where players are found by name, else
an id, which must not be blank. -/
def explicit? (capabilities : Capabilities) (arguments : Arguments) :
    Option (Except ResolutionFailure Reference) :=
  arguments.joined?.map fun joined =>
    if capabilities.lookupByName then .ok (.nickname joined)
    else if Text.isBlankText joined then .error .invalidId
    else .ok (.id joined)

def linked (players : Store.Players) (sender : String) (otherwise : ResolutionFailure) :
    Except ResolutionFailure Reference :=
  match players.account? sender with
  | some account => .ok (.linked account)
  | none => .error otherwise

def resolve (capabilities : Capabilities) (players : Store.Players) (origin : Origin)
    (arguments : Arguments) : Except ResolutionFailure Reference :=
  match explicit? capabilities arguments with
  | some typed => typed
  | none =>
    match origin.replyTo with
    | some sender => linked players sender .noIdentity
    | none => linked players origin.sender .noLinkedAccount

end RhythmBot.Identity
