import RhythmBot.Command
import RhythmBot.Player
import RhythmBot.Router
/-!
Servers: their names and aliases, what they can do, and the commands that they offer.
-/

namespace RhythmBot

inductive SetupError where
  | capability (fault : CapabilityError)
  | noAlias (server : String)
  | registry (error : RegistryError)
  | noServer
  deriving Repr, DecidableEq

def SetupError.message : SetupError → String
  | .capability fault => fault.message
  | .noAlias server => "server " ++ server ++ " has no alias"
  | .registry error => error.message
  | .noServer => "no server configured"

structure ServerInfo where
  name : String
  aliases : List String
  link : String
  capabilities : Capabilities
  deriving Repr, DecidableEq

/-- A server with usable capabilities. Its first alias is the one used in command lines; rendering
is offered if it is there. -/
structure Server where
  name : String
  primaryAlias : String
  otherAliases : List String
  link : String
  capabilities : Capabilities
  renders : Bool
  usable : capabilities.validate = .ok ()

namespace Server

def build (info : ServerInfo) (renders : Bool) : Except SetupError Server :=
  match usable : info.capabilities.validate with
  | .error fault => .error (.capability fault)
  | .ok () =>
    match info.aliases with
    | [] => .error (.noAlias info.name)
    | primary :: others =>
      .ok ⟨info.name, primary, others, info.link, info.capabilities, renders, usable⟩

def aliases (server : Server) : List String :=
  server.primaryAlias :: server.otherAliases

def commands (server : Server) : List Command :=
  Command.offered server.capabilities server.renders

def command? (server : Server) (name : String) : Option Command :=
  Command.ofAlias? server.commands name

/-- What names the player of a record in a command line: the nickname where players are found by
name, else the id. -/
def target (server : Server) (record : Record) : String :=
  if server.capabilities.lookupByName then record.nickname else record.playerId

end Server

end RhythmBot
