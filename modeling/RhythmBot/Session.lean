import RhythmBot.Answer
/-!
A session: messages are routed to a server and a command, which answers with a reply; every failure
becomes a reply as well.
-/

namespace RhythmBot

structure Session where
  mark : Char
  catalog : Catalog
  servers : Router Server

structure State where
  players : Nat → Store.Players
  chats : Store.Chats

/-- How the world answers while a message is handled: the server at each position, the renderer if
there is one, and the disk when the players of a server are saved. -/
structure World where
  remote : Nat → Remote
  renderer : Option Renderer
  disk : Nat → Store.Attempt

structure Invocation where
  position : Nat
  server : Server
  command : Command
  tokens : List String

/-- Where a message body leads: nowhere, to a reply about an unknown command, or to a command. -/
inductive Route where
  | ignored
  | unknownCommand (text : String)
  | invocation (invocation : Invocation)

structure Turn where
  reply : Option Reply
  calls : List Call
  state : State

namespace State

def withPlayers (state : State) (position : Nat) (players : Store.Players) : State :=
  { state with players := fun other => if other = position then players else state.players other }

def seen (state : State) (origin : Origin) : State :=
  match origin.room with
  | some room => { state with chats := state.chats.addMember room origin.sender }
  | none => state

end State

namespace Session

def empty (mark : Char) (catalog : Catalog) : Session := ⟨mark, catalog, .empty⟩

def addServer (session : Session) (server : Server) : Except RegistryError Session :=
  (session.servers.register server.aliases server).map fun servers =>
    { session with servers := servers }

def build (session : Session) (renders : Bool) (info : ServerInfo) : Except SetupError Session := do
  let server ← Server.build info renders
  (session.addServer server).mapError .registry

def server? (session : Session) (name : String) : Option (Nat × Server) := do
  let position ← session.servers.position? name
  let server ← session.servers.values[position]?
  some (position, server)

def unknownCommandText (session : Session) (server : Server) (serverAlias command : String) :
    String :=
  let help := CommandLine.write session.mark serverAlias Command.help.name []
  Reply.tagged server.name
    (session.catalog.text "unknown_command" [("command", command), ("help", help)])

/-- Where a message body leads. A server named alone is asked for its help. -/
def route (session : Session) (body : String) : Route :=
  match CommandLine.read? session.mark body with
  | none => .ignored
  | some line =>
    match session.server? line.server with
    | none => .ignored
    | some (position, server) =>
      let name := line.command.getD Command.help.name
      match server.command? name with
      | none => .unknownCommand (session.unknownCommandText server line.server name)
      | some command => .invocation ⟨position, server, command, line.arguments⟩

def resolutionText (session : Session) (server : Server) (failure : ResolutionFailure) : String :=
  let set := CommandLine.write session.mark server.primaryAlias Command.set.name []
  session.catalog.text failure.key [("set", set)]

def failureText (session : Session) (server : Server) : Failure → String
  | .resolution failure => session.resolutionText server failure
  | .remote .notFound => session.catalog.text "not_found" []
  | .remote (.unsupported _) => session.catalog.text "unsupported" []
  | _ => session.catalog.text "failure" []

def player (invocation : Invocation) (players : Store.Players) (origin : Origin)
    (arguments : Arguments) : Except ResolutionFailure (Option Reference) :=
  if invocation.command.needsPlayer then
    (Identity.resolve invocation.server.capabilities players origin arguments).map some
  else .ok none

def context (session : Session) (world : World) (players : Store.Players) (origin : Origin)
    (invocation : Invocation) (arguments : Arguments) (reference : Option Reference) : Context where
  server := invocation.server
  origin := origin
  arguments := arguments
  account := players.account? origin.sender
  reference := reference
  catalog := session.catalog
  mark := session.mark
  remote := world.remote invocation.position
  renderer := world.renderer
  disk := world.disk invocation.position

/-- Runs an invocation. The sender counts as a member of the room first; then the player is found
if one is needed; then the command answers. -/
def dispatch (session : Session) (world : World) (state : State) (origin : Origin)
    (invocation : Invocation) : Turn :=
  let state := state.seen origin
  let players := state.players invocation.position
  let arguments := Arguments.parse invocation.command.takesMods invocation.tokens
  let server := invocation.server
  match player invocation players origin arguments with
  | .error failure =>
    ⟨some ((Reply.ofText (session.resolutionText server failure)).tag server.name), [], state⟩
  | .ok reference =>
    let context := session.context world players origin invocation arguments reference
    let (outcome, books) :=
      (Answer.ofCommand invocation.command).run context ⟨players, state.chats, []⟩
    let reply := match outcome with
      | .ok reply => reply
      | .error failure => .ofText (session.failureText server failure)
    ⟨some (reply.tag server.name), books.calls,
      { state.withPlayers invocation.position books.players with chats := books.chats }⟩

def handle (session : Session) (world : World) (state : State) (message : Message) : Turn :=
  match session.route message.body with
  | .ignored => ⟨none, [], state⟩
  | .unknownCommand text => ⟨some (.ofText text), [], state⟩
  | .invocation invocation => session.dispatch world state message.origin invocation

end Session

end RhythmBot
