import RhythmBot.Identity
import RhythmBot.Report
import RhythmBot.Store.Chats
/-!
How a command works out its answer: it knows its context, reads and changes the books of its server
and of the chats, asks the server, and may fail. What it changed and asked before a failure stays.
-/

namespace RhythmBot

/-- What a command knows: its server, where the message comes from, its arguments, the sender's
account, the player it is about if it needs one, and how the world answers. -/
structure Context where
  server : Server
  origin : Origin
  arguments : Arguments
  account : Option Account
  reference : Option Reference
  catalog : Catalog
  mark : Char
  remote : Remote
  renderer : Option Renderer
  disk : Store.Attempt

/-- What a command may change, and the calls made so far. -/
structure Books where
  players : Store.Players
  chats : Store.Chats
  calls : List Call

abbrev Answer := ReaderT Context (ExceptT Failure (StateM Books))

namespace Context

/-- The mode of the command: the one typed, else the default of the account that the command is
about, else the default of the sender, else the first mode. -/
def mode (context : Context) : Mode :=
  (context.arguments.mode
    <|> context.reference.bind Reference.mode?
    <|> context.account.bind Account.mode).getD .standard

def text (context : Context) (key : String) (parameters : Parameters) : String :=
  context.catalog.text key parameters

def address (context : Context) : String :=
  String.ofList [context.mark] ++ context.server.primaryAlias

def followUp (context : Context) (command : Command) (target : String) : String :=
  CommandLine.write context.mark context.server.primaryAlias command.name
    [context.mode.name, target]

def setLine (context : Context) : String :=
  CommandLine.write context.mark context.server.primaryAlias Command.set.name []

def usageReply (context : Context) (command : Command) : Reply :=
  .ofText (Report.usage context.catalog context.address command)

def renderButton? (context : Context) (score : Score) (index : Nat) : Option Button :=
  if context.renderer.isSome && context.server.capabilities.scoreById then
    score.scoreId.map fun scoreId =>
      ⟨context.text "button_render" [("index", toString index)],
        context.followUp .render scoreId⟩
  else none

def leaderboardButton? (context : Context) (beatmapId : String) : Option Button :=
  if context.server.capabilities.leaderboard then
    some ⟨context.text "button_lb" [], context.followUp .leaderboard beatmapId⟩
  else none

def scoreButtons (context : Context) (score : Score) : List Button :=
  (context.leaderboardButton? score.beatmapId).toList ++ (context.renderButton? score 1).toList

end Context

namespace Answer

def fail {α : Type} (failure : Failure) : Answer α := throw failure

def ask {α : Type} (call : Call) (outcome : Outcome α) : Answer α := do
  modify fun books => { books with calls := books.calls ++ [call] }
  match outcome with
  | .ok value => return value
  | .error failure => fail failure

def askUser (query : PlayerQuery) : Answer Record := do
  let context ← read
  ask (.user query context.mode) (context.remote.user query context.mode)

def askTop (query : PlayerQuery) (limit : Nat) : Answer (List Score) := do
  let context ← read
  ask (.top query context.mode limit) (context.remote.top query context.mode limit)

def askRecent (query : PlayerQuery) : Answer (List Score) := do
  let context ← read
  ask (.recent query context.mode) (context.remote.recent query context.mode)

def askScore (scoreId : String) : Answer Score := do
  let context ← read
  ask (.score scoreId context.mode) (context.remote.score scoreId context.mode)

def askLeaderboard (beatmapId : String) (players : List String) (mods : Option Mods) :
    Answer (List Entry) := do
  let context ← read
  ask (.leaderboard beatmapId players context.mode mods)
    (context.remote.leaderboard beatmapId players context.mode mods)

def askImage (renderer : Renderer) (score : Score) : Answer Image := do
  let context ← read
  ask (.render score context.mode) (renderer score context.mode)

def reference : Answer Reference := do
  match (← read).reference with
  | some reference => return reference
  | none => fail (.other "command called without player resolution")

/-- How to ask the server about a player for an operation: in the form at hand if the operation has
it, else in the other form after looking the player up. An account has both forms. -/
def playerQuery (reference : Reference) (operation : Operation) : Answer PlayerQuery := do
  let capabilities := (← read).server.capabilities
  let byName := capabilities.byName operation
  let byId := capabilities.byId operation
  match reference with
  | .linked account =>
    if byId then return .id account.remoteId
    if byName then return .name account.nickname
  | .nickname text =>
    if byName then return .name text
    if byId && capabilities.lookupByName then return .id (← askUser (.name text)).playerId
  | .id text =>
    if byId then return .id text
    if byName && capabilities.lookupById then return .name (← askUser (.id text)).nickname
  fail (.remote (.unsupported "player query"))

def changeChats (change : Store.Chats → Store.Chats) : Answer Unit :=
  modify fun books => { books with chats := change books.chats }

def showBeatmap (beatmapId : String) : Answer Unit := do
  match (← read).origin.room with
  | some room => changeChats (·.setLastBeatmap room beatmapId)
  | none => return

/-- Changes an account; a change that cannot be saved is a failure. Tells whether there was anything
to change. -/
def changeAccount (change : Store.Players → Store.Change × Store.Players) : Answer Bool := do
  let books ← get
  let (outcome, players) := change books.players
  set { books with players := players }
  match outcome with
  | .saved => return true
  | .nothing => return false
  | .failed => fail .save

def keepRecord (record : Record) : Answer Unit :=
  modify fun books => { books with players := books.players.putRecord record }

/-- The players linked to the members of a room, in the order of the members. -/
def memberPlayers (room : String) : Answer (List String) := do
  let books ← get
  return (books.chats.membersOf room).filterMap fun member =>
    (books.players.account? member).map Account.remoteId

end Answer

end RhythmBot
