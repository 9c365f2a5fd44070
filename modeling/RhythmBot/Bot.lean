import RhythmBot.Config
import RhythmBot.Console
import RhythmBot.Http.Drawing
import RhythmBot.Http.Service
import RhythmBot.Launch
import RhythmBot.Session
import RhythmBot.Store.Location
/-!
The bot: a session with the servers of its configuration, which are asked over the network.
-/

namespace RhythmBot

inductive StartError where
  | settings (error : SettingsError)
  | setup (error : SetupError)
  deriving Repr, DecidableEq

structure Bot where
  session : Session
  servers : List ServerConfig
  renderUrl : Option String

namespace ServerConfig

def info (config : ServerConfig) : ServerInfo :=
  ⟨config.name, config.aliases, config.link, config.capabilities⟩

def service (config : ServerConfig) : Http.Service :=
  ⟨config.url, config.apiKey, config.capabilities⟩

def playersFile (config : ServerConfig) : String :=
  Store.playersFile (config.aliases.head?.getD "")

end ServerConfig

namespace Bot

def addServer (renders : Bool) (session : Session) (config : ServerConfig) :
    Except SetupError Session := do
  if config.aliases.isEmpty then .error (.noAlias config.name)
  session.build renders config.info

def build (config : Config) (catalog : Catalog) : Except SetupError Bot := do
  let session ← config.servers.foldlM (addServer config.renderUrl.isSome)
    (Session.empty config.mark catalog)
  return ⟨session, config.servers, config.renderUrl⟩

/-- Starts the bot of a configuration. `localeFile` gives the content of the file of texts that the
configuration may name. -/
def start (config : Config) (localeFile : String → Option String) : Except StartError Bot := do
  if config.servers.isEmpty then .error (.setup .noServer)
  let catalog ← match config.localePath with
    | some path => (Catalog.load (localeFile path)).mapError .settings
    | none => .ok .default
  (build config catalog).mapError .setup

def load (bot : Bot) (file : String → Option String) : State where
  players position :=
    match bot.servers[position]? with
    | some config => .onFile ⟨file config.playersFile, none⟩
    | none => .inMemory
  chats := .onFile ⟨file Store.chatsFile, none⟩

/-- How the disk takes the players of the server at a position: a file further down than the
directory of the stores cannot be written. -/
def disk (bot : Bot) (writable : Bool) (position : Nat) : Store.Attempt :=
  if writable && bot.servers[position]?.any fun config => Store.isDirect config.playersFile then
    .succeeds
  else .failsToWrite none

def save (bot : Bot) (writable : Bool) (state : State) : State where
  players position := (state.players position).save (bot.disk writable position)
  chats := state.chats.save (if writable then .succeeds else .failsToWrite none)

def world (bot : Bot) (network : Http.Network) (writable : Bool) : World where
  remote position :=
    ((bot.servers[position]?.map ServerConfig.service).getD default).remote network
  renderer := bot.renderUrl.map fun address => Http.renderer address network
  disk := bot.disk writable

def handle (bot : Bot) (network : Http.Network) (writable : Bool) (state : State)
    (message : Message) : Turn :=
  bot.session.handle (bot.world network writable) state message

def run (bot : Bot) (network : Http.Network) (writable : Bool) (state : State) :
    List Message → List (Message × Turn) × State
  | [] => ([], state)
  | message :: rest =>
    let turn := bot.handle network writable state message
    let (later, state) := bot.run network writable turn.state rest
    ((message, turn) :: later, state)

def boot (launch : Launch) (file : String → Option String) (environment : List (String × String)) :
    Except StartError (Bot × State) := do
  let config ← (Config.load (file launch.config) environment).mapError .settings
  let bot ← start config file
  return (bot, bot.load fun name => file (Store.pathIn launch.data name))

def transcript (turns : List (Message × Turn)) : String :=
  String.join (turns.map fun (message, turn) =>
    (turn.reply.map (Console.replyText message.origin)).getD "")

/-- What the bot prints for the bytes of the standard input. The first line that is no text ends
it. -/
def output (bot : Bot) (network : Http.Network) (writable : Bool) (sender : String) (state : State)
    (input : List UInt8) : String :=
  transcript (bot.run network writable state
    (((Console.receive sender input).takeWhile Option.isSome).filterMap id)).1

def files (bot : Bot) (state : State) : List (String × Option String) :=
  (Store.chatsFile, state.chats.file.bind Store.File.content) ::
    bot.servers.mapIdx fun position config =>
      (config.playersFile, (state.players position).file.bind Store.File.content)

end Bot

end RhythmBot
