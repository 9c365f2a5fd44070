import RhythmBot.Capabilities
/-!
The commands of the bot: their names, aliases in two scripts, usage, and when a server offers them.
-/

namespace RhythmBot

inductive Command where
  | help
  | user
  | top
  | recent
  | set
  | unset
  | mode
  | chat
  | leaderboard
  | score
  | render
  deriving Repr, DecidableEq

namespace Command

def all : List Command :=
  [.help, .user, .top, .recent, .set, .unset, .mode, .chat, .leaderboard, .score, .render]

def aliases : Command → List String
  | .help => ["help", "h", "помощь", "хелп"]
  | .user => ["user", "u", "profile", "профиль", "юзер"]
  | .top => ["top", "best", "топ", "лучшие"]
  | .recent => ["recent", "r", "rs", "последний", "рс"]
  | .set => ["set", "link", "привязать", "сет"]
  | .unset => ["unset", "unlink", "отвязать", "ансет"]
  | .mode => ["mode", "режим", "мод"]
  | .chat => ["chat", "чат"]
  | .leaderboard => ["lb", "leaderboard", "лб", "лидерборд"]
  | .score => ["score", "скор"]
  | .render => ["render", "рендер"]

def name : Command → String
  | .help => "help"
  | .user => "user"
  | .top => "top"
  | .recent => "recent"
  | .set => "set"
  | .unset => "unset"
  | .mode => "mode"
  | .chat => "chat"
  | .leaderboard => "lb"
  | .score => "score"
  | .render => "render"

def usage : Command → String
  | .help => ""
  | .user => "[mode] [nickname]"
  | .top => "[mode] [nickname]"
  | .recent => "[mode] [nickname]"
  | .set => "[mode] <nickname>"
  | .unset => ""
  | .mode => "<mode>"
  | .chat => "[mode] [chat_id]"
  | .leaderboard => "[mode] [beatmap_id] [+mods]"
  | .score => "[mode] <score_id>"
  | .render => "[mode] <score_id>"

def needsPlayer : Command → Bool
  | .user => true
  | .top => true
  | .recent => true
  | _ => false

def takesMods : Command → Bool
  | .leaderboard => true
  | _ => false

/-- Whether a server with the given capabilities offers a command; rendering has to be there. -/
def isOffered (capabilities : Capabilities) (renders : Bool) : Command → Bool
  | .top => capabilities.supports .top
  | .recent => capabilities.supports .recent
  | .leaderboard => capabilities.leaderboard
  | .score => capabilities.scoreById
  | .render => capabilities.scoreById && renders
  | _ => true

def offered (capabilities : Capabilities) (renders : Bool) : List Command :=
  all.filter (isOffered capabilities renders)

def ofAlias? (commands : List Command) (name : String) : Option Command :=
  commands.find? fun command => command.aliases.contains name

theorem mem_all (command : Command) : command ∈ all := by
  cases command <;> decide

theorem name_mem_aliases (command : Command) : command.name ∈ command.aliases := by
  cases command <;> decide

end Command

end RhythmBot
