import RhythmBot.Table
import RhythmBot.Template
/-!
The texts of replies by key: the English ones, and others that replace some of them.
-/

namespace RhythmBot

structure Catalog where
  texts : Table String

abbrev Parameters := List (String × String)

namespace Catalog

def english : List (String × String) :=
  [("unknown_command", "Unknown command `{command}`. Type `{help}` for the list of commands."),
    ("no_identity",
      "The player you replied to has not linked an account, give a nickname instead."),
    ("no_linked_account", "You have not linked an account, use `{set}` or give a nickname."),
    ("invalid_id", "Invalid player id."),
    ("not_found", "Not found on this server."),
    ("failure", "Something went wrong, please try again later."),
    ("unsupported", "This server does not support this request."),
    ("usage", "Usage: `{usage}`"),
    ("help_header", "Commands of {server} ({link}):"),
    ("help_line", "- `{usage}`: {description}"),
    ("help_help", "show this help message"),
    ("help_user", "show the profile of a player"),
    ("help_top", "show the best plays of a player"),
    ("help_recent", "show the most recent play of a player"),
    ("help_set", "link your chat account to a player"),
    ("help_unset", "unlink your chat account"),
    ("help_mode", "set your default mode"),
    ("help_chat", "show the leaderboard of the chat members"),
    ("help_lb", "show the leaderboard of a beatmap among the chat members"),
    ("help_score", "show a score by its id"),
    ("help_render", "render a score by its id"),
    ("profile",
      "**{nickname}** ({mode}, {country})\nRank: {rank}\nPerformance: {performance}pp\n" ++
        "Accuracy: {accuracy}%\nPlay count: {play_count}"),
    ("unranked", "unranked"),
    ("button_top", "Top plays"),
    ("button_recent", "Recent"),
    ("button_lb", "Beatmap leaderboard"),
    ("button_render", "Render #{index}"),
    ("top_header", "Best plays of **{nickname}** ({mode}):"),
    ("top_empty", "**{nickname}** has no play in {mode}."),
    ("recent_header", "Most recent play of **{nickname}** ({mode}):"),
    ("recent_empty", "**{nickname}** has no recent play in {mode}."),
    ("score_header", "Score {score} ({mode}):"),
    ("score_line", "{index}. {title} +{mods} {accuracy}% {grade} x{combo} {performance}"),
    ("set_done", "Linked to **{nickname}** ({id})."),
    ("set_taken", "**{nickname}** is already linked to another chat account."),
    ("unset_done", "Your account is no longer linked."),
    ("unset_missing", "You have no linked account."),
    ("mode_done", "Default mode set to {mode}."),
    ("mode_invalid", "Unknown mode, use one of: {modes}."),
    ("chat_header", "Leaderboard of the chat ({mode}):"),
    ("chat_empty", "No ranked player in this chat."),
    ("chat_no_room", "Use this command in a chat, or give a chat id."),
    ("chat_invalid", "Invalid chat id `{chat}`."),
    ("leaderboard_line", "{index}. **{nickname}** #{rank} {performance}pp {accuracy}%"),
    ("lb_header", "Leaderboard of beatmap {beatmap} ({mode}, {mods}):"),
    ("lb_empty", "No chat member has played beatmap {beatmap}."),
    ("lb_no_map", "No beatmap given, and none was shown in this chat."),
    ("render_done", "Render of score {score}.")]

def overridden (texts : List (String × String)) : Catalog :=
  ⟨Table.ofList (english ++ texts)⟩

def default : Catalog := overridden []

instance : Inhabited Catalog := ⟨default⟩

/-- The text of a key, filled with parameters; a key without text stands for itself. -/
def text (catalog : Catalog) (key : String) (parameters : Parameters) : String :=
  match catalog.texts.find? key with
  | some template => Template.fill template parameters
  | none => key

end Catalog

end RhythmBot
