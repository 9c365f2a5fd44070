import RhythmBot.Answer.Boards
import RhythmBot.Answer.Link
import RhythmBot.Answer.Play
/-!
The answer of every command.
-/

namespace RhythmBot

namespace Answer

def help : Answer Reply := do
  let context ← read
  return .ofText
    (Report.help context.catalog context.server.name context.server.link context.address
      context.server.commands)

def ofCommand : Command → Answer Reply
  | .help => help
  | .user => user
  | .top => top
  | .recent => recent
  | .set => set
  | .unset => unset
  | .mode => mode
  | .chat => chat
  | .leaderboard => leaderboard
  | .score => score
  | .render => render

def run {α : Type} (answer : Answer α) (context : Context) (books : Books) :
    Outcome α × Books :=
  (ReaderT.run answer context).run.run books

end Answer

end RhythmBot
