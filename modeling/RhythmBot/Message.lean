import RhythmBot.Text.Blank
/-!
Chat messages, the command lines among them, and how command lines are written.
-/

namespace RhythmBot

open Text

structure Origin where
  room : Option String
  sender : String
  replyTo : Option String
  deriving Repr, DecidableEq

structure Message where
  body : String
  origin : Origin
  deriving Repr, DecidableEq

/-- A command line taken apart: the alias of a server, the alias of a command unless only the
server is named, and the tokens behind them. -/
structure CommandLine where
  server : String
  command : Option String
  arguments : List String
  deriving Repr, DecidableEq

namespace CommandLine

def ofWords? : List String → Option CommandLine
  | [] => none
  | [server] => some ⟨server, none, []⟩
  | server :: command :: arguments => some ⟨server, some command, arguments⟩

def read? (mark : Char) (body : String) : Option CommandLine :=
  match strip body.toList with
  | [] => none
  | first :: rest =>
    if first = mark ∧ (rest.head?.any fun c => !isBlank c) then
      ofWords? (words (String.ofList rest))
    else none

/-- Writes a command line: the mark, the server's alias, the command, and the arguments that are
not empty, with a space between each two. -/
def write (mark : Char) (server command : String) (arguments : List String) : String :=
  String.ofList [mark] ++ " ".intercalate
    (server :: command :: arguments.filter fun argument => !argument.isEmpty)

end CommandLine

end RhythmBot
