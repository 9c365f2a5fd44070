import RhythmBot.Bot
import RhythmBot.Launch
/-!
The program: reads the configuration, then answers the lines of the standard input. No server can be
reached from here, so every request fails.
-/

namespace RhythmBot.Main

def network : Http.Network := fun _ => none

def readText (path : String) : IO (Option String) := do
  try
    return some (← IO.FS.readFile path)
  catch _ => return none

def readTexts (paths : List String) : IO (String → Option String) := do
  let found ← paths.mapM fun path => return (path, ← readText path)
  return fun path => (entryValue? path found).join

def assignment? (text : List Char) : Option (String × String) :=
  match text.dropWhile (· != '=') with
  | '=' :: value => some (String.ofList (text.takeWhile (· != '=')), String.ofList value)
  | _ => none

def environment : IO (List (String × String)) := do
  let text := (← readText "/proc/self/environ").getD ""
  return (Http.Form.splitAt (Char.ofNat 0) text.toList).filterMap assignment?

def writeText (path text : String) : IO Bool := do
  try
    IO.FS.writeFile (path ++ ".tmp") text
    IO.FS.rename (path ++ ".tmp") path
    return true
  catch _ => return false

def writeChanges (bot : Bot) (directory : String) (before after : State) : IO Bool := do
  let changed := ((bot.files before).zip (bot.files after)).filterMap fun (old, new) =>
    if old.2 = new.2 then none else new.2.map (new.1, ·)
  let written ← changed.mapM fun (name, text) => writeText (Store.pathIn directory name) text
  return written.all id

/-- Handles a message and prints the reply. What cannot be written is handled as not writable. -/
def answer (bot : Bot) (directory : String) (state : State) (message : Message) : IO State := do
  let hoped := bot.handle network true state message
  let turn :=
    if ← writeChanges bot directory state hoped.state then hoped
    else bot.handle network false state message
  match turn.reply with
  | some reply =>
    let output ← IO.getStdout
    output.putStr (Console.replyText message.origin reply)
    output.flush
  | none => pure ()
  return turn.state

partial def answerLines (bot : Bot) (launch : Launch) (input : IO.FS.Stream) (state : State) :
    IO Unit := do
  let line ← input.getLine
  if line.isEmpty then return
  let messages := (Console.receive launch.sender line.toUTF8.toList).filterMap id
  answerLines bot launch input (← messages.foldlM (answer bot launch.data) state)

def run (launch : Launch) : IO Unit := do
  let errors ← IO.getStderr
  match Config.load (← readText launch.config) (← environment) with
  | .error _ => errors.putStrLn "Failed to load config file"
  | .ok config =>
    match Bot.start config (← readTexts config.localePath.toList) with
    | .error _ => errors.putStrLn "Failed to initialize bot"
    | .ok bot =>
      let paths := (bot.files (bot.load fun _ => none)).map fun file =>
        Store.pathIn launch.data file.1
      let texts ← readTexts paths
      let state := bot.load fun name => texts (Store.pathIn launch.data name)
      let saved := bot.save true state
      let state := if ← writeChanges bot launch.data state saved then saved else state
      answerLines bot launch (← IO.getStdin) state

end RhythmBot.Main

def main (words : List String) : IO UInt32 := do
  match RhythmBot.Launch.read ("scorebot" :: words) with
  | .ok launch =>
    RhythmBot.Main.run launch
    return 0
  | .error stop =>
    (← IO.getStdout).putStr stop.output
    return UInt32.ofNat stop.exitCode
