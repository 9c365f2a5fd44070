/-!
How the program is started: its options, and what else the words of the command line come to.
-/

namespace RhythmBot

inductive LaunchOption where
  | config
  | data
  | sender
  deriving Repr, DecidableEq

structure Launch where
  config : String
  data : String
  sender : String
  deriving Repr, DecidableEq

/-- Why the bot does not start: help or the version is asked for, an option is missing, has no
value, is given twice or a value it does not take, or a word is not known. -/
inductive LaunchStop where
  | help (long : Bool)
  | version
  | missingOption
  | missingValue
  | repeatedOption
  | unneededValue
  | unknownWord
  deriving Repr, DecidableEq

namespace Launch

def defaultSender : String := "@console"

def longOption? (name : List Char) : Option LaunchOption :=
  if name = "config".toList then some .config
  else if name = "data".toList then some .data
  else if name = "sender".toList then some .sender
  else none

def letterOption? : Char → Option LaunchOption
  | 'c' => some .config
  | 'd' => some .data
  | 's' => some .sender
  | _ => none

abbrev Given := List (LaunchOption × String)

def value? (given : Given) (option : LaunchOption) : Option String :=
  (given.find? fun entry => entry.1 == option).map Prod.snd

def give (given : Given) (option : LaunchOption) (value : String) : Except LaunchStop Given :=
  if (value? given option).isSome then .error .repeatedOption
  else .ok (given ++ [(option, value)])

/-- What a word of the command line is: `--`, help or version, an option with or without a value
attached, a plain word, or one that is refused whatever comes before it. -/
inductive Word where
  | escape
  | stop (stop : LaunchStop)
  | option (option : LaunchOption) (value : Option String)
  | plain (text : String)
  | refused (stop : LaunchStop)
  deriving Repr, DecidableEq

def behindEquals? : List Char → Option String
  | '=' :: value => some (String.ofList value)
  | _ => none

def stopWord (stop : LaunchStop) (value : Option String) : Word :=
  if value.isSome then .refused .unneededValue else .stop stop

def longWord (text : List Char) : Word :=
  let name := text.takeWhile (· != '=')
  let value := behindEquals? (text.dropWhile (· != '='))
  match longOption? name with
  | some option => .option option value
  | none =>
    if name = "help".toList then stopWord (.help true) value
    else if name = "version".toList then stopWord .version value
    else .refused .unknownWord

def letterWord (letter : Char) (rest : List Char) : Word :=
  match letterOption? letter with
  | some option =>
    .option option
      (if rest.isEmpty then none else some ((behindEquals? rest).getD (String.ofList rest)))
  | none =>
    if letter = 'h' then .stop (.help false)
    else if letter = 'V' then .stop .version
    else .refused .unknownWord

def word (text : String) : Word :=
  match text.toList with
  | ['-', '-'] => .escape
  | '-' :: '-' :: rest => longWord rest
  | '-' :: letter :: rest => letterWord letter rest
  | _ => .plain text

/-- The option read last, if its value is a word of its own, with that value once it is read. -/
abbrev Pending := Option (LaunchOption × Option String)

def settle (given : Given) : Pending → Except LaunchStop Given
  | none => .ok given
  | some (_, none) => .error .missingValue
  | some (option, some value) => give given option value

/-- Reads words in order. An option is noted when the next one starts, so a word that is refused
comes before a fault in the option in front of it. -/
def readWords (given : Given) (pending : Pending) : List Word → Except LaunchStop Given
  | [] => settle given pending
  | .refused stop :: _ => .error stop
  | .escape :: rest => if rest.isEmpty then settle given pending else .error .unknownWord
  | .plain text :: rest =>
    match pending with
    | some (option, none) => readWords given (some (option, some text)) rest
    | _ => .error .unknownWord
  | .stop stop :: _ => do
    let _ ← settle given pending
    .error stop
  | .option option none :: rest => do
    readWords (← settle given pending) (some (option, none)) rest
  | .option option (some value) :: rest => do
    readWords (← give (← settle given pending) option value) none rest

def read (words : List String) : Except LaunchStop Launch := do
  let given ← readWords [] none (words.tail.map word)
  match value? given .config, value? given .data with
  | some config, some data =>
    .ok ⟨config, data, (value? given .sender).getD defaultSender⟩
  | _, _ => .error .missingOption

def about : String :=
  "A chat bot exposing several rhythm-game leaderboard servers through one command surface"

def usageLine : String := "Usage: scorebot [OPTIONS] --config <CONFIG> --data <DATA>"

def shortHelp : String :=
  "\n".intercalate
    [about, "", usageLine, "", "Options:",
      "  -c, --config <CONFIG>  Path to the YAML configuration file",
      "  -d, --data <DATA>      Path to the directory holding the store files",
      "  -s, --sender <SENDER>  Sender of the console lines naming no sender [default: " ++
        defaultSender ++ "]",
      "  -h, --help             Print help (see more with '--help')",
      "  -V, --version          Print version", ""]

def longHelp : String :=
  "\n".intercalate
    [about, "", usageLine, "", "Options:",
      "  -c, --config <CONFIG>",
      "          Path to the YAML configuration file", "",
      "  -d, --data <DATA>",
      "          Path to the directory holding the store files.",
      "          ",
      "          Created by the operator, the bot only writes files inside it.", "",
      "  -s, --sender <SENDER>",
      "          Sender of the console lines naming no sender",
      "          ",
      "          [default: " ++ defaultSender ++ "]", "",
      "  -h, --help",
      "          Print help (see a summary with '-h')", "",
      "  -V, --version",
      "          Print version", ""]

def versionLine : String := "scorebot 0.1.0\n"

end Launch

namespace LaunchStop

def output : LaunchStop → String
  | .help true => Launch.longHelp
  | .help false => Launch.shortHelp
  | .version => Launch.versionLine
  | _ => ""

def exitCode : LaunchStop → Nat
  | .help _ => 0
  | .version => 0
  | _ => 2

end LaunchStop

end RhythmBot
