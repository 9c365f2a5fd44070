import RhythmBot.Mode
import RhythmBot.Mods
/-!
The arguments of a command: a mode in front, modifiers where the command takes them, and the rest,
which usually names a player.
-/

namespace RhythmBot

/-- The arguments of a command. `full` has every token behind the mode; with modifiers split off,
`nickname` has those of them that are none. -/
structure Arguments where
  mode : Option Mode
  modifiers : List String
  nickname : List String
  full : List String
  deriving Repr, DecidableEq

namespace Arguments

instance : Inhabited Arguments := ⟨⟨none, [], [], []⟩⟩

def splitMode : List String → Option Mode × List String
  | [] => (none, [])
  | first :: rest =>
    match Mode.ofToken? first with
    | some mode => (some mode, rest)
    | none => (none, first :: rest)

def ofTokens (tokens : List String) : Arguments :=
  let (mode, rest) := splitMode tokens
  ⟨mode, [], rest, rest⟩

/-- Whether a token stands for modifiers: a plus sign with something behind it. -/
def isModifier (token : String) : Bool :=
  match token.toList with
  | '+' :: _ :: _ => true
  | _ => false

def ofTokensWithMods (tokens : List String) : Arguments :=
  let plain := ofTokens tokens
  { plain with
    modifiers := plain.nickname.filter isModifier
    nickname := plain.nickname.filter fun token => !isModifier token }

def parse (withMods : Bool) (tokens : List String) : Arguments :=
  if withMods then ofTokensWithMods tokens else ofTokens tokens

def joined? (arguments : Arguments) : Option String :=
  if arguments.nickname.isEmpty then none else some (" ".intercalate arguments.nickname)

def mods? (arguments : Arguments) : Option Mods :=
  let mods := Mods.ofTokens arguments.modifiers
  if mods.isNone then none else some mods

end Arguments

end RhythmBot
