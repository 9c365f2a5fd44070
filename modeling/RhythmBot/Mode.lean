import RhythmBot.Text.Case
import RhythmBot.Text.Whole
/-!
Game modes, numbered from 0 to 3 by every server.
-/

namespace RhythmBot

open Text

inductive Mode where
  | standard
  | taiko
  | fruits
  | mania
  deriving Repr, DecidableEq, Inhabited

namespace Mode

def all : List Mode := [.standard, .taiko, .fruits, .mania]

def index : Mode → Nat
  | .standard => 0
  | .taiko => 1
  | .fruits => 2
  | .mania => 3

def ofIndex? (n : Nat) : Option Mode := all[n]?

def name : Mode → String
  | .standard => "standard"
  | .taiko => "taiko"
  | .fruits => "fruits"
  | .mania => "mania"

def synonyms : Mode → List String
  | .standard => ["standard", "std", "osu", "s"]
  | .taiko => ["taiko", "drums", "t"]
  | .fruits => ["fruits", "fruit", "ctb", "catch", "c", "f"]
  | .mania => ["mania", "keys", "m"]

def ofWord? (word : String) : Option Mode :=
  all.find? fun mode => mode.synonyms.contains word

/-- The mode that a token names: by number if it is a number below 256, else by word whatever its
case. -/
def ofToken? (token : String) : Option Mode :=
  match natural? 255 token with
  | some n => ofIndex? n
  | none => ofWord? (lowerAsciiText token)

def listed (mode : Mode) : String :=
  mode.name ++ " (" ++ toString mode.index ++ ")"

def listing : String :=
  ", ".intercalate (all.map listed)

theorem ofIndex?_index (mode : Mode) : ofIndex? mode.index = some mode := by
  cases mode <;> rfl

theorem mem_all (mode : Mode) : mode ∈ all := by
  cases mode <;> decide

end Mode

end RhythmBot
