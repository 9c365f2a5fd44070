import RhythmBot.Arguments
import RhythmBot.Command
import RhythmBot.Proofs.Text.Words
/-!
Names of commands and of modes in a command line: each is a single word that names nothing else.
-/

namespace RhythmBot

namespace Command

theorem eq_of_mem_aliases {first second : Command} {name : String}
    (named : name ∈ first.aliases) (alsoNamed : name ∈ second.aliases) : first = second := by
  have all : ∀ first ∈ all, ∀ second ∈ all, ∀ name ∈ first.aliases,
      name ∈ second.aliases → first = second := by
    decide
  exact all first (mem_all first) second (mem_all second) name named alsoNamed

theorem ofAlias?_of_mem {commands : List Command} {command : Command} {name : String}
    (listed : command ∈ commands) (named : name ∈ command.aliases) :
    ofAlias? commands name = some command := by
  unfold ofAlias?
  cases found : commands.find? fun other => other.aliases.contains name with
  | none =>
    have missing := List.find?_eq_none.1 found command listed
    simp [named] at missing
  | some other =>
    have alsoNamed := List.find?_some found
    rw [eq_of_mem_aliases (List.contains_iff_mem.1 alsoNamed) named]

theorem ofAlias?_name {commands : List Command} {command : Command}
    (listed : command ∈ commands) : ofAlias? commands command.name = some command :=
  ofAlias?_of_mem listed (name_mem_aliases command)

theorem ofAlias?_eq_none {commands : List Command} {name : String}
    (unnamed : ∀ command ∈ commands, name ∉ command.aliases) :
    ofAlias? commands name = none := by
  apply List.find?_eq_none.2
  intro command listed named
  exact unnamed command listed (List.contains_iff_mem.1 named)

theorem isWord_of_mem_aliases {command : Command} {name : String}
    (named : name ∈ command.aliases) : Text.IsWord name := by
  have all : ∀ command ∈ all, ∀ name ∈ command.aliases, Text.IsWord name := by
    decide
  exact all command (mem_all command) name named

theorem isWord_name (command : Command) : Text.IsWord command.name :=
  isWord_of_mem_aliases (name_mem_aliases command)

end Command

theorem Mode.isWord_name (mode : Mode) : Text.IsWord mode.name := by
  cases mode <;> decide

theorem Arguments.ofTokens_modeName (mode : Mode) (tokens : List String) :
    ofTokens (mode.name :: tokens) = ⟨some mode, [], tokens, tokens⟩ := by
  have named : Mode.ofToken? mode.name = some mode := by
    cases mode <;> decide
  simp only [ofTokens, splitMode, named]

theorem Arguments.parse_modeName (withMods : Bool) (mode : Mode) (tokens : List String) :
    (parse withMods (mode.name :: tokens)).mode = some mode ∧
      (parse withMods (mode.name :: tokens)).full = tokens := by
  cases withMods with
  | true => simp [parse, ofTokensWithMods, ofTokens_modeName]
  | false => simp [parse, ofTokens_modeName]

theorem Arguments.mem_of_mem_full {tokens : List String} {token : String}
    (listed : token ∈ (ofTokens tokens).full) : token ∈ tokens := by
  cases tokens with
  | nil => exact listed
  | cons first rest =>
    cases named : Mode.ofToken? first with
    | none =>
      simp only [ofTokens, splitMode, named] at listed
      exact listed
    | some mode =>
      simp only [ofTokens, splitMode, named] at listed
      exact .tail first listed

theorem Arguments.mem_of_mem_nickname {withMods : Bool} {tokens : List String} {token : String}
    (listed : token ∈ (parse withMods tokens).nickname) : token ∈ tokens := by
  cases withMods with
  | false => exact mem_of_mem_full listed
  | true => exact mem_of_mem_full (List.mem_filter.1 listed).1

end RhythmBot
