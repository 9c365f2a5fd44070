import RhythmBot.Proofs.Command
import RhythmBot.Proofs.CommandLine
import RhythmBot.Proofs.Text.Spacing
/-!
Command lines in canonical form. Main statement: a command line is read by its words alone, and when
its arguments are written out again with the name of their mode in front, it reads as the same command
with the same arguments.
-/

namespace RhythmBot

open Text

namespace Arguments

def spelling (arguments : Arguments) : List String :=
  (arguments.mode.map Mode.name).toList ++ arguments.full

theorem spelling_parse (withMods : Bool) (tokens : List String) :
    (parse withMods tokens).spelling = (ofTokens tokens).spelling := by
  cases withMods <;> rfl

theorem parse_congr {first second : List String} (same : ofTokens first = ofTokens second)
    (withMods : Bool) : parse withMods first = parse withMods second := by
  unfold parse ofTokensWithMods
  rw [same]

theorem ofTokens_spelling (tokens : List String) :
    ofTokens (ofTokens tokens).spelling = ofTokens tokens := by
  cases tokens with
  | nil => rfl
  | cons first rest =>
    cases named : Mode.ofToken? first with
    | none =>
      have kept : ofTokens (first :: rest) = ⟨none, [], first :: rest, first :: rest⟩ := by
        simp only [ofTokens, splitMode, named]
      rw [kept]
      exact kept
    | some mode =>
      have taken : ofTokens (first :: rest) = ⟨some mode, [], rest, rest⟩ := by
        simp only [ofTokens, splitMode, named]
      rw [taken]
      exact ofTokens_modeName mode rest

theorem parse_spelling (withMods alsoMods : Bool) (tokens : List String) :
    parse alsoMods (parse withMods tokens).spelling = parse alsoMods tokens := by
  rw [spelling_parse]
  exact parse_congr (ofTokens_spelling tokens) alsoMods

theorem isWord_of_mem_spelling {withMods : Bool} {tokens : List String}
    (isWord : ∀ token ∈ tokens, IsWord token) {token : String}
    (listed : token ∈ (parse withMods tokens).spelling) : IsWord token := by
  rw [spelling_parse, spelling, List.mem_append] at listed
  rcases listed with front | behind
  · obtain ⟨mode, _, rfl⟩ := Option.map_eq_some_iff.1 (Option.mem_toList.1 front)
    exact mode.isWord_name
  · exact isWord token (mem_of_mem_full behind)

end Arguments

namespace CommandLine

variable {mark : Char} {body : String} {line : CommandLine}

theorem isWord_marked {name : String} (isWord : IsWord (String.ofList [mark] ++ name))
    (named : name ≠ "") : isBlank mark = false ∧ IsWord name := by
  have solid := isWord.2
  rw [String.toList_append, String.toList_ofList, List.singleton_append,
    List.forall_mem_cons] at solid
  refine ⟨solid.1, ?_, solid.2⟩
  rw [Ne, String.toList_eq_nil_iff]
  exact named

theorem Addressed.of_strip {other : String} {spelled : List String}
    (addressed : Addressed mark body spelled) (same : strip body.toList = strip other.toList) :
    Addressed mark other spelled := by
  cases addressed with
  | behind stripped solid =>
    rw [same] at stripped
    exact .behind stripped solid

theorem addressed_iff {spelled : List String} :
    Addressed mark body spelled ↔ ∃ name more, spelled = name :: more ∧ name ≠ "" ∧
      words body = (String.ofList [mark] ++ name) :: more := by
  constructor
  · rintro ⟨stripped, solid⟩
    rename_i c rest
    have marked : isBlank mark = false := head?_strip_solid (by rw [stripped]; rfl)
    refine ⟨String.ofList (c :: (frontRun rest).1), (frontRun rest).2.map String.ofList, ?_, ?_, ?_⟩
    · simp [words, chunks, frontRun, prependRun, solid]
    · simp
    · rw [words, ← chunks_strip, stripped]
      simp [chunks, frontRun, prependRun, solid, marked]
  · rintro ⟨name, more, rfl, named, spelled⟩
    have first : IsWord (String.ofList [mark] ++ name) :=
      isWord_of_mem_words (by rw [spelled]; exact List.mem_cons_self)
    obtain ⟨solid, isWord⟩ := isWord_marked first named
    have spaced := spaced_iff.2 spelled
    generalize letters : body.toList = cs at spaced
    cases spaced with
    | @cons gap rest _ _ blank _ ends later =>
      have behind : words (name ++ String.ofList rest) = name :: more := by
        apply spaced_iff.1
        have spaced := later.run isWord.1 isWord.2 ends
        rw [String.ofList_toList] at spaced
        rw [String.toList_append, String.toList_ofList]
        exact spaced
      have starts := startsSolid_append isWord.startsSolid (String.ofList rest)
      have stripped : strip (String.ofList [mark] ++ (name ++ String.ofList rest)).toList =
          strip body.toList := by
        rw [letters, List.append_assoc, strip, strip, dropBlanks, dropBlanks,
          List.dropWhile_append_of_pos blank]
        simp
      have addressed := addressed_marked solid starts
      rw [behind] at addressed
      exact addressed.of_strip stripped

theorem addressed_of_read? (read : read? mark body = some line) :
    ∃ spelled, Addressed mark body spelled ∧ ofWords? spelled = some line := by
  by_cases addressed : ∃ spelled, Addressed mark body spelled
  · obtain ⟨spelled, addressed⟩ := addressed
    rw [addressed.read?] at read
    exact ⟨spelled, addressed, read⟩
  · rw [read?_eq_none (not_exists.1 addressed)] at read
    cases read

/-- What is read depends on nothing but the words. -/
theorem read?_congr {first second : String} (same : words first = words second) :
    read? mark first = read? mark second := by
  apply Option.ext
  intro line
  have transfer : ∀ {first second : String}, words first = words second →
      read? mark first = some line → read? mark second = some line := by
    intro first second same read
    obtain ⟨spelled, here, found⟩ := addressed_of_read? read
    rw [addressed_iff, same] at here
    rw [(addressed_iff.2 here).read?, found]
  exact ⟨transfer same, transfer same.symm⟩

theorem read?_command {server command : String} {tokens : List String} :
    read? mark body = some ⟨server, some command, tokens⟩ ↔
      server ≠ "" ∧ words body = (String.ofList [mark] ++ server) :: command :: tokens := by
  constructor
  · intro read
    obtain ⟨spelled, addressed, found⟩ := addressed_of_read? read
    obtain ⟨name, more, rfl, named, spelled⟩ := addressed_iff.1 addressed
    cases more with
    | nil => cases found
    | cons next others =>
      cases found
      exact ⟨named, spelled⟩
  · rintro ⟨named, spelled⟩
    have addressed := addressed_iff.2 ⟨server, _, rfl, named, spelled⟩
    exact addressed.read?

/-- The command lines of a mark: what is read as one, and its canonical form. -/
structure Canonical (mark : Char) : Prop where
  /-- A command line is the words of a body, the first one with the mark in front. -/
  accepted : ∀ body server command tokens,
    read? mark body = some ⟨server, some command, tokens⟩ ↔
      server ≠ "" ∧ Spaced ((String.ofList [mark] ++ server) :: command :: tokens) body.toList
  /-- No token is empty or has a blank. -/
  words : ∀ body line, read? mark body = some line →
    ∀ token ∈ line.server :: line.command.toList ++ line.arguments, IsWord token
  /-- The blanks around the words do not count. -/
  alike : ∀ spelled first second, Spaced spelled first.toList → Spaced spelled second.toList →
    read? mark first = read? mark second
  /-- Written with its arguments spelled out, a command line reads as it did before. -/
  again : ∀ body server command tokens, read? mark body = some ⟨server, some command, tokens⟩ →
    ∀ withMods, ∃ rewritten,
      read? mark (write mark server command (Arguments.parse withMods tokens).spelling) =
        some ⟨server, some command, rewritten⟩ ∧
      ∀ alsoMods, Arguments.parse alsoMods rewritten = Arguments.parse alsoMods tokens

theorem read?_canonical (mark : Char) : Canonical mark where
  accepted body server command tokens := by
    rw [read?_command, spaced_iff]
  words body line read := isWord_of_read? read
  alike spelled first second here there :=
    read?_congr ((spaced_iff.1 here).trans (spaced_iff.1 there).symm)
  again body server command tokens read withMods := by
    have isWord := isWord_of_read? read
    simp only [Option.toList_some, List.cons_append, List.nil_append, List.forall_mem_cons] at isWord
    obtain ⟨serverWord, commandWord, tokenWords⟩ := isWord
    have written := read?_write (read?_eq_some read).1 serverWord commandWord
      (Arguments.parse withMods tokens).spelling
    rw [flatMap_words_of_isWord fun token => Arguments.isWord_of_mem_spelling tokenWords] at written
    refine ⟨_, written, ?_⟩
    intro alsoMods
    exact Arguments.parse_spelling withMods alsoMods tokens

/-- Only the mode in front gets its own name. -/
example :
    read? '!' " !банчо  lb OSU  taiko +HD " =
        some ⟨"банчо", some "lb", ["OSU", "taiko", "+HD"]⟩ ∧
      write '!' "банчо" "lb" (Arguments.parse true ["OSU", "taiko", "+HD"]).spelling =
        "!банчо lb standard taiko +HD" := by
  decide

end CommandLine

end RhythmBot
