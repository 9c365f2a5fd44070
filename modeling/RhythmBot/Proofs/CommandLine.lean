import RhythmBot.Message
import RhythmBot.Proofs.Text.Words
/-!
Command lines read back as they are written, whatever the arguments hold, and what any line that is
read consists of.
-/

namespace RhythmBot.CommandLine

open Text

variable {mark : Char} {body : String} {line : CommandLine}

/-- The words of a message body that is addressed to the bot: without the blanks around it, the body
is the mark and right behind it a character that is no blank. -/
inductive Addressed (mark : Char) (body : String) : List String → Prop
  | behind {c : Char} {rest : List Char} :
      strip body.toList = mark :: c :: rest → isBlank c = false →
      Addressed mark body (words (String.ofList (c :: rest)))

theorem Addressed.read? {spelled : List String} (addressed : Addressed mark body spelled) :
    read? mark body = ofWords? spelled := by
  cases addressed with
  | behind stripped solid =>
    unfold CommandLine.read?
    rw [stripped]
    simp only [List.head?_cons, Option.any_some, solid, Bool.not_false, and_self, if_true]

theorem read?_eq_none (unaddressed : ∀ spelled, ¬ Addressed mark body spelled) :
    read? mark body = none := by
  unfold read?
  split
  · rfl
  · rename_i first rest stripped
    split
    · rename_i marked
      obtain ⟨rfl, behind⟩ := marked
      cases rest with
      | nil => cases behind
      | cons c later =>
        have solid : isBlank c = false := by simpa using behind
        exact absurd (Addressed.behind stripped solid) (unaddressed _)
    · rfl

theorem Addressed.ne_nil {spelled : List String} (addressed : Addressed mark body spelled) :
    spelled ≠ [] := by
  cases addressed with
  | @behind c rest _ solid =>
    have run : c :: (frontRun rest).1 ≠ [] := List.cons_ne_nil _ _
    unfold words chunks prependRun
    rw [String.toList_ofList]
    simp only [frontRun, solid, Bool.false_eq_true, if_false, List.isEmpty_cons, List.map_cons]
    exact List.cons_ne_nil _ _

/-- What reading a message body as a command line takes: the mark in front of words. -/
theorem read?_eq_some (read : read? mark body = some line) :
    isBlank mark = false ∧ ∃ rest, ofWords? (words rest) = some line := by
  unfold read? at read
  cases stripped : strip body.toList with
  | nil =>
    simp only [stripped] at read
    cases read
  | cons first rest =>
    simp only [stripped] at read
    split at read
    · rename_i marked
      have solid : isBlank first = false := head?_strip_solid (by rw [stripped]; rfl)
      exact ⟨marked.1 ▸ solid, String.ofList rest, read⟩
    · cases read

theorem isWord_of_read? (read : read? mark body = some line) :
    ∀ token ∈ line.server :: line.command.toList ++ line.arguments, IsWord token := by
  obtain ⟨_, rest, spelled⟩ := read?_eq_some read
  have all : line.server :: line.command.toList ++ line.arguments = words rest := by
    unfold ofWords? at spelled
    split at spelled
    · cases spelled
    · cases spelled
      symm
      assumption
    · cases spelled
      symm
      assumption
  rw [all]
  exact fun token => isWord_of_mem_words

theorem server_isWord (read : read? mark body = some line) : IsWord line.server :=
  isWord_of_read? read line.server List.mem_cons_self

theorem strip_marked (solid : isBlank mark = false) (text : String) :
    strip (String.ofList [mark] ++ text).toList = mark :: (trimEnd text).toList := by
  unfold trimEnd
  rw [String.toList_append, String.toList_ofList, String.toList_ofList, List.singleton_append,
    strip_cons solid]

theorem addressed_marked (solid : isBlank mark = false) {text : String}
    (starts : startsSolid text = true) :
    Addressed mark (String.ofList [mark] ++ text) (words text) := by
  have stripped := strip_marked solid text
  rw [← words_trimEnd]
  rw [← startsSolid_trimEnd] at starts
  unfold startsSolid at starts
  cases letters : (trimEnd text).toList with
  | nil =>
    rw [letters] at starts
    cases starts
  | cons c rest =>
    rw [letters] at starts stripped
    have solidFront : isBlank c = false := by simpa using starts
    have spelled : trimEnd text = String.ofList (c :: rest) := by
      rw [← letters, String.ofList_toList]
    rw [spelled]
    exact .behind stripped solidFront

/-- A text behind the mark that is read as a command line starts right there. -/
theorem read?_marked {text : String}
    (read : read? mark (String.ofList [mark] ++ text) = some line) :
    startsSolid text = true ∧ ofWords? (words text) = some line := by
  have solid := (read?_eq_some read).1
  unfold read? at read
  rw [strip_marked solid] at read
  simp only [true_and, String.ofList_toList, words_trimEnd] at read
  split at read
  · rename_i starts
    exact ⟨(startsSolid_trimEnd text).symm.trans starts, read⟩
  · cases read

/-- A command line that is written reads as its parts, each argument as its words. -/
theorem read?_write (solid : isBlank mark = false) {server command : String}
    (serverWord : IsWord server) (commandWord : IsWord command) (arguments : List String) :
    read? mark (write mark server command arguments) =
      some ⟨server, some command, arguments.flatMap words⟩ := by
  have spelled : words (" ".intercalate
      (server :: command :: arguments.filter fun argument => !argument.isEmpty)) =
        server :: command :: arguments.flatMap words := by
    rw [words_intercalate, List.flatMap_cons, List.flatMap_cons, words_of_isWord serverWord,
      words_of_isWord commandWord, flatMap_words_filter]
    rfl
  have starts : startsSolid (" ".intercalate
      (server :: command :: arguments.filter fun argument => !argument.isEmpty)) = true := by
    rw [String.intercalate_cons_cons, String.append_assoc]
    exact startsSolid_append serverWord.startsSolid _
  have addressed := addressed_marked solid starts
  rw [spelled] at addressed
  exact addressed.read?

end RhythmBot.CommandLine
