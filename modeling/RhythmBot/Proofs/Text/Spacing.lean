import RhythmBot.Proofs.Text.Words
/-!
Texts as words with blanks around them. Every text is its words with some blanks, and whatever blanks
stand around words, the text has these words.
-/

namespace RhythmBot.Text

/-- A text of words in a row: blanks may stand in front of each one and at the end, and at least one
stands between two. -/
inductive Spaced : List String → List Char → Prop
  | nil {gap : List Char} : (∀ c ∈ gap, isBlank c = true) → Spaced [] gap
  | cons {gap rest : List Char} {word : String} {later : List String} :
      (∀ c ∈ gap, isBlank c = true) → IsWord word → (∀ c ∈ rest.head?, isBlank c = true) →
      Spaced later rest → Spaced (word :: later) (gap ++ word.toList ++ rest)

theorem chunks_cons_blank {c : Char} (blank : isBlank c = true) (rest : List Char) :
    chunks (c :: rest) = chunks rest :=
  chunks_append_blank [] blank rest

theorem chunks_blanks_append {gap : List Char} (blank : ∀ c ∈ gap, isBlank c = true)
    (rest : List Char) : chunks (gap ++ rest) = chunks rest := by
  induction gap with
  | nil => rfl
  | cons c gap ih =>
    rw [List.cons_append, chunks_cons_blank (blank c List.mem_cons_self)]
    exact ih fun other member => blank other (.tail c member)

theorem chunks_run_append {run rest : List Char} (nonempty : run ≠ [])
    (solid : ∀ c ∈ run, isBlank c = false) (ends : ∀ c ∈ rest.head?, isBlank c = true) :
    chunks (run ++ rest) = run :: chunks rest := by
  cases rest with
  | nil =>
    rw [List.append_nil, chunks_solid_run nonempty solid]
    rfl
  | cons c later =>
    have blank : isBlank c = true := ends c rfl
    rw [chunks_append_blank run blank, chunks_cons_blank blank, chunks_solid_run nonempty solid,
      List.singleton_append]

theorem chunks_strip (cs : List Char) : chunks (strip cs) = chunks cs := by
  have blank : ∀ c ∈ cs.takeWhile isBlank, isBlank c = true :=
    List.all_eq_true.1 List.all_takeWhile
  have dropped := chunks_blanks_append blank (dropBlanks cs)
  rw [dropBlanks, List.takeWhile_append_dropWhile] at dropped
  rw [strip, chunks_dropEndBlanks, dropBlanks, dropped]

theorem Spaced.chunks {tokens : List String} {cs : List Char} (spaced : Spaced tokens cs) :
    Text.chunks cs = tokens.map String.toList := by
  induction spaced with
  | nil blank =>
    have none := chunks_append_blanks [] blank
    exact none
  | cons blank isWord ends _ ih =>
    rw [List.append_assoc, chunks_blanks_append blank, chunks_run_append isWord.1 isWord.2 ends, ih,
      List.map_cons]

theorem Spaced.run {tokens : List String} {run rest : List Char} (nonempty : run ≠ [])
    (solid : ∀ c ∈ run, isBlank c = false) (ends : ∀ c ∈ rest.head?, isBlank c = true)
    (spaced : Spaced tokens rest) : Spaced (String.ofList run :: tokens) (run ++ rest) := by
  have none : ∀ c ∈ ([] : List Char), isBlank c = true := by simp
  have isWord : IsWord (String.ofList run) := by
    unfold IsWord
    rw [String.toList_ofList]
    exact ⟨nonempty, solid⟩
  have joined := Spaced.cons none isWord ends spaced
  rw [String.toList_ofList] at joined
  exact joined

theorem Spaced.cons_blank {tokens : List String} {c : Char} {rest : List Char}
    (blank : isBlank c = true) (spaced : Spaced tokens rest) : Spaced tokens (c :: rest) := by
  cases spaced with
  | nil others =>
    apply Spaced.nil
    rw [List.forall_mem_cons]
    exact ⟨blank, others⟩
  | @cons gap behind word later others isWord ends spaced =>
    have wider : ∀ other ∈ c :: gap, isBlank other = true := by
      rw [List.forall_mem_cons]
      exact ⟨blank, others⟩
    exact .cons wider isWord ends spaced

/-- A character that is not blank goes to the word behind it or stands alone. -/
theorem Spaced.cons_solid {tokens : List String} {c : Char} {rest : List Char}
    (solid : isBlank c = false) (spaced : Spaced tokens rest) :
    ∃ more, Spaced more (c :: rest) := by
  by_cases ends : ∀ first ∈ rest.head?, isBlank first = true
  · have alone : ∀ other ∈ [c], isBlank other = false := by simpa using solid
    exact ⟨_, spaced.run (List.cons_ne_nil c []) alone ends⟩
  · cases spaced with
    | nil blank =>
      exact absurd (fun first member => blank first (List.mem_of_mem_head? member)) ends
    | @cons gap behind word later blank isWord separate spaced =>
      -- Blanks in front of the word would end the run.
      cases gap with
      | cons first gap =>
        refine absurd ?_ ends
        intro other member
        cases member
        exact blank first List.mem_cons_self
      | nil =>
        have longer : ∀ other ∈ c :: word.toList, isBlank other = false := by
          rw [List.forall_mem_cons]
          exact ⟨solid, isWord.2⟩
        exact ⟨_, spaced.run (List.cons_ne_nil c word.toList) longer separate⟩

theorem exists_spaced (cs : List Char) : ∃ tokens, Spaced tokens cs := by
  induction cs with
  | nil => exact ⟨[], .nil (by simp)⟩
  | cons c rest ih =>
    obtain ⟨tokens, spaced⟩ := ih
    cases kind : isBlank c with
    | true => exact ⟨tokens, spaced.cons_blank kind⟩
    | false => exact spaced.cons_solid kind

/-- The words of a text are those that it is made of. -/
theorem spaced_iff {tokens : List String} {text : String} :
    Spaced tokens text.toList ↔ words text = tokens := by
  have found : ∀ {tokens}, Spaced tokens text.toList → words text = tokens := by
    intro tokens spaced
    unfold words
    rw [spaced.chunks, List.map_map]
    simp
  constructor
  · exact found
  · rintro rfl
    obtain ⟨tokens, spaced⟩ := exists_spaced text.toList
    rw [found spaced]
    exact spaced

end RhythmBot.Text
