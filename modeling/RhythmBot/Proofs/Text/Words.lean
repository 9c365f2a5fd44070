import RhythmBot.Text.Blank
/-!
The words of texts put together: blanks at the end add none, and the words of parts joined with
spaces are those of the parts.
-/

namespace RhythmBot.Text

def IsWord (text : String) : Prop :=
  text.toList ≠ [] ∧ ∀ c ∈ text.toList, isBlank c = false

instance (text : String) : Decidable (IsWord text) :=
  decidable_of_iff (!text.toList.isEmpty && text.toList.all fun c => !isBlank c)
    (by simp [IsWord])

theorem prependRun_append (run : List Char) (front back : List (List Char)) :
    prependRun run (front ++ back) = prependRun run front ++ back := by
  unfold prependRun
  split <;> rfl

theorem frontRun_append_blank (cs : List Char) {c : Char} (blank : isBlank c = true)
    (rest : List Char) :
    frontRun (cs ++ c :: rest) = ((frontRun cs).1, (frontRun cs).2 ++ chunks rest) := by
  induction cs with
  | nil =>
    simp only [List.nil_append, frontRun, blank, if_true]
    rfl
  | cons first cs ih =>
    rw [List.cons_append, frontRun, ih]
    simp only [frontRun]
    split
    · rw [prependRun_append]
    · rfl

theorem chunks_append_blank (cs : List Char) {c : Char} (blank : isBlank c = true)
    (rest : List Char) : chunks (cs ++ c :: rest) = chunks cs ++ chunks rest := by
  unfold chunks
  rw [frontRun_append_blank cs blank]
  exact prependRun_append ..

theorem chunks_append_blanks (cs : List Char) {blanks : List Char}
    (blank : ∀ c ∈ blanks, isBlank c = true) : chunks (cs ++ blanks) = chunks cs := by
  induction blanks generalizing cs with
  | nil => rw [List.append_nil]
  | cons c later ih =>
    have none : chunks later = [] := ih [] fun other member => blank other (.tail c member)
    rw [chunks_append_blank cs (blank c List.mem_cons_self), none, List.append_nil]

theorem dropEndBlanks_append (cs : List Char) :
    ∃ blanks, (∀ c ∈ blanks, isBlank c = true) ∧ dropEndBlanks cs ++ blanks = cs := by
  refine ⟨(cs.reverse.takeWhile isBlank).reverse, fun c member => ?_, ?_⟩
  · exact List.all_eq_true.1 List.all_takeWhile c (List.mem_reverse.1 member)
  · unfold dropEndBlanks dropBlanks
    rw [← List.reverse_append, List.takeWhile_append_dropWhile, List.reverse_reverse]

theorem chunks_dropEndBlanks (cs : List Char) : chunks (dropEndBlanks cs) = chunks cs := by
  obtain ⟨blanks, blank, whole⟩ := dropEndBlanks_append cs
  have same := chunks_append_blanks (dropEndBlanks cs) blank
  rw [whole] at same
  exact same.symm

def startsSolid (text : String) : Bool :=
  text.toList.head?.any fun c => !isBlank c

theorem startsSolid_append {text : String} (starts : startsSolid text = true) (later : String) :
    startsSolid (text ++ later) = true := by
  unfold startsSolid at starts ⊢
  rw [String.toList_append]
  cases letters : text.toList with
  | nil =>
    rw [letters] at starts
    cases starts
  | cons c rest =>
    rw [letters] at starts
    exact starts

theorem startsSolid_of_append {first second : String} (nonempty : first ≠ "")
    (starts : startsSolid (first ++ second) = true) : startsSolid first = true := by
  unfold startsSolid at starts ⊢
  rw [String.toList_append] at starts
  cases letters : first.toList with
  | nil => exact absurd (String.toList_eq_nil_iff.1 letters) nonempty
  | cons c rest =>
    rw [letters] at starts
    exact starts

theorem startsSolid_trimEnd (text : String) : startsSolid (trimEnd text) = startsSolid text := by
  unfold startsSolid trimEnd
  rw [String.toList_ofList]
  obtain ⟨blanks, blank, whole⟩ := dropEndBlanks_append text.toList
  cases kept : dropEndBlanks text.toList with
  | nil =>
    rw [kept, List.nil_append] at whole
    rw [← whole]
    cases blanks with
    | nil => rfl
    | cons c later => simp [blank c List.mem_cons_self]
  | cons c rest =>
    rw [kept] at whole
    rw [← whole]
    rfl

theorem words_trimEnd (text : String) : words (trimEnd text) = words text := by
  unfold words trimEnd
  rw [String.toList_ofList, chunks_dropEndBlanks]

theorem dropEndBlanks_cons {c : Char} (solid : isBlank c = false) (rest : List Char) :
    dropEndBlanks (c :: rest) = c :: dropEndBlanks rest := by
  unfold dropEndBlanks dropBlanks
  rw [List.reverse_cons, List.dropWhile_append]
  split
  · rename_i nothing
    rw [List.isEmpty_iff.1 nothing, List.dropWhile_cons_of_neg (by simp [solid])]
    rfl
  · rw [List.reverse_append]
    rfl

theorem dropEndBlanks_cons_of_nil (c : Char) {rest : List Char} (blank : isBlank c = true)
    (nothing : dropEndBlanks rest = []) : dropEndBlanks (c :: rest) = [] := by
  have dropped : rest.reverse.dropWhile isBlank = [] := List.reverse_eq_nil_iff.1 nothing
  unfold dropEndBlanks dropBlanks
  rw [List.reverse_cons, List.dropWhile_append, dropped]
  simp [blank]

theorem dropEndBlanks_of_frontRun {cs : List Char} (single : (frontRun cs).2 = []) :
    dropEndBlanks cs = (frontRun cs).1 := by
  induction cs with
  | nil => rfl
  | cons c rest ih =>
    cases blank : isBlank c with
    | true =>
      simp only [frontRun, blank, if_true] at single ⊢
      -- No run is left behind the blank, so the rest is blank as well.
      have none : (frontRun rest).1 = [] ∧ (frontRun rest).2 = [] := by
        unfold prependRun at single
        split at single
        · rename_i empty
          exact ⟨List.isEmpty_iff.1 empty, single⟩
        · cases single
      exact dropEndBlanks_cons_of_nil c blank ((ih none.2).trans none.1)
    | false =>
      simp only [frontRun, blank, Bool.false_eq_true, if_false] at single ⊢
      rw [dropEndBlanks_cons blank, ih single]

/-- Stripping keeps a text from its first character on if that is not blank. -/
theorem strip_cons {c : Char} (solid : isBlank c = false) (rest : List Char) :
    strip (c :: rest) = c :: dropEndBlanks rest := by
  unfold strip dropBlanks
  rw [List.dropWhile_cons_of_neg (by simp [solid]), dropEndBlanks_cons solid]

theorem head?_strip_solid {cs : List Char} {c : Char} (front : (strip cs).head? = some c) :
    isBlank c = false := by
  unfold strip at front
  cases solid : dropBlanks cs with
  | nil =>
    rw [solid] at front
    cases front
  | cons first rest =>
    have notBlank : isBlank first = false := by
      have none := List.head?_dropWhile_not isBlank cs
      unfold dropBlanks at solid
      rw [solid] at none
      simpa using none
    rw [solid, dropEndBlanks_cons notBlank] at front
    cases front
    exact notBlank

theorem chunks_solid_run {run : List Char} (nonempty : run ≠ [])
    (solid : ∀ c ∈ run, isBlank c = false) : chunks run = [run] := by
  have front := frontRun_append_solid run [] solid
  rw [List.append_nil] at front
  unfold chunks prependRun
  rw [front]
  simp only [frontRun, List.append_nil, List.isEmpty_iff, nonempty, if_false]

theorem words_of_isWord {text : String} (word : IsWord text) : words text = [text] := by
  unfold words
  rw [chunks_solid_run word.1 word.2, List.map_singleton, String.ofList_toList]

theorem IsWord.startsSolid {word : String} (isWord : IsWord word) : startsSolid word = true := by
  obtain ⟨nonempty, solid⟩ := isWord
  unfold Text.startsSolid
  cases letters : word.toList with
  | nil => exact absurd letters nonempty
  | cons c rest => simpa using solid c (by rw [letters]; exact List.mem_cons_self)

theorem isWord_of_mem_words {text word : String} (member : word ∈ words text) : IsWord word := by
  obtain ⟨chunk, listed, rfl⟩ := List.mem_map.1 member
  have solid := chunks_solid text.toList chunk listed
  unfold IsWord
  rw [String.toList_ofList]
  exact solid

/-- A text starts with its only word exactly if it is that word with nothing but blanks behind it.
-/
theorem trimEnd_eq_word {text word : String} :
    trimEnd text = word ∧ IsWord word ↔ words text = [word] ∧ startsSolid text = true := by
  constructor
  · rintro ⟨rfl, isWord⟩
    exact ⟨(words_trimEnd text).symm.trans (words_of_isWord isWord),
      (startsSolid_trimEnd text).symm.trans isWord.startsSolid⟩
  · rintro ⟨single, starts⟩
    refine ⟨?_, isWord_of_mem_words (by rw [single]; exact List.mem_cons_self)⟩
    unfold startsSolid at starts
    cases letters : text.toList with
    | nil =>
      rw [letters] at starts
      cases starts
    | cons c rest =>
      rw [letters] at starts
      have solid : isBlank c = false := by simpa using starts
      unfold words chunks at single
      simp only [letters, frontRun, solid, Bool.false_eq_true, if_false, prependRun,
        List.isEmpty_cons, List.map_cons] at single
      obtain ⟨rfl, others⟩ := List.cons.inj single
      have later : (frontRun (c :: rest)).2 = [] := by
        simp only [frontRun, solid, Bool.false_eq_true, if_false]
        exact List.map_eq_nil_iff.1 others
      unfold trimEnd
      rw [letters, dropEndBlanks_of_frontRun later]
      simp only [frontRun, solid, Bool.false_eq_true, if_false]

theorem words_append_space (text later : String) :
    words (text ++ " " ++ later) = words text ++ words later := by
  unfold words
  rw [String.toList_append, String.toList_append, List.append_assoc, ← List.map_append,
    ← chunks_append_blank text.toList (by decide : isBlank ' ' = true)]
  rfl

/-- The words of parts joined with spaces are those of the parts. -/
theorem words_intercalate (parts : List String) :
    words (" ".intercalate parts) = parts.flatMap words := by
  induction parts with
  | nil => rfl
  | cons part later ih =>
    cases later with
    | nil => simp
    | cons next others =>
      rw [String.intercalate_cons_cons, words_append_space, ih]
      rfl

theorem flatMap_words_of_isWord {listed : List String} (isWord : ∀ word ∈ listed, IsWord word) :
    listed.flatMap words = listed := by
  induction listed with
  | nil => rfl
  | cons word later ih =>
    rw [List.flatMap_cons, words_of_isWord (isWord word List.mem_cons_self),
      ih fun other member => isWord other (.tail word member), List.singleton_append]

theorem words_joined {listed : List String} (isWord : ∀ word ∈ listed, IsWord word) :
    words (" ".intercalate listed) = listed := by
  rw [words_intercalate]
  exact flatMap_words_of_isWord isWord

theorem words_eq_nil_of_isBlankText {text : String} (blank : isBlankText text = true) :
    words text = [] := by
  have none := chunks_append_blanks [] (List.all_eq_true.1 blank)
  rw [List.nil_append] at none
  unfold words
  rw [none]
  rfl

theorem words_eq_nil_of_isEmpty {text : String} (empty : text.isEmpty = true) :
    words text = [] := by
  rw [String.isEmpty_iff.1 empty]
  rfl

theorem flatMap_words_filter (texts : List String) :
    (texts.filter fun text => !text.isEmpty).flatMap words = texts.flatMap words := by
  induction texts with
  | nil => rfl
  | cons text later ih =>
    cases empty : text.isEmpty with
    | true =>
      rw [List.filter_cons_of_neg (by simp [empty]), ih, List.flatMap_cons,
        words_eq_nil_of_isEmpty empty, List.nil_append]
    | false =>
      rw [List.filter_cons_of_pos (by simp [empty]), List.flatMap_cons, List.flatMap_cons, ih]

end RhythmBot.Text
