import RhythmBot.Mode
/-!
The tokens that name a mode. Besides the words and the numbers listed, these are the numbers with a
plus sign or zeros in front and the words with a Kelvin sign for a k.
-/

namespace RhythmBot

namespace Text

theorem eq_digitChar_of_digitValue? {c : Char} {digit : Nat} (value : digitValue? c = some digit) :
    digit < 10 ∧ c = Nat.digitChar digit := by
  unfold digitValue? at value
  split at value
  · rename_i bounds
    cases value
    have lower : 48 ≤ c.toNat := bounds.1
    have upper : c.toNat ≤ 57 := bounds.2
    have all : ∀ digit ∈ List.range 10, Char.ofNat (digit + 48) = Nat.digitChar digit := by decide
    have same := all (c.toNat - 48) (List.mem_range.2 (by omega))
    rw [Nat.sub_add_cancel lower, Char.ofNat_toNat] at same
    exact ⟨by omega, same⟩
  · cases value

theorem digitValue?_digitChar {digit : Nat} (small : digit < 10) :
    digitValue? (Nat.digitChar digit) = some digit := by
  have all : ∀ digit ∈ List.range 10, digitValue? (Nat.digitChar digit) = some digit := by decide
  exact all digit (List.mem_range.2 small)

theorem digitsFrom?_cons {value n : Nat} {c : Char} {rest : List Char} :
    digitsFrom? value (c :: rest) = some n ↔
      ∃ digit, digitValue? c = some digit ∧ digitsFrom? (10 * value + digit) rest = some n :=
  Option.bind_eq_some_iff

theorem le_of_digitsFrom? {value n : Nat} {cs : List Char} (read : digitsFrom? value cs = some n) :
    value ≤ n := by
  induction cs generalizing value with
  | nil =>
    cases read
    exact Nat.le_refl _
  | cons c rest ih =>
    obtain ⟨digit, _, later⟩ := digitsFrom?_cons.1 read
    have bound := ih later
    omega

theorem digits?_eq_some_iff {n : Nat} (small : n < 10) {cs : List Char} :
    digits? cs = some n ↔ ∃ zeros, cs = List.replicate zeros '0' ++ [Nat.digitChar n] := by
  constructor
  · intro read
    induction cs with
    | nil => cases read
    | cons c rest ih =>
      obtain ⟨digit, value, later⟩ := digitsFrom?_cons.1 read
      obtain ⟨_, rfl⟩ := eq_digitChar_of_digitValue? value
      cases rest with
      | nil =>
        cases later
        exact ⟨0, by simp⟩
      | cons next others =>
        obtain ⟨second, _, behind⟩ := digitsFrom?_cons.1 later
        -- A digit other than zero in front would make the number ten or more.
        have bound := le_of_digitsFrom? behind
        have zero : digit = 0 := by omega
        subst zero
        obtain ⟨zeros, same⟩ := ih later
        exact ⟨zeros + 1, by rw [same, List.replicate_succ, List.cons_append]; rfl⟩
  · rintro ⟨zeros, rfl⟩
    induction zeros with
    | zero =>
      apply digitsFrom?_cons.2
      exact ⟨n, digitValue?_digitChar small, by rw [digitsFrom?]; simp⟩
    | succ zeros ih =>
      rw [List.replicate_succ, List.cons_append]
      apply digitsFrom?_cons.2
      refine ⟨0, rfl, ?_⟩
      cases front : List.replicate zeros '0' ++ [Nat.digitChar n] with
      | nil => simp at front
      | cons c rest =>
        rw [front] at ih
        exact ih

/-- A text that writes a number below ten: its digit, with any number of zeros and then perhaps a plus
sign in front. -/
inductive Numeral (n : Nat) : List Char → Prop
  | unsigned (zeros : Nat) : Numeral n (List.replicate zeros '0' ++ [Nat.digitChar n])
  | signed (zeros : Nat) : Numeral n ('+' :: (List.replicate zeros '0' ++ [Nat.digitChar n]))

variable {largest n : Nat} {text : String}

theorem natural?_signed {rest : List Char} (signed : text.toList = '+' :: rest) :
    natural? largest text =
      (digits? rest).bind fun value => if value ≤ largest then some value else none := by
  unfold natural?
  rw [signed]
  rfl

theorem natural?_unsigned (unsigned : text.toList.head? ≠ some '+') :
    natural? largest text =
      (digits? text.toList).bind fun value => if value ≤ largest then some value else none := by
  unfold natural?
  split
  · rename_i rest signed
    rw [signed] at unsigned
    exact absurd rfl unsigned
  · rfl

theorem bind_within (within : n ≤ largest) {read : Option Nat} :
    (read.bind fun value => if value ≤ largest then some value else none) = some n ↔
      read = some n := by
  rw [Option.bind_eq_some_iff]
  constructor
  · rintro ⟨value, rfl, kept⟩
    split at kept
    · exact kept
    · cases kept
  · rintro rfl
    exact ⟨n, rfl, if_pos within⟩

theorem natural?_eq_some_iff (small : n < 10) (within : n ≤ largest) :
    natural? largest text = some n ↔ Numeral n text.toList := by
  constructor
  · intro read
    by_cases signed : text.toList.head? = some '+'
    · obtain ⟨rest, letters⟩ := List.head?_eq_some_iff.1 signed
      rw [natural?_signed letters, bind_within within, digits?_eq_some_iff small] at read
      obtain ⟨zeros, rfl⟩ := read
      rw [letters]
      exact .signed zeros
    · rw [natural?_unsigned signed, bind_within within, digits?_eq_some_iff small] at read
      obtain ⟨zeros, letters⟩ := read
      rw [letters]
      exact .unsigned zeros
  · intro numeral
    generalize letters : text.toList = cs at numeral
    cases numeral with
    | signed zeros =>
      rw [natural?_signed letters, bind_within within, digits?_eq_some_iff small]
      exact ⟨zeros, rfl⟩
    | unsigned zeros =>
      have found := (digits?_eq_some_iff small).2 ⟨zeros, letters⟩
      have unsigned : text.toList.head? ≠ some '+' := by
        intro signed
        obtain ⟨rest, same⟩ := List.head?_eq_some_iff.1 signed
        rw [same] at found
        cases found
      rw [natural?_unsigned unsigned, bind_within within, found]

theorem natural?_eq_none {c : Char} (front : text.toList.head? = some c) (unsigned : c ≠ '+')
    (other : digitValue? c = none) : natural? largest text = none := by
  have plain : text.toList.head? ≠ some '+' := by
    rw [front]
    exact fun same => unsigned (Option.some.inj same)
  obtain ⟨rest, letters⟩ := List.head?_eq_some_iff.1 front
  have unread : digits? (c :: rest) = none := by
    change (digitValue? c).bind _ = none
    rw [other]
    rfl
  rw [natural?_unsigned plain, letters, unread]
  rfl

end Text

namespace Mode

open Text

/-- A token that names a mode as it is listed: by its number, or by one of its words with letters of
either case. -/
inductive Listed (mode : Mode) (token : String) : Prop
  | number : token = toString mode.index → Listed mode token
  | word {word : String} :
      word ∈ mode.synonyms → token.toList.map Char.toLower = word.toList → Listed mode token

/-- A token that is taken for a mode: a numeral of its number, or one of its words with letters of
either case or a Kelvin sign for a k. -/
inductive Taken (mode : Mode) (token : String) : Prop
  | number : Numeral mode.index token.toList → Taken mode token
  | word {word : String} :
      word ∈ mode.synonyms →
      (token.toList.map fun c => if c = '\u212a' then 'k' else c.toLower) = word.toList →
      Taken mode token

/-- A token without a plus sign in front, a zero in front of others, and a Kelvin sign. -/
structure Plain (token : String) : Prop where
  unsigned : token.toList.head? ≠ some '+'
  unpadded : token.toList.head? = some '0' → token.toList = ['0']
  ascii : '\u212a' ∉ token.toList

theorem letter_of_mem_synonyms {mode : Mode} {word : String} (listed : word ∈ mode.synonyms) :
    word.toList ≠ [] ∧
      ∀ letter ∈ word.toList, digitValue? letter = none ∧ letter ≠ '+' ∧ letter ≠ '\u212a' := by
  -- A test of the letters one by one: a quantifier would be decided by trying every character.
  have all : ∀ mode ∈ all, ∀ word ∈ mode.synonyms, word.toList ≠ [] ∧
      (word.toList.all fun letter =>
        digitValue? letter == none && letter != '+' && letter != '\u212a') = true := by
    decide
  obtain ⟨nonempty, letters⟩ := all mode (mem_all mode) word listed
  exact ⟨nonempty, by simpa [and_assoc] using letters⟩

theorem eq_of_mem_synonyms {first second : Mode} {word : String} (named : word ∈ first.synonyms)
    (alsoNamed : word ∈ second.synonyms) : first = second := by
  have all : ∀ first ∈ all, ∀ second ∈ all, ∀ word ∈ first.synonyms,
      word ∈ second.synonyms → first = second := by
    decide
  exact all first (mem_all first) second (mem_all second) word named alsoNamed

theorem ofIndex?_eq_some {n : Nat} {mode : Mode} : ofIndex? n = some mode ↔ n = mode.index := by
  constructor
  · intro found
    have within : n < 4 := (List.getElem?_eq_some_iff.1 found).1
    have all : ∀ n ∈ List.range 4, ofIndex? n = some mode → n = mode.index := by
      cases mode <;> decide
    exact all n (List.mem_range.2 within) found
  · rintro rfl
    exact ofIndex?_index mode

theorem ofWord?_eq_some {word : String} {mode : Mode} :
    ofWord? word = some mode ↔ word ∈ mode.synonyms := by
  constructor
  · intro found
    simpa using List.find?_some found
  · intro named
    unfold ofWord?
    cases found : all.find? fun mode => mode.synonyms.contains word with
    | none =>
      have missing := List.find?_eq_none.1 found mode (mem_all mode)
      simp [named] at missing
    | some other =>
      have alsoNamed := List.find?_some found
      rw [eq_of_mem_synonyms (List.contains_iff_mem.1 alsoNamed) named]

variable {mode : Mode} {token : String}

theorem mem_synonyms_lowerAsciiText :
    lowerAsciiText token ∈ mode.synonyms ↔
      ∃ word ∈ mode.synonyms, token.toList.map lowerAscii = word.toList := by
  constructor
  · intro named
    exact ⟨_, named, by rw [lowerAsciiText, String.toList_ofList]⟩
  · rintro ⟨word, named, same⟩
    rw [lowerAsciiText, same, String.ofList_toList]
    exact named

theorem natural?_of_word {word : String} (named : word ∈ mode.synonyms)
    (same : token.toList.map lowerAscii = word.toList) (largest : Nat) :
    natural? largest token = none := by
  obtain ⟨nonempty, letters⟩ := letter_of_mem_synonyms named
  rw [← same] at nonempty letters
  cases spelled : token.toList with
  | nil =>
    rw [spelled] at nonempty
    exact absurd rfl nonempty
  | cons c rest =>
    rw [spelled] at letters
    obtain ⟨undigited, unsigned, _⟩ := letters (lowerAscii c) List.mem_cons_self
    apply natural?_eq_none (by rw [spelled]; rfl)
    · rintro rfl
      exact unsigned rfl
    · cases value : digitValue? c with
      | none => rfl
      | some digit =>
        obtain ⟨small, rfl⟩ := eq_digitChar_of_digitValue? value
        have all : ∀ digit ∈ List.range 10,
            lowerAscii (Nat.digitChar digit) = Nat.digitChar digit := by
          decide
        rw [all digit (List.mem_range.2 small), value] at undigited
        exact undigited

theorem ofToken?_eq_some_iff : ofToken? token = some mode ↔ Taken mode token := by
  have small : mode.index < 10 ∧ mode.index ≤ 255 := by cases mode <;> decide
  constructor
  · intro found
    unfold ofToken? at found
    split at found
    · rename_i n read
      cases ofIndex?_eq_some.1 found
      exact .number ((natural?_eq_some_iff small.1 small.2).1 read)
    · obtain ⟨word, named, same⟩ := mem_synonyms_lowerAsciiText.1 (ofWord?_eq_some.1 found)
      exact .word named same
  · intro taken
    unfold ofToken?
    cases taken with
    | number numeral =>
      rw [(natural?_eq_some_iff small.1 small.2).2 numeral]
      exact ofIndex?_index mode
    | word named same =>
      rw [natural?_of_word named same]
      exact ofWord?_eq_some.2 (mem_synonyms_lowerAsciiText.2 ⟨_, named, same⟩)

theorem lowerAscii_of_ne {c : Char} (other : c ≠ '\u212a') : lowerAscii c = c.toLower := by
  unfold lowerAscii
  rw [if_neg other]

/-- The tokens listed are those that are taken for a mode in a plain form. -/
theorem listed_iff : Listed mode token ↔ Taken mode token ∧ Plain token := by
  constructor
  · rintro (rfl | ⟨named, same⟩)
    · have numeral : (toString mode.index).toList = [Nat.digitChar mode.index] := by
        cases mode <;> rfl
      have ascii : '\u212a' ≠ Nat.digitChar mode.index ∧ '+' ≠ Nat.digitChar mode.index := by
        cases mode <;> decide
      refine ⟨.number ?_, ?_, ?_, ?_⟩
      · rw [numeral]
        exact .unsigned 0
      · rw [numeral]
        exact fun signed => ascii.2 (Option.some.inj signed).symm
      · rw [numeral]
        exact fun zero => congrArg (fun c => [c]) (Option.some.inj zero)
      · rw [numeral, List.mem_singleton]
        exact ascii.1
    · rename_i word
      obtain ⟨_, letters⟩ := letter_of_mem_synonyms named
      rw [← same] at letters
      have lower : ∀ c ∈ token.toList, digitValue? c.toLower = none ∧ c.toLower ≠ '+' ∧
          c.toLower ≠ '\u212a' :=
        fun c member => letters c.toLower (List.mem_map_of_mem member)
      have ascii : '\u212a' ∉ token.toList := fun member => (lower _ member).2.2 rfl
      refine ⟨.word named ?_, ?_, ?_, ascii⟩
      · rw [← same]
        apply List.map_congr_left
        intro c member
        exact lowerAscii_of_ne fun kelvin => ascii (kelvin ▸ member)
      · intro signed
        exact (lower '+' (List.mem_of_mem_head? signed)).2.1 rfl
      · intro zero
        cases (lower '0' (List.mem_of_mem_head? zero)).1
  · rintro ⟨numeral | ⟨named, same⟩, unsigned, unpadded, ascii⟩
    · refine .number ?_
      generalize letters : token.toList = cs at numeral unsigned unpadded
      cases numeral with
      | signed zeros => exact absurd rfl unsigned
      | unsigned zeros =>
        have single : token.toList = [Nat.digitChar mode.index] := by
          cases zeros with
          | zero => exact letters
          | succ zeros =>
            have short := congrArg List.length (unpadded rfl)
            simp at short
        rw [← String.toList_inj, single]
        cases mode <;> rfl
    · refine .word named ?_
      rw [← same]
      apply List.map_congr_left
      intro c member
      exact (lowerAscii_of_ne fun kelvin => ascii (kelvin ▸ member)).symm

end Mode

end RhythmBot
