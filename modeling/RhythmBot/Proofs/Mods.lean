import RhythmBot.Mods
/-!
The tokens that abbreviate modifiers. Main statement: a token is one exactly if it is a plus sign in
front of abbreviations from the table; in place of ASCII letters they may have a few others whose
capitals are ASCII.
-/

namespace RhythmBot.Mods

open Text

def together (listed : List Modifier) : Mods :=
  listed.foldr (fun modifier others => union ⟨modifier.bits⟩ others) none

@[simp] theorem together_nil : together [] = none := rfl

@[simp] theorem together_cons (modifier : Modifier) (listed : List Modifier) :
    together (modifier :: listed) = union ⟨modifier.bits⟩ (together listed) := rfl

theorem getLsbD_together {listed : List Modifier} {bit : Nat} :
    (together listed).bits.getLsbD bit = true ↔
      ∃ modifier ∈ listed, modifier.bits.getLsbD bit = true := by
  induction listed with
  | nil => simp [none]
  | cons modifier listed ih =>
    rw [together_cons]
    simp only [union, BitVec.getLsbD_or, Bool.or_eq_true, ih, List.mem_cons, exists_eq_or_imp]

theorem getLsbD_foldl_union (sets : List Mods) (start : Mods) (bit : Nat) :
    (sets.foldl union start).bits.getLsbD bit = true ↔
      start.bits.getLsbD bit = true ∨ ∃ mods ∈ sets, mods.bits.getLsbD bit = true := by
  induction sets generalizing start with
  | nil => simp
  | cons first rest ih =>
    rw [List.foldl_cons, ih]
    simp only [union, BitVec.getLsbD_or, Bool.or_eq_true, List.mem_cons, exists_eq_or_imp, or_assoc]

/-- Letters in a row and their capitals, where besides the ASCII letters there are `others`, each with
the capitals that it stands for. -/
inductive Capitals (others : List (Char × List Char)) : List Char → List Char → Prop
  | nil : Capitals others [] []
  | letter {c : Char} {letters capitals : List Char} :
      c.isAlpha = true → Capitals others letters capitals →
      Capitals others (c :: letters) (c.toUpper :: capitals)
  | other {c : Char} {front letters capitals : List Char} :
      (c, front) ∈ others → Capitals others letters capitals →
      Capitals others (c :: letters) (front ++ capitals)

/-- The letters outside ASCII that abbreviations can be written with: the long s and three of the
ligatures. -/
def ligatures : List (Char × List Char) :=
  [('\u017f', ['S']), ('\ufb00', ['F', 'F']), ('\ufb02', ['F', 'L']), ('\ufb04', ['F', 'F', 'L'])]

/-- A token that abbreviates modifiers: a plus sign in front of letters whose capitals are the
abbreviations of one or more modifiers of the table. -/
structure Abbreviates (others : List (Char × List Char)) (token : String)
    (listed : List Modifier) : Prop where
  spelled : ∃ letters, token.toList = '+' :: letters ∧
    Capitals others letters (listed.flatMap Modifier.letters)
  known : ∀ modifier ∈ listed, modifier ∈ table
  filled : listed ≠ []

theorem modifier?_eq_some {first second : Char} {modifier : Modifier} :
    modifier? first second = some modifier ↔
      modifier ∈ table ∧ modifier.letters = [first, second] := by
  constructor
  · intro found
    refine ⟨List.mem_of_find?_eq_some found, ?_⟩
    have same := List.find?_some found
    simp only [Bool.and_eq_true, beq_iff_eq] at same
    rw [Modifier.letters, same.1, same.2]
  · rintro ⟨listed, same⟩
    have all : ∀ modifier ∈ table, modifier? modifier.first modifier.second = some modifier := by
      decide
    cases same
    exact all modifier listed

/-- Capital letters read as modifiers are the abbreviations of these in a row. -/
theorem ofLetters?_eq_some {capitals : List Char} {mods : Mods} :
    ofLetters? capitals = some mods ↔
      ∃ listed, (∀ modifier ∈ listed, modifier ∈ table) ∧
        capitals = listed.flatMap Modifier.letters ∧ mods = together listed := by
  constructor
  · intro read
    fun_induction ofLetters? capitals generalizing mods with
    | case1 =>
      cases read
      exact ⟨[], by simp, rfl, rfl⟩
    | case2 => cases read
    | case3 first second rest ih =>
      obtain ⟨modifier, found, read⟩ := Option.bind_eq_some_iff.1 read
      obtain ⟨others, later, whole⟩ := Option.bind_eq_some_iff.1 read
      obtain ⟨listed, known, rfl, rfl⟩ := ih later
      cases whole
      obtain ⟨inTable, letters⟩ := modifier?_eq_some.1 found
      refine ⟨modifier :: listed, ?_, ?_, rfl⟩
      · rw [List.forall_mem_cons]
        exact ⟨inTable, known⟩
      · rw [List.flatMap_cons, letters]
        rfl
  · rintro ⟨listed, known, rfl, rfl⟩
    induction listed with
    | nil => rfl
    | cons modifier listed ih =>
      rw [List.forall_mem_cons] at known
      have found : modifier? modifier.first modifier.second = some modifier :=
        modifier?_eq_some.2 ⟨known.1, rfl⟩
      rw [List.flatMap_cons, Modifier.letters, List.cons_append, List.singleton_append, ofLetters?,
        found, ih known.2]
      rfl

theorem letter_of_known {listed : List Modifier} (known : ∀ modifier ∈ listed, modifier ∈ table)
    {c : Char} (spelled : c ∈ listed.flatMap Modifier.letters) :
    c ∈ table.flatMap Modifier.letters := by
  obtain ⟨modifier, member, letter⟩ := List.mem_flatMap.1 spelled
  exact List.mem_flatMap.2 ⟨modifier, known modifier member, letter⟩

/-- In abbreviations an S is in front of a D or an O, since none ends in S. -/
theorem not_infix_of_known {listed : List Modifier} (known : ∀ modifier ∈ listed, modifier ∈ table)
    {c : Char} (unlisted : c ≠ 'D' ∧ c ≠ 'O') :
    ¬ ['S', c] <:+: listed.flatMap Modifier.letters := by
  have front : ∀ modifier ∈ table, modifier.first = 'S' →
      modifier.second = 'D' ∨ modifier.second = 'O' := by
    decide
  have back : ∀ modifier ∈ table, modifier.second ≠ 'S' := by decide
  induction listed with
  | nil => simp
  | cons modifier listed ih =>
    rw [List.forall_mem_cons] at known
    rw [List.flatMap_cons, Modifier.letters, List.cons_append, List.singleton_append,
      List.infix_cons_iff, List.infix_cons_iff, not_or, not_or]
    refine ⟨?_, ?_, ih known.2⟩
    · intro starts
      obtain ⟨first, rest⟩ := List.cons_prefix_cons.1 starts
      obtain ⟨rfl, _⟩ := List.cons_prefix_cons.1 rest
      rcases front modifier known.1 first.symm with same | same
      · exact unlisted.1 same
      · exact unlisted.2 same
    · intro starts
      exact back modifier known.1 (List.cons_prefix_cons.1 starts).1.symm

theorem toNat_lt_of_isAlpha {c : Char} (letter : c.isAlpha = true) : c.toNat < 128 := by
  rcases Bool.or_eq_true_iff.1 letter with upper | lower
  · have bounds : 'A'.val ≤ c.val ∧ c.val ≤ 'Z'.val := of_decide_eq_true upper
    exact Nat.lt_of_le_of_lt (UInt32.le_iff_toNat_le.1 bounds.2) (by decide)
  · have bound : c.val ≤ 'z'.val := of_decide_eq_true (Bool.and_eq_true_iff.1 lower).2
    exact Nat.lt_of_le_of_lt (UInt32.le_iff_toNat_le.1 bound) (by decide)

theorem isAlpha_of_isUpper_toUpper {c : Char} (upper : c.toUpper.isUpper = true) :
    c.isAlpha = true := by
  apply Bool.or_eq_true_iff.2
  by_cases lower : 'a'.val ≤ c.val ∧ c.val ≤ 'z'.val
  · exact .inr (Bool.and_eq_true_iff.2 ⟨decide_eq_true lower.1, decide_eq_true lower.2⟩)
  · have same : c.toUpper = c := dif_neg lower
    rw [same] at upper
    exact .inl upper

theorem isUpper_of_mem_letters {c : Char} (letter : c ∈ table.flatMap Modifier.letters) :
    c.isUpper = true := by
  have all : (table.flatMap Modifier.letters).all Char.isUpper = true := by decide
  exact List.all_eq_true.1 all c letter

theorem upperAscii?_of_isAlpha {c : Char} (letter : c.isAlpha = true) :
    upperAscii? c = some [c.toUpper] :=
  if_pos (toNat_lt_of_isAlpha letter)

theorem upperAsciiText?_of_capitals {letters capitals : List Char}
    (raised : Capitals ligatures letters capitals) : upperAsciiText? letters = some capitals := by
  have all : ∀ entry ∈ ligatures, upperAscii? entry.1 = some entry.2 := by decide
  induction raised with
  | nil => rfl
  | letter letter _ ih =>
    unfold upperAsciiText?
    rw [upperAscii?_of_isAlpha letter, ih]
    rfl
  | other listed _ ih =>
    unfold upperAsciiText?
    rw [all _ listed, ih]
    rfl

/-- Outside ASCII, the capitals that are no ligature's hold an I or are an S in front of another letter.
-/
theorem upperAscii?_wide {c : Char} {front : List Char} (raised : upperAscii? c = some front)
    (wide : ¬ c.toNat < 128) :
    (c, front) ∈ ligatures ∨ 'I' ∈ front ∨ front = ['S', 'S'] ∨ front = ['S', 'T'] := by
  have named : Char.ofNat c.toNat = c := Char.ofNat_toNat c
  unfold upperAscii? at raised
  rw [if_neg wide] at raised
  split at raised
  case h_11 => cases raised
  all_goals
    rename_i code
    rw [code] at named
    subst named
    cases raised
    decide

/-- A character whose capitals stand in abbreviations is a letter or one of the ligatures. -/
theorem kind_of_upperAscii? {listed : List Modifier}
    (known : ∀ modifier ∈ listed, modifier ∈ table) {c : Char} {front : List Char}
    (raised : upperAscii? c = some front) (within : front <:+: listed.flatMap Modifier.letters) :
    c.isAlpha = true ∧ front = [c.toUpper] ∨ (c, front) ∈ ligatures := by
  have letters : ∀ letter ∈ front, letter ∈ table.flatMap Modifier.letters :=
    fun letter member => letter_of_known known (within.subset member)
  by_cases ascii : c.toNat < 128
  · unfold upperAscii? at raised
    rw [if_pos ascii] at raised
    cases raised
    have upper := isUpper_of_mem_letters (letters _ List.mem_cons_self)
    exact .inl ⟨isAlpha_of_isUpper_toUpper upper, rfl⟩
  · rcases upperAscii?_wide raised ascii with ligature | foreign | rfl | rfl
    · exact .inr ligature
    -- No abbreviation has an I; the pairs left are the capitals of the sharp s and the ligatures st.
    · exact absurd (letters 'I' foreign) (by decide)
    · exact absurd within (not_infix_of_known known (by decide))
    · exact absurd within (not_infix_of_known known (by decide))

theorem capitals_of_upperAsciiText? {listed : List Modifier}
    (known : ∀ modifier ∈ listed, modifier ∈ table) {letters capitals : List Char}
    (raised : upperAsciiText? letters = some capitals)
    (within : capitals <:+ listed.flatMap Modifier.letters) :
    Capitals ligatures letters capitals := by
  -- By induction on the letters: the capitals left stay an end of the abbreviations, although
  -- the capitals of one letter may begin or end within one of them.
  induction letters generalizing capitals with
  | nil =>
    cases raised
    exact .nil
  | cons c letters ih =>
    obtain ⟨front, first, raised⟩ := Option.bind_eq_some_iff.1 raised
    obtain ⟨back, later, whole⟩ := Option.bind_eq_some_iff.1 raised
    cases whole
    have rest := ih later ((List.suffix_append front back).trans within)
    have here : front <:+: listed.flatMap Modifier.letters :=
      (List.prefix_append front back).isInfix.trans within.isInfix
    rcases kind_of_upperAscii? known first here with ⟨letter, rfl⟩ | ligature
    · exact .letter letter rest
    · exact .other ligature rest

theorem ofToken?_eq_some {token : String} {mods : Mods} :
    ofToken? token = some mods ↔
      ∃ listed, Abbreviates ligatures token listed ∧ mods = together listed := by
  constructor
  · intro read
    unfold ofToken? at read
    split at read
    · rename_i letters spelled
      obtain ⟨capitals, raised, read⟩ := Option.bind_eq_some_iff.1 read
      split at read
      · cases read
      · rename_i filled
        obtain ⟨listed, known, rfl, rfl⟩ := ofLetters?_eq_some.1 read
        have here := List.suffix_refl (listed.flatMap Modifier.letters)
        refine ⟨listed, ⟨⟨letters, spelled, ?_⟩, known, ?_⟩, rfl⟩
        · exact capitals_of_upperAsciiText? known raised here
        · rintro rfl
          exact filled rfl
    · cases read
  · rintro ⟨listed, ⟨⟨letters, spelled, raised⟩, known, filled⟩, rfl⟩
    have read := ofLetters?_eq_some.2 ⟨listed, known, rfl, rfl⟩
    unfold ofToken?
    rw [spelled]
    change (upperAsciiText? letters).bind _ = _
    rw [upperAsciiText?_of_capitals raised, Option.bind_some]
    cases listed with
    | nil => exact absurd rfl filled
    | cons modifier listed => exact read

/-- Within ASCII, letters stand for their own capitals only. -/
theorem capitals_ascii_iff {letters capitals : List Char} :
    Capitals ligatures letters capitals ∧ (∀ c ∈ letters, c.toNat < 128) ↔
      Capitals [] letters capitals := by
  have wide : ∀ entry ∈ ligatures, ¬ entry.1.toNat < 128 := by decide
  constructor
  · rintro ⟨raised, ascii⟩
    induction raised with
    | nil => exact .nil
    | letter letter _ ih =>
      rw [List.forall_mem_cons] at ascii
      exact .letter letter (ih ascii.2)
    | other listed _ ih => exact absurd (ascii _ List.mem_cons_self) (wide _ listed)
  · intro raised
    induction raised with
    | nil => exact ⟨.nil, by simp⟩
    | letter letter _ ih =>
      refine ⟨.letter letter ih.1, ?_⟩
      rw [List.forall_mem_cons]
      exact ⟨toNat_lt_of_isAlpha letter, ih.2⟩
    | other listed _ ih => cases listed

theorem abbreviates_ascii_iff {token : String} {listed : List Modifier} :
    Abbreviates ligatures token listed ∧ (∀ c ∈ token.toList, c.toNat < 128) ↔
      Abbreviates [] token listed := by
  constructor
  · rintro ⟨⟨⟨letters, spelled, raised⟩, known, filled⟩, ascii⟩
    rw [spelled, List.forall_mem_cons] at ascii
    exact ⟨⟨letters, spelled, capitals_ascii_iff.1 ⟨raised, ascii.2⟩⟩, known, filled⟩
  · rintro ⟨⟨letters, spelled, raised⟩, known, filled⟩
    obtain ⟨wider, ascii⟩ := capitals_ascii_iff.2 raised
    refine ⟨⟨⟨letters, spelled, wider⟩, known, filled⟩, ?_⟩
    rw [spelled, List.forall_mem_cons]
    exact ⟨by decide, ascii⟩

/-- Exactly the tokens that abbreviate modifiers are read, as these modifiers together. Those within
ASCII are the ones that need no other letters. -/
theorem ofToken?_abbreviated (token : String) (mods : Mods) :
    (ofToken? token = some mods ↔
      ∃ listed, Abbreviates ligatures token listed ∧ mods = together listed) ∧
    (ofToken? token = some mods ∧ (∀ c ∈ token.toList, c.toNat < 128) ↔
      ∃ listed, Abbreviates [] token listed ∧ mods = together listed) := by
  refine ⟨ofToken?_eq_some, ?_⟩
  rw [ofToken?_eq_some]
  constructor
  · rintro ⟨⟨listed, spelled, whole⟩, ascii⟩
    exact ⟨listed, abbreviates_ascii_iff.1 ⟨spelled, ascii⟩, whole⟩
  · rintro ⟨listed, spelled, whole⟩
    obtain ⟨wider, ascii⟩ := abbreviates_ascii_iff.2 spelled
    exact ⟨⟨listed, wider, whole⟩, ascii⟩

/-- A token with a letter outside ASCII is read although it is no pair of ASCII letters. -/
theorem ofToken?_wide :
    ofToken? "+\u017fd" = some ⟨32⟩ ∧ ofToken? "+\ufb02" = some ⟨1024⟩ ∧
      ∀ listed, ¬ Abbreviates [] "+\u017fd" listed ∧ ¬ Abbreviates [] "+\ufb02" listed := by
  refine ⟨by decide, by decide, fun listed => ⟨?_, ?_⟩⟩
  · intro spelled
    have ascii := (abbreviates_ascii_iff.2 spelled).2 '\u017f' (by decide)
    exact absurd ascii (by decide)
  · intro spelled
    have ascii := (abbreviates_ascii_iff.2 spelled).2 '\ufb02' (by decide)
    exact absurd ascii (by decide)

end RhythmBot.Mods
