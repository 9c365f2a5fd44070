import Mathlib.Data.List.Pairwise
import RhythmBot.Proofs.Mods
/-!
The modifiers of several tokens and how they are shown. Main statement: tokens give the modifiers that
they abbreviate together, and these are shown by abbreviations that are read as the same again.
-/

namespace RhythmBot.Mods

def Within (modifier : Modifier) (bits : BitVec 32) : Prop :=
  ∀ bit, modifier.bits.getLsbD bit = true → bits.getLsbD bit = true

theorem within_iff {modifier : Modifier} {bits : BitVec 32} :
    bits &&& modifier.bits = modifier.bits ↔ Within modifier bits := by
  constructor
  · intro same bit held
    rw [← same, BitVec.getLsbD_and, Bool.and_eq_true] at held
    exact held.1
  · intro within
    apply BitVec.eq_of_getLsbD_eq
    intro bit _
    rw [BitVec.getLsbD_and, Bool.and_eq_right_iff_imp]
    exact within bit

instance (modifier : Modifier) (bits : BitVec 32) : Decidable (Within modifier bits) :=
  decidable_of_iff _ within_iff

theorem within_together {listed : List Modifier} {modifier : Modifier} (member : modifier ∈ listed) :
    Within modifier (together listed).bits :=
  fun _ held => getLsbD_together.2 ⟨modifier, member, held⟩

theorem eq_of_getLsbD {first second : Mods}
    (same : ∀ bit, first.bits.getLsbD bit = true ↔ second.bits.getLsbD bit = true) :
    first = second := by
  obtain ⟨bits⟩ := first
  obtain ⟨others⟩ := second
  congr 1
  apply BitVec.eq_of_getLsbD_eq
  intro bit _
  rw [Bool.eq_iff_iff]
  exact same bit

/-- Modifiers of a list that are chosen to show some bits, and the bits that they cover. -/
structure Chosen (bits : BitVec 32) (listed shown : List Modifier) (covered : BitVec 32) : Prop where
  sublist : shown.Sublist listed
  covers : covered = (together shown).bits
  within : ∀ modifier ∈ shown, Within modifier bits
  /-- What could be shown is covered. -/
  full : ∀ modifier ∈ listed, Within modifier bits → Within modifier covered
  /-- None is part of one behind it. -/
  apart : shown.Pairwise fun first later => ¬ Within first later.bits

section Choice

variable {bits covered : BitVec 32} {listed shown : List Modifier} {modifier : Modifier}

theorem Chosen.take (chosen : Chosen bits listed shown covered) (inside : Within modifier bits)
    (fresh : ¬ Within modifier covered) :
    Chosen bits (modifier :: listed) (modifier :: shown) (covered ||| modifier.bits) where
  sublist := chosen.sublist.cons_cons modifier
  covers := by
    rw [together_cons, union, ← chosen.covers, BitVec.or_comm]
  within := by
    rw [List.forall_mem_cons]
    exact ⟨inside, chosen.within⟩
  full := by
    rw [List.forall_mem_cons]
    constructor
    · intro _ bit held
      rw [BitVec.getLsbD_or, held, Bool.or_true]
    · intro other member within bit held
      rw [BitVec.getLsbD_or, chosen.full other member within bit held, Bool.true_or]
  apart := by
    -- What is covered are the modifiers behind this one, so none of them hides it.
    rw [List.pairwise_cons]
    refine ⟨fun later member hidden => fresh ?_, chosen.apart⟩
    intro bit held
    rw [chosen.covers]
    exact within_together member bit (hidden bit held)

theorem Chosen.skip (chosen : Chosen bits listed shown covered)
    (old : Within modifier bits → Within modifier covered) :
    Chosen bits (modifier :: listed) shown covered where
  sublist := chosen.sublist.cons modifier
  covers := chosen.covers
  within := chosen.within
  full := by
    rw [List.forall_mem_cons]
    exact ⟨old, chosen.full⟩
  apart := chosen.apart

theorem chosen_shownFrom (bits : BitVec 32) (listed : List Modifier) :
    Chosen bits listed (shownFrom bits listed).1 (shownFrom bits listed).2 := by
  induction listed with
  | nil =>
    refine ⟨.slnil, rfl, ?_, ?_, .nil⟩
    · intro modifier member
      cases member
    · intro modifier member
      cases member
  | cons modifier rest ih =>
    simp only [shownFrom, ne_eq, within_iff]
    split
    · rename_i fresh
      exact ih.take fresh.1 fresh.2
    · rename_i old
      exact ih.skip fun inside => by_contra fun uncovered => old ⟨inside, uncovered⟩

end Choice

/-- The modifiers shown for some of the table are these together. -/
theorem together_shown {listed : List Modifier} (known : ∀ modifier ∈ listed, modifier ∈ table) :
    together (together listed).shown = together listed := by
  have chosen := chosen_shownFrom (together listed).bits table
  apply eq_of_getLsbD
  intro bit
  constructor
  · intro held
    obtain ⟨modifier, member, held⟩ := getLsbD_together.1 held
    exact chosen.within modifier member bit held
  · intro held
    obtain ⟨modifier, member, held⟩ := getLsbD_together.1 held
    have covered := chosen.full modifier (known modifier member) (within_together member) bit held
    rw [chosen.covers] at covered
    exact covered

/-- No modifier shown is part of another: those that extend others are behind these in the table. -/
theorem apart_shown (mods : Mods) {first second : Modifier} (front : first ∈ mods.shown)
    (alsoShown : second ∈ mods.shown) (different : first ≠ second) : ¬ Within first second.bits := by
  have chosen := chosen_shownFrom mods.bits table
  have ordered : table.Pairwise fun first later => ¬ Within later first.bits := by decide
  have both : mods.shown.Pairwise fun a b => ¬ Within a b.bits ∧ ¬ Within b a.bits :=
    chosen.apart.and (ordered.sublist chosen.sublist)
  have symmetric : Std.Symm fun a b : Modifier => ¬ Within a b.bits ∧ ¬ Within b a.bits :=
    ⟨fun _ _ => And.symm⟩
  exact (both.forall front alsoShown different).1

/-- How a set of modifiers is shown: by abbreviations that stand for it again. -/
structure Displayed (mods : Mods) (listed : List Modifier) : Prop where
  text : mods.text = String.ofList (listed.flatMap Modifier.letters)
  known : ∀ modifier ∈ listed, modifier ∈ table
  once : (listed.map Modifier.letters).Nodup
  /-- Nightcore and perfect are shown without what they extend. -/
  nightcore : ¬ (['D', 'T'] ∈ listed.map Modifier.letters ∧ ['N', 'C'] ∈ listed.map Modifier.letters)
  perfect : ¬ (['S', 'D'] ∈ listed.map Modifier.letters ∧ ['P', 'F'] ∈ listed.map Modifier.letters)
  read : ofToken? ("+" ++ mods.text) = some mods

theorem not_both_shown (mods : Mods) {part whole : List Char}
    (inside : ∀ first ∈ table, ∀ second ∈ table, first.letters = part → second.letters = whole →
      first ≠ second ∧ Within first second.bits) :
    ¬ (part ∈ mods.shown.map Modifier.letters ∧ whole ∈ mods.shown.map Modifier.letters) := by
  have known := (chosen_shownFrom mods.bits table).sublist.subset
  rintro ⟨partShown, wholeShown⟩
  obtain ⟨first, shown, letters⟩ := List.mem_map.1 partShown
  obtain ⟨second, alsoShown, others⟩ := List.mem_map.1 wholeShown
  obtain ⟨different, within⟩ := inside first (known shown) second (known alsoShown) letters others
  exact apart_shown mods shown alsoShown different within

theorem capitals_self {others : List (Char × List Char)} {letters : List Char}
    (upper : ∀ c ∈ letters, c ∈ table.flatMap Modifier.letters) : Capitals others letters letters := by
  have all : ((table.flatMap Modifier.letters).all fun c => c.isAlpha && c.toUpper == c) = true := by
    decide
  induction letters with
  | nil => exact .nil
  | cons c letters ih =>
    rw [List.forall_mem_cons] at upper
    obtain ⟨letter, same⟩ : c.isAlpha = true ∧ c.toUpper = c := by
      simpa using List.all_eq_true.1 all c upper.1
    have raised := Capitals.letter letter (ih upper.2)
    rw [same] at raised
    exact raised

theorem displayed_shown {listed : List Modifier} (known : ∀ modifier ∈ listed, modifier ∈ table)
    (filled : (together listed).isNone = false) :
    Displayed (together listed) (together listed).shown := by
  have chosen := chosen_shownFrom (together listed).bits table
  have text : (together listed).text =
      String.ofList ((together listed).shown.flatMap Modifier.letters) := by
    unfold Mods.text
    rw [filled]
    rfl
  have shownKnown : ∀ modifier ∈ (together listed).shown, modifier ∈ table :=
    fun modifier member => chosen.sublist.subset member
  refine ⟨text, shownKnown, ?_, ?_, ?_, ?_⟩
  · have distinct : (table.map Modifier.letters).Nodup := by decide
    exact distinct.sublist (chosen.sublist.map Modifier.letters)
  · exact not_both_shown _ (by decide)
  · exact not_both_shown _ (by decide)
  · apply ofToken?_eq_some.2
    refine ⟨_, ⟨⟨_, ?_, capitals_self ?_⟩, shownKnown, ?_⟩, (together_shown known).symm⟩
    · rw [text, String.toList_append, String.toList_ofList, String.toList_ofList]
      rfl
    · exact fun c => letter_of_known shownKnown
    · intro nothing
      have same := together_shown known
      rw [nothing] at same
      rw [← same] at filled
      cases filled

def Occurs (tokens : List String) (modifier : Modifier) : Prop :=
  ∃ token ∈ tokens, ∃ listed, Abbreviates ligatures token listed ∧ modifier ∈ listed

theorem getLsbD_ofTokens {tokens : List String} {bit : Nat} :
    (ofTokens tokens).bits.getLsbD bit = true ↔
      ∃ modifier, Occurs tokens modifier ∧ modifier.bits.getLsbD bit = true := by
  rw [ofTokens, getLsbD_foldl_union]
  simp only [List.mem_filterMap]
  constructor
  · rintro (nothing | ⟨mods, ⟨token, member, read⟩, held⟩)
    · simp [none] at nothing
    · obtain ⟨listed, spelled, rfl⟩ := ofToken?_eq_some.1 read
      obtain ⟨modifier, occurs, held⟩ := getLsbD_together.1 held
      exact ⟨modifier, ⟨token, member, listed, spelled, occurs⟩, held⟩
  · rintro ⟨modifier, ⟨token, member, listed, spelled, occurs⟩, held⟩
    exact .inr ⟨_, ⟨token, member, ofToken?_eq_some.2 ⟨listed, spelled, rfl⟩⟩,
      getLsbD_together.2 ⟨modifier, occurs, held⟩⟩

/-- The modifiers of tokens are some of the table together. -/
theorem exists_together_ofTokens (tokens : List String) :
    ∃ listed, (∀ modifier ∈ listed, modifier ∈ table) ∧ ofTokens tokens = together listed := by
  classical
  refine ⟨table.filter (Occurs tokens ·), fun modifier member => (List.mem_filter.1 member).1, ?_⟩
  apply eq_of_getLsbD
  intro bit
  rw [getLsbD_ofTokens, getLsbD_together]
  simp only [List.mem_filter, decide_eq_true_eq]
  constructor
  · rintro ⟨modifier, occurs, held⟩
    obtain ⟨_, _, _, spelled, listed⟩ := id occurs
    exact ⟨modifier, ⟨spelled.known modifier listed, occurs⟩, held⟩
  · rintro ⟨modifier, ⟨_, occurs⟩, held⟩
    exact ⟨modifier, occurs, held⟩

/-- Tokens give the modifiers that occur in them together, whatever their order and how they are
grouped; if there are any, they are shown by abbreviations that are read as the same set. -/
theorem ofTokens_unites (tokens : List String) :
    (∀ bit, (ofTokens tokens).bits.getLsbD bit = true ↔
      ∃ modifier, Occurs tokens modifier ∧ modifier.bits.getLsbD bit = true) ∧
    (∀ others, (∀ modifier, Occurs others modifier ↔ Occurs tokens modifier) →
      ofTokens others = ofTokens tokens) ∧
    ((ofTokens tokens).isNone = false → ∃ listed, Displayed (ofTokens tokens) listed) := by
  refine ⟨fun bit => getLsbD_ofTokens, ?_, ?_⟩
  · intro others same
    apply eq_of_getLsbD
    intro bit
    simp only [getLsbD_ofTokens, same]
  · intro filled
    obtain ⟨listed, known, whole⟩ := exists_together_ofTokens tokens
    rw [whole] at filled ⊢
    exact ⟨_, displayed_shown known filled⟩

/-- Double time goes unmentioned beside nightcore, and is kept. -/
example : (ofTokens ["+hd", "+DTNC"]).text = "HDNC" ∧
    ofToken? "+HDNC" = some (ofTokens ["+hd", "+DTNC"]) := by
  decide

theorem eq_of_flatMap_letters {first second : List Modifier}
    (known : ∀ modifier ∈ first, modifier ∈ table) (alsoKnown : ∀ modifier ∈ second, modifier ∈ table)
    (same : first.flatMap Modifier.letters = second.flatMap Modifier.letters) : first = second := by
  induction first generalizing second with
  | nil =>
    cases second with
    | nil => rfl
    | cons modifier later => cases same
  | cons modifier later ih =>
    cases second with
    | nil => cases same
    | cons other others =>
      rw [List.forall_mem_cons] at known alsoKnown
      simp only [List.flatMap_cons, Modifier.letters, List.cons_append, List.nil_append,
        List.cons.injEq] at same
      obtain ⟨front, back, rest⟩ := same
      have found := modifier?_eq_some.2 ⟨known.1, rfl⟩
      have alsoFound := modifier?_eq_some.2 ⟨alsoKnown.1, rfl⟩
      rw [front, back] at found
      rw [Option.some.inj (found.symm.trans alsoFound), ih known.2 alsoKnown.2 rest]

/-- A token abbreviates no two lists of modifiers. -/
theorem Abbreviates.unique {token : String} {first second : List Modifier}
    (spelled : Abbreviates ligatures token first) (alsoSpelled : Abbreviates ligatures token second) :
    first = second := by
  obtain ⟨letters, front, raised⟩ := spelled.spelled
  obtain ⟨others, alsoFront, alsoRaised⟩ := alsoSpelled.spelled
  rw [front] at alsoFront
  cases alsoFront
  apply eq_of_flatMap_letters spelled.known alsoSpelled.known
  have capitals := upperAsciiText?_of_capitals raised
  rw [upperAsciiText?_of_capitals alsoRaised] at capitals
  exact (Option.some.inj capitals).symm

theorem occurs_cons {token : String} {tokens : List String} {listed : List Modifier}
    (spelled : Abbreviates ligatures token listed) {modifier : Modifier} :
    Occurs (token :: tokens) modifier ↔ modifier ∈ listed ∨ Occurs tokens modifier := by
  simp only [Occurs, List.mem_cons, exists_eq_or_imp]
  apply or_congr_left
  constructor
  · rintro ⟨others, alsoSpelled, member⟩
    rw [spelled.unique alsoSpelled]
    exact member
  · intro member
    exact ⟨listed, spelled, member⟩

/-- Three tokens with a repetition give what one with the same abbreviations gives. -/
theorem ofTokens_unites_regrouped :
    (∀ modifier, Occurs ["+nc", "+HD", "+NC"] modifier ↔ Occurs ["+hdnc"] modifier) ∧
      ofTokens ["+nc", "+HD", "+NC"] = ofTokens ["+hdnc"] ∧
      (ofTokens ["+hdnc"]).isNone = false ∧ ∃ listed, Displayed (ofTokens ["+hdnc"]) listed := by
  have hidden : Abbreviates ligatures "+HD" [⟨'H', 'D', 8⟩] :=
    ⟨⟨_, rfl, .letter rfl (.letter rfl .nil)⟩, by decide, by decide⟩
  have nightcore : Abbreviates ligatures "+nc" [⟨'N', 'C', 576⟩] :=
    ⟨⟨_, rfl, .letter rfl (.letter rfl .nil)⟩, by decide, by decide⟩
  have capital : Abbreviates ligatures "+NC" [⟨'N', 'C', 576⟩] :=
    ⟨⟨_, rfl, .letter rfl (.letter rfl .nil)⟩, by decide, by decide⟩
  have both : Abbreviates ligatures "+hdnc" [⟨'H', 'D', 8⟩, ⟨'N', 'C', 576⟩] :=
    ⟨⟨_, rfl, .letter rfl (.letter rfl (.letter rfl (.letter rfl .nil)))⟩, by decide, by decide⟩
  have same : ∀ modifier, Occurs ["+nc", "+HD", "+NC"] modifier ↔ Occurs ["+hdnc"] modifier := by
    intro modifier
    rw [occurs_cons nightcore, occurs_cons hidden, occurs_cons capital, occurs_cons both]
    simp only [List.mem_cons, List.not_mem_nil, or_false]
    grind
  obtain ⟨_, regrouped, displayed⟩ := ofTokens_unites ["+hdnc"]
  have filled : (ofTokens ["+hdnc"]).isNone = false := by decide
  exact ⟨same, regrouped _ same, filled, displayed filled⟩

end RhythmBot.Mods
