import RhythmBot.Arguments
import RhythmBot.Proofs.Mode
/-!
How tokens are sorted into the arguments of a command that takes modifiers. Main statement: a mode is
taken from the front, the rest is split into modifiers and others in their order, and a modifier is
lost exactly if it is taken for a mode.
-/

namespace RhythmBot.Arguments

def IsModifier (token : String) : Prop :=
  token.toList.head? = some '+' ∧ 1 < token.length

instance (token : String) : Decidable (IsModifier token) :=
  inferInstanceAs (Decidable (_ ∧ _))

/-- Tokens sorted into arguments, where a first token is taken for a mode that it names. -/
structure Sorted (names : Mode → String → Prop) (tokens : List String) (arguments : Arguments) :
    Prop where
  /-- A mode is set exactly by a first token that names it. -/
  mode : ∀ mode, arguments.mode = some mode ↔ ∃ first ∈ tokens.head?, names mode first
  /-- Only that token is missing. -/
  full : arguments.full = if arguments.mode.isSome then tokens.tail else tokens
  /-- Of the tokens kept, those that stand for modifiers are set apart. -/
  modifiers : arguments.modifiers = arguments.full.filter (IsModifier ·)
  nickname : arguments.nickname = arguments.full.filter (¬ IsModifier ·)

variable {tokens : List String} {token : String}

theorem isModifier_iff : isModifier token = true ↔ IsModifier token := by
  unfold isModifier IsModifier
  rw [← String.length_toList]
  generalize token.toList = cs
  split
  · simp
  · rename_i other
    simp only [Bool.false_eq_true, false_iff]
    rintro ⟨front, long⟩
    obtain ⟨rest, rfl⟩ := List.head?_eq_some_iff.1 front
    cases rest with
    | nil => exact absurd long (Nat.lt_irrefl 1)
    | cons c more => exact other c more rfl

theorem filter_isModifier : tokens.filter isModifier = tokens.filter (IsModifier ·) := by
  apply List.filter_congr
  intro token _
  rw [Bool.eq_iff_iff, isModifier_iff, decide_eq_true_iff]

theorem filter_not_isModifier :
    (tokens.filter fun token => !isModifier token) = tokens.filter (¬ IsModifier ·) := by
  apply List.filter_congr
  intro token _
  rw [Bool.eq_iff_iff, Bool.not_eq_true', Bool.eq_false_iff, ne_eq, isModifier_iff,
    decide_eq_true_iff]

/-- The mode in front is one that the first token is taken for, and nothing else goes. -/
theorem splitMode_eq (tokens : List String) :
    splitMode tokens =
      (tokens.head?.bind Mode.ofToken?,
        if (tokens.head?.bind Mode.ofToken?).isSome then tokens.tail else tokens) := by
  cases tokens with
  | nil => rfl
  | cons first rest =>
    rw [List.head?_cons, Option.bind_some, List.tail_cons]
    cases named : Mode.ofToken? first with
    | none => simp only [splitMode, named]; rfl
    | some mode => simp only [splitMode, named]; rfl

theorem mode_ofTokensWithMods :
    (ofTokensWithMods tokens).mode = tokens.head?.bind Mode.ofToken? :=
  congrArg Prod.fst (splitMode_eq tokens)

theorem full_ofTokensWithMods : (ofTokensWithMods tokens).full = (splitMode tokens).2 := rfl

theorem sorted_taken (tokens : List String) :
    Sorted Mode.Taken tokens (ofTokensWithMods tokens) where
  mode mode := by
    rw [mode_ofTokensWithMods, Option.bind_eq_some_iff]
    simp only [Mode.ofToken?_eq_some_iff, Option.mem_def]
  full := by
    rw [mode_ofTokensWithMods, full_ofTokensWithMods, splitMode_eq]
  modifiers := filter_isModifier
  nickname := filter_not_isModifier

theorem Sorted.congr {names others : Mode → String → Prop} {arguments : Arguments}
    (sorted : Sorted names tokens arguments)
    (same : ∀ first ∈ tokens.head?, ∀ mode, names mode first ↔ others mode first) :
    Sorted others tokens arguments := by
  refine ⟨fun mode => ?_, sorted.full, sorted.modifiers, sorted.nickname⟩
  rw [sorted.mode]
  constructor
  · rintro ⟨first, front, named⟩
    exact ⟨first, front, (same first front mode).1 named⟩
  · rintro ⟨first, front, named⟩
    exact ⟨first, front, (same first front mode).2 named⟩

/-- The tokens are sorted by the modes listed exactly if none in another form is taken for one. -/
theorem sorted_listed_iff (tokens : List String) :
    Sorted Mode.Listed tokens (ofTokensWithMods tokens) ↔
      ∀ first ∈ tokens.head?, (ofTokensWithMods tokens).mode.isSome → Mode.Plain first := by
  have taken := sorted_taken tokens
  constructor
  · intro sorted first front moded
    obtain ⟨mode, set⟩ := Option.isSome_iff_exists.1 moded
    obtain ⟨other, alsoFront, listed⟩ := (sorted.mode mode).1 set
    cases Option.mem_unique front alsoFront
    exact (Mode.listed_iff.1 listed).2
  · intro plain
    apply taken.congr
    intro first front mode
    rw [Mode.listed_iff]
    constructor
    · intro named
      have set := (taken.mode mode).2 ⟨first, front, named⟩
      exact ⟨named, plain first front (by rw [set]; rfl)⟩
    · exact And.left

/-- A token with a plus sign in front that is taken for a mode stands for modifiers as well. -/
theorem isModifier_of_taken {mode : Mode} (taken : Mode.Taken mode token)
    (signed : token.toList.head? = some '+') : IsModifier token := by
  refine ⟨signed, ?_⟩
  rw [← String.length_toList]
  obtain ⟨rest, letters⟩ := List.head?_eq_some_iff.1 signed
  cases rest with
  | cons c more => simp [letters]
  | nil =>
    have alone : token = "+" := String.toList_inj.1 letters
    subst alone
    have found := Mode.ofToken?_eq_some_iff.2 taken
    cases found

/-- All modifiers are set apart unless one is taken for a mode. -/
theorem modifiers_eq_iff (tokens : List String) :
    (ofTokensWithMods tokens).modifiers = tokens.filter (IsModifier ·) ↔
      ∀ first ∈ tokens.head?, (ofTokensWithMods tokens).mode.isSome →
        first.toList.head? ≠ some '+' := by
  have taken := sorted_taken tokens
  rw [taken.modifiers, taken.full]
  cases set : (ofTokensWithMods tokens).mode with
  | none => simp
  | some mode =>
    obtain ⟨first, front, named⟩ := (taken.mode mode).1 set
    obtain ⟨rest, rfl⟩ := List.head?_eq_some_iff.1 front
    have kind : IsModifier first ↔ first.toList.head? = some '+' :=
      ⟨And.left, isModifier_of_taken named⟩
    simp only [Option.isSome_some, if_true, List.tail_cons, List.head?_cons, Option.mem_some_iff,
      forall_eq', true_imp_iff, ← kind, ne_eq]
    constructor
    · intro same modifier
      rw [List.filter_cons_of_pos (by simpa using modifier)] at same
      exact List.cons_ne_self _ _ same.symm
    · intro other
      rw [List.filter_cons_of_neg (by simpa using other)]

/-- The first token goes if it is taken for a mode, and those that are left are split into modifiers
and others. In this the tokens are sorted by the modes listed exactly if none in another form is taken
for one, and no modifier is lost exactly if none is taken for one. -/
theorem ofTokensWithMods_sorted (tokens : List String) :
    Sorted Mode.Taken tokens (ofTokensWithMods tokens) ∧
      (Sorted Mode.Listed tokens (ofTokensWithMods tokens) ↔
        ∀ first ∈ tokens.head?, (ofTokensWithMods tokens).mode.isSome → Mode.Plain first) ∧
      ((ofTokensWithMods tokens).modifiers = tokens.filter (IsModifier ·) ↔
        ∀ first ∈ tokens.head?, (ofTokensWithMods tokens).mode.isSome →
          first.toList.head? ≠ some '+') :=
  ⟨sorted_taken tokens, sorted_listed_iff tokens, modifiers_eq_iff tokens⟩

/-- A token that stands for modifiers is taken for a mode that it does not name, and is lost. -/
theorem ofTokensWithMods_signed :
    IsModifier "+1" ∧ ¬ Mode.Listed .taiko "+1" ∧
      ofTokensWithMods ["+1", "Alice"] = ⟨some .taiko, [], ["Alice"], ["Alice"]⟩ ∧
      ¬ Sorted Mode.Listed ["+1", "Alice"] (ofTokensWithMods ["+1", "Alice"]) := by
  have unlisted : ¬ Mode.Listed .taiko "+1" := by
    intro listed
    exact (Mode.listed_iff.1 listed).2.unsigned rfl
  refine ⟨by decide, unlisted, rfl, ?_⟩
  intro sorted
  obtain ⟨first, front, listed⟩ := (sorted.mode .taiko).1 rfl
  cases front
  exact unlisted listed

end RhythmBot.Arguments
