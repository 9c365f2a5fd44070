import RhythmBot.Template
/-!
The pieces of a template. Along a template, each of its characters opens a placeholder of a known name
or goes into a literal; so no literal holds such a placeholder, and no two of them are neighbours.
-/

namespace RhythmBot.Template

variable {known : List Char → Bool}

theorem nameBefore?_append {name : List Char} (unclosed : '\x7d' ∉ name) (later : List Char) :
    nameBefore? (name ++ '\x7d' :: later) = some name := by
  induction name with
  | nil => simp [nameBefore?]
  | cons c name ih =>
    rw [List.mem_cons, not_or] at unclosed
    simp [nameBefore?, ih unclosed.2, Ne.symm unclosed.1]

theorem not_mem_of_nameBefore? {cs name : List Char} (found : nameBefore? cs = some name) :
    '\x7d' ∉ name := by
  induction cs generalizing name with
  | nil => simp [nameBefore?] at found
  | cons c rest ih =>
    unfold nameBefore? at found
    split at found
    · cases found
      exact List.not_mem_nil
    · rename_i other
      obtain ⟨shorter, within, rfl⟩ := Option.map_eq_some_iff.1 found
      rw [List.mem_cons, not_or]
      exact ⟨Ne.symm other, ih within⟩

def Opens (known : List Char → Bool) (cs : List Char) : Prop :=
  ∃ name later, known name = true ∧ '\x7d' ∉ name ∧ cs = '\x7b' :: name ++ '\x7d' :: later

theorem piecesFrom_drop (known : List Char → Bool) (skipped : Nat) (cs : List Char) :
    piecesFrom known skipped cs = pieces known (cs.drop skipped) := by
  induction cs generalizing skipped with
  | nil => simp [pieces, piecesFrom]
  | cons c rest ih =>
    cases skipped with
    | zero => rfl
    | succ skipped => exact ih skipped

theorem pieces_opened {name : List Char} (named : known name = true) (unclosed : '\x7d' ∉ name)
    (later : List Char) :
    pieces known ('\x7b' :: name ++ '\x7d' :: later) = .placeholder name :: pieces known later := by
  have found := nameBefore?_append unclosed later
  rw [pieces, List.cons_append, piecesFrom]
  simp only [if_true, found, named, piecesFrom_drop]
  rw [← List.drop_drop, List.drop_left]
  rfl

theorem pieces_kept {c : Char} {rest : List Char} (kept : ¬ Opens known (c :: rest)) :
    pieces known (c :: rest) = prependChar c (pieces known rest) := by
  rw [pieces, piecesFrom]
  split
  · rename_i opening
    split
    · rename_i name found
      rw [if_neg]
      · rfl
      · intro named
        apply kept
        refine ⟨name, rest.drop (name.length + 1), named, not_mem_of_nameBefore? found, ?_⟩
        rw [opening, List.cons_append, nameBefore?_eq_some found]
    · rfl
  · rfl

/-- Along a template: at its end, at a placeholder, and at a character that opens none. -/
theorem template_induction (known : List Char → Bool) {holds : List Char → Prop} (nil : holds [])
    (opened : ∀ name later, known name = true → '\x7d' ∉ name → holds later →
      holds ('\x7b' :: name ++ '\x7d' :: later))
    (kept : ∀ c rest, ¬ Opens known (c :: rest) → holds rest → holds (c :: rest))
    (cs : List Char) : holds cs := by
  match cs with
  | [] => exact nil
  | c :: rest =>
    by_cases opens : Opens known (c :: rest)
    · obtain ⟨name, later, named, unclosed, same⟩ := opens
      have shorter : later.length < (c :: rest).length := by
        rw [same, List.length_append, List.length_cons, List.length_cons]
        omega
      rw [same]
      exact opened name later named unclosed (template_induction known nil opened kept later)
    · exact kept c rest opens (template_induction known nil opened kept rest)
termination_by cs.length
decreasing_by
  · exact shorter
  · exact Nat.lt_succ_self rest.length

theorem placeholder_mem_prependChar {c : Char} {listed : List Piece} {name : List Char} :
    .placeholder name ∈ prependChar c listed ↔ .placeholder name ∈ listed := by
  unfold prependChar
  split <;> simp

theorem literal_mem_prependChar {c : Char} {listed : List Piece} {text : List Char}
    (found : .literal text ∈ prependChar c listed) :
    (∃ rest, text = c :: rest ∧ rest <+: listed.flatMap Piece.source ∧
        (rest = [] ∨ .literal rest ∈ listed)) ∨ .literal text ∈ listed := by
  unfold prependChar at found
  split at found
  · rename_i first later
    rw [List.mem_cons] at found
    rcases found with same | behind
    · cases same
      exact .inl ⟨first, rfl, List.prefix_append _ _, .inr List.mem_cons_self⟩
    · exact .inr (.tail _ behind)
  · rw [List.mem_cons] at found
    rcases found with same | behind
    · cases same
      exact .inl ⟨[], rfl, List.nil_prefix, .inl rfl⟩
    · exact .inr behind

theorem known_of_mem_pieces (template : List Char) {name : List Char}
    (listed : .placeholder name ∈ pieces known template) : known name = true := by
  induction template using template_induction known with
  | nil => cases listed
  | opened other later named unclosed ih =>
    rw [pieces_opened named unclosed, List.mem_cons] at listed
    rcases listed with same | behind
    · cases same
      exact named
    · exact ih behind
  | kept c rest kept ih =>
    rw [pieces_kept kept, placeholder_mem_prependChar] at listed
    exact ih listed

/-- No literal holds a placeholder of a known name. -/
theorem not_infix_of_mem_pieces (template : List Char) {text name : List Char}
    (listed : .literal text ∈ pieces known template) (named : known name = true)
    (unclosed : '\x7d' ∉ name) : ¬ '\x7b' :: name ++ ['\x7d'] <:+: text := by
  induction template using template_induction known generalizing text with
  | nil => cases listed
  | opened other later alsoNamed alsoUnclosed ih =>
    rw [pieces_opened alsoNamed alsoUnclosed, List.mem_cons] at listed
    exact ih (listed.resolve_left nofun)
  | kept c rest kept ih =>
    rw [pieces_kept kept] at listed
    rcases literal_mem_prependChar listed with ⟨shorter, rfl, front, other⟩ | behind
    · rw [source_pieces] at front
      rw [List.infix_cons_iff, not_or]
      constructor
      -- A placeholder at the front of the literal would be one at the front of the template.
      · intro inside
        obtain ⟨later, same⟩ := inside.trans (List.cons_prefix_cons.2 ⟨rfl, front⟩)
        apply kept
        refine ⟨name, later, named, unclosed, ?_⟩
        rw [← same, List.append_assoc, List.singleton_append]
      · rcases other with rfl | listed
        · simp
        · exact ih listed
    · exact ih behind

def Apart : List Piece → Prop
  | .literal _ :: .literal _ :: _ => False
  | _ :: later => Apart later
  | [] => True

theorem Apart.prependChar {listed : List Piece} (apart : Apart listed) (c : Char) :
    Apart (Template.prependChar c listed) := by
  unfold Template.prependChar
  split
  · rename_i text later
    cases later with
    | nil => exact trivial
    | cons next later => cases next <;> exact apart
  · rename_i other
    cases listed with
    | nil => exact trivial
    | cons next later =>
      cases next with
      | literal text => exact absurd rfl (other text later)
      | placeholder name => exact apart

theorem apart_pieces (template : List Char) : Apart (pieces known template) := by
  induction template using template_induction known with
  | nil => exact trivial
  | opened name later named unclosed ih =>
    rw [pieces_opened named unclosed]
    exact ih
  | kept c rest kept ih =>
    rw [pieces_kept kept]
    exact ih.prependChar c

end RhythmBot.Template
