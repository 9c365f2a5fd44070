/-!
Texts cut at byte offsets in UTF-8. A cut inside of a character has no result; where a text is put
together of two, there is one between them.
-/

namespace RhythmBot.Text

def byteLength : List Char → Nat
  | [] => 0
  | c :: rest => c.utf8Size + byteLength rest

/-- A text cut in two at a byte offset. There is no cut inside of a character or behind the end. -/
def cutAt? : Nat → List Char → Option (List Char × List Char)
  | 0, cs => some ([], cs)
  | _ + 1, [] => none
  | n + 1, c :: rest =>
    if c.utf8Size ≤ n + 1 then
      (cutAt? (n + 1 - c.utf8Size) rest).map fun cut => (c :: cut.1, cut.2)
    else none

def offsetOf? (c : Char) : List Char → Option Nat
  | [] => none
  | first :: rest =>
    if first = c then some 0 else (offsetOf? c rest).map (first.utf8Size + ·)

def between? (first last : Nat) (cs : List Char) : Option (List Char) := do
  let (front, _) ← cutAt? last cs
  let (_, inner) ← cutAt? first front
  return inner

@[simp] theorem byteLength_nil : byteLength [] = 0 := rfl

@[simp] theorem byteLength_cons (c : Char) (rest : List Char) :
    byteLength (c :: rest) = c.utf8Size + byteLength rest := rfl

@[simp] theorem byteLength_append (front back : List Char) :
    byteLength (front ++ back) = byteLength front + byteLength back := by
  induction front with
  | nil => simp
  | cons c front ih => simp [ih, Nat.add_assoc]

theorem cutAt?_append (front back : List Char) :
    cutAt? (byteLength front) (front ++ back) = some (front, back) := by
  induction front with
  | nil => rw [byteLength_nil, List.nil_append, cutAt?]
  | cons c front ih =>
    obtain ⟨n, bytes⟩ : ∃ n, byteLength (c :: front) = n + 1 := by
      refine ⟨byteLength (c :: front) - 1, ?_⟩
      have positive := c.utf8Size_pos
      rw [byteLength_cons]
      omega
    have within : n + 1 - c.utf8Size = byteLength front ∧ c.utf8Size ≤ n + 1 := by
      rw [byteLength_cons] at bytes
      omega
    rw [bytes, List.cons_append, cutAt?, if_pos within.2, within.1, ih, Option.map_some]

theorem cutAt?_eq_some {n : Nat} {cs front back : List Char}
    (cut : cutAt? n cs = some (front, back)) : cs = front ++ back ∧ n = byteLength front := by
  induction cs generalizing n front with
  | nil =>
    cases n with
    | zero =>
      rw [cutAt?] at cut
      cases cut
      exact ⟨rfl, rfl⟩
    | succ n => cases cut
  | cons c rest ih =>
    cases n with
    | zero =>
      rw [cutAt?] at cut
      cases cut
      exact ⟨rfl, rfl⟩
    | succ n =>
      rw [cutAt?] at cut
      split at cut
      · obtain ⟨⟨shorter, last⟩, behind, same⟩ := Option.map_eq_some_iff.1 cut
        cases same
        obtain ⟨rfl, bytes⟩ := ih behind
        refine ⟨rfl, ?_⟩
        change n + 1 = byteLength (c :: shorter)
        rw [byteLength_cons]
        omega
      · cases cut

theorem offsetOf?_append {c : Char} {front : List Char} (first : c ∉ front) (back : List Char) :
    offsetOf? c (front ++ c :: back) = some (byteLength front) := by
  induction front with
  | nil => simp [offsetOf?]
  | cons other front ih =>
    rw [List.mem_cons, not_or] at first
    rw [List.cons_append, offsetOf?, if_neg (Ne.symm first.1), ih first.2, byteLength_cons]
    rfl

theorem offsetOf?_of_not_mem {c : Char} {cs : List Char} (missing : c ∉ cs) :
    offsetOf? c cs = none := by
  induction cs with
  | nil => rfl
  | cons other rest ih =>
    rw [List.mem_cons, not_or] at missing
    rw [offsetOf?, if_neg (Ne.symm missing.1), ih missing.2]
    rfl

theorem between?_append (front inner back : List Char) :
    between? (byteLength front) (byteLength (front ++ inner)) (front ++ inner ++ back) =
      some inner := by
  unfold between?
  rw [cutAt?_append]
  change (cutAt? (byteLength front) (front ++ inner)).bind _ = _
  rw [cutAt?_append]
  rfl

theorem length_of_cutAt? {n : Nat} {cs front back : List Char}
    (cut : cutAt? (n + 1) cs = some (front, back)) : back.length < cs.length := by
  obtain ⟨rfl, bytes⟩ := cutAt?_eq_some cut
  cases front with
  | nil => cases bytes
  | cons c front =>
    rw [List.length_append, List.length_cons]
    omega

end RhythmBot.Text
