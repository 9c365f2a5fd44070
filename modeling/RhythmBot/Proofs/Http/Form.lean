import RhythmBot.Http.Form
import RhythmBot.Proofs.Http.Percent
/-!
Form encoding read back. Main statement: whatever the names and values are, the parameters read from
the text are the ones written.
-/

namespace RhythmBot.Http.Form

/-- The characters of a name or a value that is written: none of them separates anything. -/
theorem of_mem_encodeText {text : String} {c : Char} (written : c ∈ encodeText text) :
    isPlain c = true ∨ c = '+' ∨ c = '%' := by
  have digits : ∀ n < 16, isPlain (upperHex n) = true := by decide
  unfold encodeText at written
  obtain ⟨source, _, listed⟩ := List.mem_flatMap.1 written
  unfold encodeChar at listed
  split at listed
  · exact .inr (.inl (List.mem_singleton.1 listed))
  · rcases mem_percentChar listed with kept | percent | ⟨n, digit, rfl⟩
    · exact .inl kept
    · exact .inr (.inr percent)
    · exact .inl (digits n digit)

theorem not_mem_encodeText {mark : Char} (text : String)
    (separates : isPlain mark = false ∧ mark ≠ '+' ∧ mark ≠ '%') : mark ∉ encodeText text := by
  intro written
  rcases of_mem_encodeText written with plain | plus | percent
  · rw [separates.1] at plain
    cases plain
  · exact separates.2.1 plus
  · exact separates.2.2 percent

theorem map_encodeChar (c : Char) :
    (encodeChar c).map (fun c => if c = '+' then ' ' else c) =
      if c = ' ' then [' '] else percentChar isPlain c := by
  have digits : ∀ n < 16, upperHex n ≠ '+' := by decide
  unfold encodeChar
  split
  · rfl
  · rw [List.map_congr_left, List.map_id]
    intro written listed
    rw [id_eq, if_neg]
    intro plus
    subst plus
    rcases mem_percentChar listed with kept | percent | ⟨n, digit, same⟩
    · revert kept
      decide
    · revert percent
      decide
    · exact digits n digit same.symm

theorem decodeText?_encodeText (text : String) : decodeText? (encodeText text) = some text := by
  unfold decodeText?
  rw [decodedText?_eq_some]
  unfold encodeText
  generalize text.toList = cs
  induction cs with
  | nil => rfl
  | cons c rest ih =>
    rw [List.flatMap_cons, List.map_append, map_encodeChar, bytesOf_cons, ← ih]
    split
    · rename_i space
      rw [space]
      apply percentDecode_cons
      rfl
    · apply percentDecode_percentChar
      rintro kept rfl
      revert kept
      decide

theorem decodePair?_encodePair (pair : String × String) :
    decodePair? (encodePair pair) = some pair := by
  obtain ⟨name, value⟩ := pair
  have before : ∀ c ∈ encodeText name, (c != '=') = true := by
    intro c written
    have other : '=' ∉ encodeText name := not_mem_encodeText name (by decide)
    exact bne_iff_ne.2 fun same => other (same ▸ written)
  have front : (encodePair (name, value)).takeWhile (· != '=') = encodeText name := by
    unfold encodePair
    rw [List.takeWhile_append_of_pos before, List.takeWhile_cons_of_neg (by decide), List.append_nil]
  have back : (encodePair (name, value)).dropWhile (· != '=') = '=' :: encodeText value := by
    unfold encodePair
    rw [List.dropWhile_append_of_pos before, List.dropWhile_cons_of_neg (by decide)]
  unfold decodePair?
  rw [front, back, List.drop_one, List.tail_cons, decodeText?_encodeText, decodeText?_encodeText]
  rfl

theorem splitAt_of_not_mem {mark : Char} {cs : List Char} (unmarked : mark ∉ cs) :
    splitAt mark cs = [cs] := by
  induction cs with
  | nil => rfl
  | cons c rest ih =>
    rw [List.mem_cons, not_or] at unmarked
    rw [splitAt, if_neg (Ne.symm unmarked.1), ih unmarked.2]

theorem splitAt_append {mark : Char} {piece : List Char} (unmarked : mark ∉ piece)
    (rest : List Char) : splitAt mark (piece ++ mark :: rest) = piece :: splitAt mark rest := by
  induction piece with
  | nil => rw [List.nil_append, splitAt, if_pos rfl]
  | cons c piece ih =>
    rw [List.mem_cons, not_or] at unmarked
    rw [List.cons_append, splitAt, if_neg (Ne.symm unmarked.1), ih unmarked.2]

theorem splitAt_encode {pairs : FormData} (some_pair : pairs ≠ []) :
    splitAt '&' (encode pairs) = pairs.map encodePair := by
  have unmarked : ∀ pair, '&' ∉ encodePair pair := by
    intro pair
    unfold encodePair
    rw [List.mem_append, List.mem_cons, not_or, not_or]
    have marks : isPlain '&' = false ∧ '&' ≠ '+' ∧ '&' ≠ '%' := by decide
    exact ⟨not_mem_encodeText _ marks, by decide, not_mem_encodeText _ marks⟩
  induction pairs with
  | nil => exact absurd rfl some_pair
  | cons pair later ih =>
    cases later with
    | nil =>
      have alone : encode [pair] = encodePair pair := by simp [encode, List.intercalate]
      rw [alone, splitAt_of_not_mem (unmarked pair)]
      rfl
    | cons next later =>
      have joined : encode (pair :: next :: later) =
          encodePair pair ++ '&' :: encode (next :: later) := by
        simp [encode, List.intercalate]
      rw [joined, splitAt_append (unmarked pair), ih (List.cons_ne_nil next later)]
      rfl

/-- The parameters that are read are those written. -/
theorem decode?_encode (pairs : FormData) : decode? (encode pairs) = some pairs := by
  cases pairs with
  | nil => rfl
  | cons pair later =>
    unfold decode?
    rw [splitAt_encode (List.cons_ne_nil pair later), List.filter_eq_self.2]
    · generalize pair :: later = pairs
      induction pairs with
      | nil => rfl
      | cons pair later ih =>
        rw [List.map_cons, List.mapM_cons, decodePair?_encodePair, ih]
        rfl
    · intro piece listed
      obtain ⟨pair, _, rfl⟩ := List.mem_map.1 listed
      unfold encodePair
      simp

end RhythmBot.Http.Form
