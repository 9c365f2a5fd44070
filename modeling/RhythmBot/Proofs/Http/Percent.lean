import RhythmBot.Http.Percent
/-!
Percent encoding read back. Main statements: encoding that keeps percent signs and digits leaves what
a text stands for as it is, and a text stands for itself exactly if nothing in it is escaped.
-/

namespace RhythmBot.Http

def bytesOf (cs : List Char) : List UInt8 := cs.flatMap String.utf8EncodeChar

@[simp] theorem bytesOf_cons (c : Char) (rest : List Char) :
    bytesOf (c :: rest) = String.utf8EncodeChar c ++ bytesOf rest := List.flatMap_cons

theorem one_le_length_utf8EncodeChar (c : Char) : 1 ≤ (String.utf8EncodeChar c).length := by
  rw [String.length_utf8EncodeChar]
  exact c.utf8Size_pos

theorem decodedText?_eq_some {cs : List Char} {text : String} :
    decodedText? cs = some text ↔ percentDecode cs = bytesOf text.toList := by
  have bytes : text.toByteArray = (bytesOf text.toList).toByteArray :=
    String.utf8Encode_toList.symm
  unfold decodedText? String.fromUTF8?
  constructor
  · intro decoded
    split at decoded
    · cases decoded
      have arrays := congrArg ByteArray.data bytes
      rw [List.data_toByteArray] at arrays
      exact List.toArray_inj arrays
    · cases decoded
  · intro same
    have array : ByteArray.mk (percentDecode cs).toArray = text.toByteArray := by
      rw [bytes, same]
      exact congrArg ByteArray.mk List.data_toByteArray.symm
    simp only [array, text.isValidUTF8, dif_pos]
    rfl

def startsHex : List Char → Bool
  | high :: low :: _ => (Json.hexValue? high).isSome && (Json.hexValue? low).isSome
  | _ => false

def hasEscape : List Char → Bool
  | [] => false
  | c :: rest => c == '%' && startsHex rest || hasEscape rest

theorem startsHex_cons_of_none {c : Char} (none : Json.hexValue? c = none) (rest : List Char) :
    startsHex (c :: rest) = false := by
  cases rest with
  | nil => rfl
  | cons next rest => rw [startsHex, none, Option.isSome_none, Bool.false_and]

theorem startsHex_eq_true {cs : List Char} (starts : startsHex cs = true) :
    ∃ high low rest h l, cs = high :: low :: rest ∧ Json.hexValue? high = some h ∧
      Json.hexValue? low = some l := by
  unfold startsHex at starts
  split at starts
  · rw [Bool.and_eq_true] at starts
    obtain ⟨h, highDigit⟩ := Option.isSome_iff_exists.1 starts.1
    obtain ⟨l, lowDigit⟩ := Option.isSome_iff_exists.1 starts.2
    exact ⟨_, _, _, h, l, rfl, highDigit, lowDigit⟩
  · cases starts

theorem percentDecode_escape {high low : Char} {h l : Nat}
    (highDigit : Json.hexValue? high = some h) (lowDigit : Json.hexValue? low = some l)
    (rest : List Char) :
    percentDecode ('%' :: high :: low :: rest) = UInt8.ofNat (16 * h + l) :: percentDecode rest := by
  rw [percentDecode]
  simp only [highDigit, lowDigit]

theorem percentDecode_cons {c : Char} {rest : List Char}
    (plain : (c == '%' && startsHex rest) = false) :
    percentDecode (c :: rest) = String.utf8EncodeChar c ++ percentDecode rest := by
  by_cases percent : c = '%'
  · subst percent
    have sign : String.utf8EncodeChar '%' = [37] := by decide
    rw [sign, List.singleton_append]
    match rest with
    | [] => rfl
    | [_] => rfl
    | high :: low :: rest =>
      rw [percentDecode]
      cases highDigit : Json.hexValue? high with
      | none => rfl
      | some h =>
        cases lowDigit : Json.hexValue? low with
        | none => rfl
        | some l => simp [startsHex, highDigit, lowDigit] at plain
  · rw [percentDecode.eq_3]
    intro high low more same
    exact absurd same percent

/-- Induction along what a text stands for: escaped bytes, and characters that stand for
themselves. -/
theorem escape_induction {motive : List Char → Prop} (nil : motive [])
    (escaped : ∀ high low h l rest, Json.hexValue? high = some h → Json.hexValue? low = some l →
      motive rest → motive ('%' :: high :: low :: rest))
    (plain : ∀ c rest, (c == '%' && startsHex rest) = false → motive rest → motive (c :: rest))
    (cs : List Char) : motive cs := by
  match cs with
  | [] => exact nil
  | c :: rest =>
    cases starts : c == '%' && startsHex rest with
    | false => exact plain c rest starts (escape_induction nil escaped plain rest)
    | true =>
      rw [Bool.and_eq_true, beq_iff_eq] at starts
      obtain ⟨high, low, more, h, l, rfl, highDigit, lowDigit⟩ := startsHex_eq_true starts.2
      rw [starts.1]
      exact escaped high low h l more highDigit lowDigit
        (escape_induction nil escaped plain more)
termination_by cs.length

theorem percentDecode_escapeByte (byte : UInt8) (rest : List Char) :
    percentDecode (escapeByte byte ++ rest) = byte :: percentDecode rest := by
  have small : byte.toNat < 256 := byte.toNat_lt
  have high := hexValue?_upperHex (byte.toNat / 16) (by omega)
  have low := hexValue?_upperHex (byte.toNat % 16) (by omega)
  have value : 16 * (byte.toNat / 16) + byte.toNat % 16 = byte.toNat := by omega
  have decoded := percentDecode_escape high low rest
  rw [value, UInt8.ofNat_toNat] at decoded
  exact decoded

theorem percentDecode_escapeBytes (bytes : List UInt8) (rest : List Char) :
    percentDecode (bytes.flatMap escapeByte ++ rest) = bytes ++ percentDecode rest := by
  induction bytes with
  | nil => rfl
  | cons byte bytes ih =>
    rw [List.flatMap_cons, List.append_assoc, percentDecode_escapeByte, ih, List.cons_append]

section Encode

variable {keeps : Char → Bool}

theorem percentChar_of_kept {c : Char} (kept : keeps c = true) : percentChar keeps c = [c] := by
  rw [percentChar, if_pos kept]

theorem percentChar_of_not_kept {c : Char} (lost : keeps c = false) :
    ∃ more, percentChar keeps c = '%' :: more := by
  rw [percentChar, if_neg (by rw [lost]; decide)]
  obtain ⟨byte, bytes, encoded⟩ := List.exists_cons_of_ne_nil (String.utf8EncodeChar_ne_nil (c := c))
  rw [encoded, List.flatMap_cons]
  exact ⟨_, rfl⟩

/-- An encoded character is made of itself if it is kept, else of percent signs and digits. -/
theorem mem_percentChar {c source : Char} (listed : c ∈ percentChar keeps source) :
    keeps c = true ∨ c = '%' ∨ ∃ n < 16, c = upperHex n := by
  unfold percentChar at listed
  split at listed
  · rename_i kept
    rw [List.mem_singleton.1 listed]
    exact .inl kept
  · obtain ⟨byte, _, escaped⟩ := List.mem_flatMap.1 listed
    have small : byte.toNat < 256 := byte.toNat_lt
    simp only [escapeByte, List.mem_cons, List.not_mem_nil, or_false] at escaped
    rcases escaped with percent | high | low
    · exact .inr (.inl percent)
    · exact .inr (.inr ⟨byte.toNat / 16, by omega, high⟩)
    · exact .inr (.inr ⟨byte.toNat % 16, by omega, low⟩)

theorem percentDecode_percentChar {c : Char} (other : keeps c = true → c ≠ '%')
    (rest : List Char) :
    percentDecode (percentChar keeps c ++ rest) = String.utf8EncodeChar c ++ percentDecode rest := by
  cases kept : keeps c with
  | true =>
    have noPercent : (c == '%') = false := beq_eq_false_iff_ne.2 (other kept)
    rw [percentChar_of_kept kept, List.singleton_append, percentDecode_cons]
    rw [noPercent, Bool.false_and]
  | false =>
    rw [percentChar, if_neg (by rw [kept]; decide), percentDecode_escapeBytes]

variable (digits : ∀ c, (Json.hexValue? c).isSome = true → keeps c = true)
include digits

theorem hexValue?_of_not_kept {c : Char} (lost : keeps c = false) : Json.hexValue? c = none := by
  cases digit : Json.hexValue? c with
  | none => rfl
  | some value =>
    have kept := digits c (by rw [digit]; rfl)
    rw [lost] at kept
    cases kept

/-- Encoding makes no digits and takes none away. -/
theorem startsHex_percentEncode (cs : List Char) :
    startsHex (percentEncode keeps cs) = startsHex cs := by
  have percent : Json.hexValue? '%' = none := by decide
  match cs with
  | [] => rfl
  | [c] =>
    unfold percentEncode
    rw [List.flatMap_cons, List.flatMap_nil, List.append_nil]
    cases kept : keeps c with
    | true => rw [percentChar_of_kept kept]
    | false =>
      obtain ⟨more, encoded⟩ := percentChar_of_not_kept kept
      rw [encoded, startsHex_cons_of_none percent]
      rfl
  | c :: next :: rest =>
    unfold percentEncode
    rw [List.flatMap_cons, List.flatMap_cons]
    cases kept : keeps c with
    | false =>
      obtain ⟨more, encoded⟩ := percentChar_of_not_kept kept
      rw [encoded, List.cons_append, startsHex_cons_of_none percent,
        startsHex_cons_of_none (hexValue?_of_not_kept digits kept)]
    | true =>
      rw [percentChar_of_kept kept, List.singleton_append]
      cases nextKept : keeps next with
      | true =>
        rw [percentChar_of_kept nextKept]
        rfl
      | false =>
        obtain ⟨more, encoded⟩ := percentChar_of_not_kept nextKept
        rw [encoded, List.cons_append, startsHex, startsHex, percent,
          hexValue?_of_not_kept digits nextKept]

/-- Encoding that keeps percent signs and digits leaves what a text stands for as it is. -/
theorem percentDecode_percentEncode (percent : keeps '%' = true) (cs : List Char) :
    percentDecode (percentEncode keeps cs) = percentDecode cs := by
  induction cs using escape_induction with
  | nil => rfl
  | escaped high low h l rest highDigit lowDigit ih =>
    have highKept := digits high (by rw [highDigit]; rfl)
    have lowKept := digits low (by rw [lowDigit]; rfl)
    have encoded : percentEncode keeps ('%' :: high :: low :: rest) =
        '%' :: high :: low :: percentEncode keeps rest := by
      unfold percentEncode
      rw [List.flatMap_cons, List.flatMap_cons, List.flatMap_cons, percentChar_of_kept percent,
        percentChar_of_kept highKept, percentChar_of_kept lowKept]
      rfl
    rw [encoded, percentDecode_escape highDigit lowDigit, percentDecode_escape highDigit lowDigit,
      ih]
  | plain c rest single ih =>
    have encoded : percentEncode keeps (c :: rest) =
        percentChar keeps c ++ percentEncode keeps rest := List.flatMap_cons
    rw [encoded, percentDecode_cons single, ← ih]
    cases kept : keeps c with
    | true =>
      rw [percentChar_of_kept kept, List.singleton_append, percentDecode_cons]
      rw [startsHex_percentEncode digits]
      exact single
    | false =>
      apply percentDecode_percentChar
      intro alsoKept
      rw [kept] at alsoKept
      cases alsoKept

end Encode

/-- A text without escaped bytes stands for itself. -/
theorem percentDecode_of_not_hasEscape {cs : List Char} (bare : hasEscape cs = false) :
    percentDecode cs = bytesOf cs := by
  induction cs with
  | nil => rfl
  | cons c rest ih =>
    rw [hasEscape, Bool.or_eq_false_iff] at bare
    rw [percentDecode_cons bare.1, ih bare.2, bytesOf_cons]

/-- A text with escaped bytes stands for a shorter one, and none for a longer one. -/
theorem length_percentDecode (cs : List Char) :
    (percentDecode cs).length ≤ (bytesOf cs).length ∧
      (hasEscape cs = true → (percentDecode cs).length < (bytesOf cs).length) := by
  induction cs using escape_induction with
  | nil => exact ⟨Nat.le_refl 0, fun escape => by cases escape⟩
  | escaped high low h l rest highDigit lowDigit ih =>
    have longer : (percentDecode ('%' :: high :: low :: rest)).length <
        (bytesOf ('%' :: high :: low :: rest)).length := by
      rw [percentDecode_escape highDigit lowDigit]
      simp only [bytesOf_cons, List.length_append, List.length_cons]
      have percent := one_le_length_utf8EncodeChar '%'
      have first := one_le_length_utf8EncodeChar high
      have second := one_le_length_utf8EncodeChar low
      have later := ih.1
      omega
    exact ⟨Nat.le_of_lt longer, fun _ => longer⟩
  | plain c rest single ih =>
    rw [percentDecode_cons single, bytesOf_cons, hasEscape, single, Bool.false_or,
      List.length_append, List.length_append]
    exact ⟨Nat.add_le_add_left ih.1 _, fun escape => Nat.add_lt_add_left (ih.2 escape) _⟩

theorem length_bytesOf_le {short long : List Char} (within : short.Sublist long) :
    (bytesOf short).length ≤ (bytesOf long).length := by
  induction within with
  | slnil => exact Nat.le_refl _
  | cons c _ ih =>
    rw [bytesOf_cons, List.length_append]
    omega
  | cons_cons c _ ih =>
    rw [bytesOf_cons, bytesOf_cons, List.length_append, List.length_append]
    omega

theorem eq_of_sublist_of_length {short long : List Char} (within : short.Sublist long)
    (full : (bytesOf long).length ≤ (bytesOf short).length) : short = long := by
  induction within with
  | slnil => rfl
  | cons c within _ =>
    have less := length_bytesOf_le within
    have more := one_le_length_utf8EncodeChar c
    rw [bytesOf_cons, List.length_append] at full
    omega
  | cons_cons c _ ih =>
    rw [bytesOf_cons, bytesOf_cons, List.length_append, List.length_append] at full
    rw [ih (by omega)]

/-- A part of a text stands for the text only if it is the whole text and nothing in it is
escaped. -/
theorem eq_of_percentDecode_eq {part cs : List Char} (within : part.Sublist cs)
    (stands : percentDecode part = bytesOf cs) : part = cs ∧ hasEscape cs = false := by
  have lengths := length_percentDecode part
  rw [stands] at lengths
  have same := eq_of_sublist_of_length within lengths.1
  subst same
  refine ⟨rfl, ?_⟩
  cases escape : hasEscape part with
  | false => rfl
  | true => exact absurd (lengths.2 escape) (Nat.lt_irrefl _)

end RhythmBot.Http
