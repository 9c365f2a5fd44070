import RhythmBot.Proofs.Json.Literal
/-!
Documents read back from their compact text. Main statement: a document whose strings have a text and
whose literals are well-formed is what its text reads as.
-/

namespace RhythmBot.Json

open RhythmBot.Text

/-- The piece that a character of a string is read back as: a control without an escape letter comes
back by its number. -/
def pieceOf (c : Char) : Piece :=
  if c.toNat < 32 ∧ c.toNat ∉ [8, 9, 10, 12, 13] then .unit c.toNat else .char c

theorem hexValue?_hexDigit {n : Nat} (small : n < 16) : hexValue? (hexDigit n) = some n := by
  have all : ∀ m ∈ List.range 16, hexValue? (hexDigit m) = some m := by decide
  exact all n (List.mem_range.2 small)

theorem eq_ofNat_of_toNat {c : Char} {n : Nat} (same : c.toNat = n) : c = Char.ofNat n := by
  rw [← same, Char.ofNat_toNat]

theorem pieces_unit {code : Nat} (small : code < 256) (rest : List Char) :
    pieces ('\\' :: 'u' :: '0' :: '0' :: hexDigit (code / 16) :: hexDigit (code % 16) :: rest) =
      (pieces rest).bind fun found => some (.unit code :: found.1, found.2) := by
  have high := hexValue?_hexDigit (by omega : code / 16 < 16)
  have low := hexValue?_hexDigit (Nat.mod_lt code (by decide : 0 < 16))
  have zero : hexValue? '0' = some 0 := by decide
  have value : 4096 * 0 + 256 * 0 + 16 * (code / 16) + code % 16 = code := by omega
  simp only [pieces, high, low, zero, Option.bind_eq_bind, Option.bind_some, value]

theorem pieceOf_control {c : Char} (control : c.toNat < 32) (notBackspace : c.toNat ≠ 8)
    (notFormFeed : c.toNat ≠ 12) (notTab : c ≠ '\t') (notNewline : c ≠ '\n')
    (notReturn : c ≠ '\r') : pieceOf c = .unit c.toNat := by
  have bare : c.toNat ∉ [8, 9, 10, 12, 13] := by
    intro member
    simp only [List.mem_cons, List.not_mem_nil, or_false] at member
    rcases member with same | same | same | same | same
    · exact notBackspace same
    · exact notTab (eq_ofNat_of_toNat same)
    · exact notNewline (eq_ofNat_of_toNat same)
    · exact notFormFeed same
    · exact notReturn (eq_ofNat_of_toNat same)
  rw [pieceOf, if_pos ⟨control, bare⟩]

/-- A character of a string is read back from the way it is written. -/
theorem pieces_escapeChar (c : Char) (rest : List Char) :
    pieces (escapeChar c ++ rest) =
      (pieces rest).bind fun found => some (pieceOf c :: found.1, found.2) := by
  unfold escapeChar
  split
  · rfl
  · rfl
  · rfl
  · rfl
  · rfl
  · rename_i notQuote notBackslash notNewline notReturn notTab
    split
    · rename_i backspace
      rw [eq_ofNat_of_toNat backspace]
      rfl
    · split
      · rename_i formFeed
        rw [eq_ofNat_of_toNat formFeed]
        rfl
      · split
        · rename_i notBackspace notFormFeed control
          rw [pieceOf_control control notBackspace notFormFeed notTab notNewline notReturn]
          exact pieces_unit (by omega) rest
        -- Any other character is written and read as it stands.
        · rename_i printable
          have char : pieceOf c = .char c := by
            rw [pieceOf, if_neg fun control => printable control.1]
          rw [List.cons_append, List.nil_append,
            pieces.eq_5 c rest notQuote (fun _ _ _ _ _ backslash _ => notBackslash backslash)
              (fun _ _ backslash _ => notBackslash backslash),
            if_neg printable, char]
          rfl

theorem pieces_quoted (cs rest : List Char) :
    pieces (cs.flatMap escapeChar ++ '"' :: rest) = some (cs.map pieceOf, rest) := by
  induction cs with
  | nil => rfl
  | cons c cs ih =>
    rw [List.flatMap_cons, List.append_assoc, pieces_escapeChar, ih]
    rfl

theorem assemble?_unit {code : Nat} (small : code < 32) (rest : List Piece) :
    assemble? (.unit code :: rest) = (assemble? rest).map (Char.ofNat code :: ·) := by
  have notHigh : isHighHalf code = false := by
    simp only [isHighHalf, Bool.and_eq_false_iff, decide_eq_false_iff_not]
    omega
  have notLow : isLowHalf code = false := by
    simp only [isLowHalf, Bool.and_eq_false_iff, decide_eq_false_iff_not]
    omega
  cases rest with
  | nil => simp [assemble?, notHigh, notLow]
  | cons piece rest => cases piece <;> simp [assemble?, notHigh, notLow]

theorem assemble?_pieceOf (cs : List Char) : assemble? (cs.map pieceOf) = some cs := by
  induction cs with
  | nil => rfl
  | cons c cs ih =>
    rw [List.map_cons]
    by_cases control : c.toNat < 32 ∧ c.toNat ∉ [8, 9, 10, 12, 13]
    · rw [pieceOf, if_pos control, assemble?_unit control.1, ih, Char.ofNat_toNat]
      rfl
    · rw [pieceOf, if_neg control, assemble?, ih]
      rfl

/-- A string is read back behind its opening quote. -/
theorem stringText_quote (text : String) (rest : List Char) :
    stringText (text.toList.flatMap escapeChar ++ '"' :: rest) = some (some text, rest) := by
  unfold stringText
  rw [pieces_quoted]
  simp only [Option.bind_eq_bind, Option.bind_some, assemble?_pieceOf, Option.map_some,
    String.ofList_toList]

/-- A document that its text gives back: every string and every key has a text, and every literal is
well-formed. -/
inductive Plain : Json → Prop
  | null : Plain .null
  | bool (value : Bool) : Plain (.bool value)
  | number {literal : Literal} : literal.WellFormed → Plain (.number literal)
  | string (text : String) : Plain (.string (some text))
  | array {items : List Json} : (∀ item ∈ items, Plain item) → Plain (.array items)
  | object {members : List (Option String × Json)} :
      (∀ member ∈ members, member.1.isSome = true) → (∀ member ∈ members, Plain member.2) →
      Plain (.object members)

/-- A document is read back in front of any text that no number goes on in. Each level of its
nesting takes two steps of fuel, and its text is at least as long as it is deep. -/
def ReadsBack (json : Json) : Prop :=
  ∀ fuel rest, 2 * json.chars.length ≤ fuel → Stops rest →
    value? fuel (json.chars ++ rest) = some (json, rest)

theorem value?_digit {digit : Nat} (small : digit < 10) (fuel : Nat) (rest : List Char) :
    value? (fuel + 1) (Char.ofNat (digit + 48) :: rest) =
      (numberText? false (Char.ofNat (digit + 48) :: rest)).bind fun found =>
        some (.number found.1, found.2) := by
  have each : digit = 0 ∨ digit = 1 ∨ digit = 2 ∨ digit = 3 ∨ digit = 4 ∨ digit = 5 ∨ digit = 6 ∨
      digit = 7 ∨ digit = 8 ∨ digit = 9 := by omega
  rcases each with rfl | rfl | rfl | rfl | rfl | rfl | rfl | rfl | rfl | rfl <;> rfl

theorem Literal.WellFormed.front {literal : Literal} (formed : literal.WellFormed) :
    ∃ c more, literal.chars = c :: more ∧ (c = '-' ∨ ∃ digit < 10, c = Char.ofNat (digit + 48)) := by
  rw [Literal.chars_eq]
  obtain ⟨nonempty, small⟩ := formed.whole
  cases literal.negative with
  | true => exact ⟨'-', _, rfl, .inl rfl⟩
  | false =>
    cases digits : literal.whole with
    | nil => exact absurd digits nonempty
    | cons digit more =>
      exact ⟨Char.ofNat (digit + 48), _, rfl,
        .inr ⟨digit, small digit (digits ▸ List.mem_cons_self), rfl⟩⟩

theorem readsBack_number {literal : Literal} (formed : literal.WellFormed) :
    ReadsBack (.number literal) := by
  intro fuel rest enough stops
  have read := numberText?_chars formed stops
  obtain ⟨front, more, written, _⟩ := formed.front
  have positive : 0 < (Json.number literal).chars.length := by
    rw [chars, written]
    exact Nat.succ_pos more.length
  cases fuel with
  | zero => omega
  | succ fuel =>
    rw [chars, Literal.chars_eq]
    simp only [List.append_assoc]
    cases sign : literal.negative with
    | true =>
      rw [sign] at read
      simp only [if_true, List.cons_append, List.nil_append, value?, skipSpace,
        List.dropWhile_cons_of_neg (by decide : ¬isSpace '-' = true), read, Option.bind_eq_bind,
        Option.bind_some]
    | false =>
      rw [sign] at read
      obtain ⟨nonempty, small⟩ := formed.whole
      cases digits : literal.whole with
      | nil => exact absurd digits nonempty
      | cons digit later =>
        rw [digits] at read
        simp only [Bool.false_eq_true, if_false, List.nil_append, digitChars, List.map_cons,
          List.cons_append] at read ⊢
        rw [value?_digit (small digit (digits ▸ List.mem_cons_self)), read]
        rfl

theorem Plain.front {json : Json} (plain : Plain json) :
    ∃ c more, json.chars = c :: more ∧ isSpace c = false ∧ c ≠ ']' := by
  cases plain with
  | null => exact ⟨'n', _, rfl, by decide, by decide⟩
  | bool value =>
    cases value with
    | true => exact ⟨'t', _, rfl, by decide, by decide⟩
    | false => exact ⟨'f', _, rfl, by decide, by decide⟩
  | number formed =>
    obtain ⟨c, more, written, rfl | ⟨digit, small, rfl⟩⟩ := formed.front
    · exact ⟨'-', more, written, by decide, by decide⟩
    · have all : ∀ n ∈ List.range 10,
          isSpace (Char.ofNat (n + 48)) = false ∧ Char.ofNat (n + 48) ≠ ']' := by decide
      exact ⟨_, more, written, all digit (List.mem_range.2 small)⟩
  | string text => exact ⟨'"', _, rfl, by decide, by decide⟩
  | array _ => exact ⟨'[', _, rfl, by decide, by decide⟩
  | object _ _ => exact ⟨'\x7b', _, rfl, by decide, by decide⟩

theorem skipSpace_cons {c : Char} (solid : isSpace c = false) (rest : List Char) :
    skipSpace (c :: rest) = c :: rest := by
  unfold skipSpace
  rw [List.dropWhile_cons_of_neg (by simp [solid])]

theorem commaJoin_cons {piece : List Char} {pieces : List (List Char)} (more : pieces ≠ []) :
    commaJoin (piece :: pieces) = piece ++ ',' :: commaJoin pieces := by
  cases pieces with
  | nil => exact absurd rfl more
  | cons next later => rfl

theorem items?_read {items : List Json} (nonempty : items ≠ [])
    (each : ∀ item ∈ items, ReadsBack item) (fuel : Nat) (rest : List Char)
    (enough : 2 * (commaJoin (itemsChars items)).length + 1 ≤ fuel) :
    items? fuel (commaJoin (itemsChars items) ++ ']' :: rest) = some (items, rest) := by
  -- Each item takes one step of fuel, which its comma or the closing bracket pays for.
  induction items generalizing fuel with
  | nil => exact absurd rfl nonempty
  | cons item later ih =>
    have itemRead := each item List.mem_cons_self
    cases fuel with
    | zero => omega
    | succ fuel =>
      cases later with
      | nil =>
        simp only [itemsChars, commaJoin] at enough ⊢
        have read := itemRead fuel (']' :: rest) (by omega)
          (by intro c front; cases front; exact .inr (.inl rfl))
        simp only [items?, read, Option.bind_eq_bind, Option.bind_some,
          skipSpace_cons (by decide : isSpace ']' = false)]
      | cons next others =>
        have moreChars : itemsChars (next :: others) ≠ [] := by simp [itemsChars]
        rw [itemsChars, commaJoin_cons moreChars] at enough ⊢
        simp only [List.length_append, List.length_cons] at enough
        have read := itemRead fuel (',' :: (commaJoin (itemsChars (next :: others)) ++ ']' :: rest))
          (by omega) (by intro c front; cases front; exact .inl rfl)
        have laterRead := ih (List.cons_ne_nil next others)
          (fun other member => each other (List.mem_cons_of_mem item member)) fuel (by omega)
        rw [List.append_assoc, List.cons_append]
        simp only [items?, read, Option.bind_eq_bind, Option.bind_some,
          skipSpace_cons (by decide : isSpace ',' = false), laterRead]

theorem value?_array {c : Char} (solid : isSpace c = false) (other : c ≠ ']') (fuel : Nat)
    (more : List Char) :
    value? (fuel + 1) ('[' :: c :: more) =
      (items? fuel (c :: more)).bind fun found => some (.array found.1, found.2) := by
  simp only [value?, skipSpace_cons (by decide : isSpace '[' = false), skipSpace_cons solid]
  split
  · rename_i closing
    cases closing
    exact absurd rfl other
  · rfl

theorem readsBack_array {items : List Json} (plain : ∀ item ∈ items, Plain item)
    (each : ∀ item ∈ items, ReadsBack item) : ReadsBack (.array items) := by
  intro fuel rest enough stops
  have text : (Json.array items).chars ++ rest =
      '[' :: (commaJoin (itemsChars items) ++ ']' :: rest) := by
    simp [chars]
  have size : (Json.array items).chars.length = (commaJoin (itemsChars items)).length + 2 := by
    simp [chars]
  rw [text]
  cases fuel with
  | zero => omega
  | succ fuel =>
    cases items with
    | nil => rfl
    | cons item later =>
      have read := items?_read (List.cons_ne_nil item later) each fuel rest (by omega)
      obtain ⟨c, more, written, solid, other⟩ := (plain item List.mem_cons_self).front
      have front : ∃ others, commaJoin (itemsChars (item :: later)) ++ ']' :: rest =
          c :: others := by
        cases later <;> simp [itemsChars, commaJoin, written]
      obtain ⟨others, front⟩ := front
      rw [front] at read ⊢
      rw [value?_array solid other, read]
      rfl

theorem members?_read {members : List (Option String × Json)} (nonempty : members ≠ [])
    (named : ∀ member ∈ members, member.1.isSome = true)
    (each : ∀ member ∈ members, ReadsBack member.2) (fuel : Nat) (rest : List Char)
    (enough : 2 * (commaJoin (membersChars members)).length + 1 ≤ fuel) :
    members? fuel (commaJoin (membersChars members) ++ '\x7d' :: rest) = some (members, rest) := by
  induction members generalizing fuel with
  | nil => exact absurd rfl nonempty
  | cons member later ih =>
    obtain ⟨name, value⟩ := member
    have valueRead : ReadsBack value := each (name, value) List.mem_cons_self
    obtain ⟨key, rfl⟩ := Option.isSome_iff_exists.1 (named (name, value) List.mem_cons_self)
    have size : (quote key).length = (key.toList.flatMap escapeChar).length + 2 := by
      simp [quote]
    cases fuel with
    | zero => omega
    | succ fuel =>
      cases later with
      | nil =>
        have text : commaJoin (membersChars [(some key, value)]) ++ '\x7d' :: rest =
            '"' :: (key.toList.flatMap escapeChar ++
              '"' :: ':' :: (value.chars ++ '\x7d' :: rest)) := by
          simp [membersChars, commaJoin, quote]
        simp only [membersChars, commaJoin, List.length_append, List.length_cons,
          Option.getD_some] at enough
        have read := valueRead fuel ('\x7d' :: rest) (by omega)
          (by intro c front; cases front; exact .inr (.inr rfl))
        rw [text]
        simp only [members?, skipSpace_cons (by decide : isSpace '"' = false), stringText_quote,
          Option.bind_eq_bind, Option.bind_some, skipSpace_cons (by decide : isSpace ':' = false),
          read, skipSpace_cons (by decide : isSpace '\x7d' = false)]
      | cons next others =>
        have moreChars : membersChars (next :: others) ≠ [] := by simp [membersChars]
        rw [membersChars, commaJoin_cons moreChars] at enough ⊢
        simp only [List.length_append, List.length_cons, Option.getD_some] at enough
        have text : quote key ++ ':' :: value.chars ++
            ',' :: commaJoin (membersChars (next :: others)) ++ '\x7d' :: rest =
            '"' :: (key.toList.flatMap escapeChar ++ '"' :: ':' :: (value.chars ++
              ',' :: (commaJoin (membersChars (next :: others)) ++ '\x7d' :: rest))) := by
          simp [quote]
        have read := valueRead fuel
          (',' :: (commaJoin (membersChars (next :: others)) ++ '\x7d' :: rest)) (by omega)
          (by intro c front; cases front; exact .inl rfl)
        have laterRead := ih (List.cons_ne_nil next others)
          (fun other member => named other (List.mem_cons_of_mem _ member))
          (fun other member => each other (List.mem_cons_of_mem _ member)) fuel (by omega)
        rw [Option.getD_some, text]
        simp only [members?, skipSpace_cons (by decide : isSpace '"' = false), stringText_quote,
          Option.bind_eq_bind, Option.bind_some, skipSpace_cons (by decide : isSpace ':' = false),
          read, skipSpace_cons (by decide : isSpace ',' = false), laterRead]

theorem value?_object (fuel : Nat) (more : List Char) :
    value? (fuel + 1) ('\x7b' :: '"' :: more) =
      (members? fuel ('"' :: more)).bind fun found => some (.object found.1, found.2) := rfl

theorem readsBack_object {members : List (Option String × Json)}
    (named : ∀ member ∈ members, member.1.isSome = true)
    (each : ∀ member ∈ members, ReadsBack member.2) : ReadsBack (.object members) := by
  intro fuel rest enough stops
  have text : (Json.object members).chars ++ rest =
      '\x7b' :: (commaJoin (membersChars members) ++ '\x7d' :: rest) := by
    simp [chars]
  have size : (Json.object members).chars.length =
      (commaJoin (membersChars members)).length + 2 := by
    simp [chars]
  rw [text]
  cases fuel with
  | zero => omega
  | succ fuel =>
    cases members with
    | nil => rfl
    | cons member later =>
      have read := members?_read (List.cons_ne_nil member later) named each fuel rest (by omega)
      have front : ∃ others, commaJoin (membersChars (member :: later)) ++ '\x7d' :: rest =
          '"' :: others := by
        cases later <;> simp [membersChars, commaJoin, quote]
      obtain ⟨others, front⟩ := front
      rw [front] at read ⊢
      rw [value?_object, read]
      rfl

theorem readsBack {json : Json} (plain : Plain json) : ReadsBack json := by
  induction plain with
  | null =>
    intro fuel rest enough stops
    cases fuel with
    | zero => cases enough
    | succ fuel => rfl
  | bool value =>
    intro fuel rest enough stops
    cases fuel with
    | zero => cases value <;> cases enough
    | succ fuel => cases value <;> rfl
  | number formed => exact readsBack_number formed
  | string text =>
    intro fuel rest enough stops
    cases fuel with
    | zero => simp [chars, quote] at enough
    | succ fuel =>
      have written : (Json.string (some text)).chars ++ rest =
          '"' :: (text.toList.flatMap escapeChar ++ '"' :: rest) := by
        simp [chars, quote]
      rw [written]
      simp only [value?, skipSpace_cons (by decide : isSpace '"' = false), stringText_quote,
        Option.bind_eq_bind, Option.bind_some]
  | array plain each => exact readsBack_array plain each
  | object named _ each => exact readsBack_object named each

/-- A plain document is what its text reads as. -/
theorem read?_render {json : Json} (plain : Plain json) : read? json.render = some json := by
  have read := readsBack plain (2 * json.chars.length + 2) [] (Nat.le_add_right _ 2) Stops.nil
  unfold read? render
  simp only [String.toList_ofList]
  rw [List.append_nil] at read
  rw [read]
  rfl

end RhythmBot.Json
