import RhythmBot.Json.Reader
/-!
Number literals that are read back as they are written: those whose parts are runs of digits, with no
zero in front of the whole part. Every literal written for a number is one of them.
-/

namespace RhythmBot.Json

open RhythmBot.Text

def IsRun (digits : List Nat) : Prop :=
  digits ≠ [] ∧ ∀ digit ∈ digits, digit < 10

structure Literal.WellFormed (literal : Literal) : Prop where
  whole : IsRun literal.whole
  unpadded : literal.whole.head? = some 0 → literal.whole.length = 1
  fraction : ∀ digit ∈ literal.fraction, digit < 10
  exponent : ∀ down digits, literal.exponent = some (down, digits) → IsRun digits

def Undigited (cs : List Char) : Prop :=
  ∀ c ∈ cs.head?, digitValue? c = none

/-- A text that no number goes on in: it is at its end or has a comma or a closing bracket in front.
-/
def Stops (cs : List Char) : Prop :=
  ∀ c ∈ cs.head?, c = ',' ∨ c = ']' ∨ c = '\x7d'

theorem Stops.nil : Stops [] := by
  intro c front
  cases front

theorem Stops.undigited {cs : List Char} (stops : Stops cs) : Undigited cs := by
  intro c front
  rcases stops c front with rfl | rfl | rfl <;> decide

theorem digitValue?_digit {digit : Nat} (small : digit < 10) :
    digitValue? (Char.ofNat (digit + 48)) = some digit := by
  have all : ∀ n ∈ List.range 10, digitValue? (Char.ofNat (n + 48)) = some n := by decide
  exact all digit (List.mem_range.2 small)

theorem digit_ne {digit : Nat} (small : digit < 10) {c : Char} (other : digitValue? c = none) :
    Char.ofNat (digit + 48) ≠ c := by
  intro same
  have value := digitValue?_digit small
  rw [same, other] at value
  cases value

theorem digitRun_of_undigited {rest : List Char} (undigited : Undigited rest) :
    digitRun rest = ([], rest) := by
  cases rest with
  | nil => rfl
  | cons c rest => simp [digitRun, undigited c rfl]

theorem digitRun_digitChars {digits : List Nat} (small : ∀ digit ∈ digits, digit < 10)
    {rest : List Char} (undigited : Undigited rest) :
    digitRun (digitChars digits ++ rest) = (digits, rest) := by
  induction digits with
  | nil => exact digitRun_of_undigited undigited
  | cons digit more ih =>
    have first := digitValue?_digit (small digit List.mem_cons_self)
    have later := ih fun other member => small other (List.mem_cons_of_mem digit member)
    unfold digitChars at later ⊢
    simp only [List.map_cons, List.cons_append, digitRun, first, later]

theorem digitRun?_digitChars {digits : List Nat} (run : IsRun digits) {rest : List Char}
    (undigited : Undigited rest) : digitRun? (digitChars digits ++ rest) = some (digits, rest) := by
  unfold digitRun?
  rw [digitRun_digitChars run.2 undigited]
  cases digits with
  | nil => exact absurd rfl run.1
  | cons digit more => rfl

theorem wholePart?_digitChars {digits : List Nat} (run : IsRun digits)
    (unpadded : digits.head? = some 0 → digits.length = 1) {rest : List Char}
    (undigited : Undigited rest) :
    wholePart? (digitChars digits ++ rest) = some (digits, rest) := by
  unfold wholePart?
  have plain : ¬(digits.head? = some 0 ∧ digits.length ≠ 1) :=
    fun padded => padded.2 (unpadded padded.1)
  rw [digitRun?_digitChars run undigited, Option.bind_eq_bind, Option.bind_some]
  simp only [plain, if_false]

def fractionChars (digits : List Nat) : List Char :=
  if digits.isEmpty then [] else '.' :: digitChars digits

def exponentChars : Option (Bool × List Nat) → List Char
  | none => []
  | some (down, digits) => 'e' :: (if down then ['-'] else []) ++ digitChars digits

theorem exponentPart?_exponentChars {exponent : Option (Bool × List Nat)}
    (run : ∀ down digits, exponent = some (down, digits) → IsRun digits) {rest : List Char}
    (stops : Stops rest) :
    exponentPart? (exponentChars exponent ++ rest) = some (exponent, rest) := by
  cases exponent with
  | none =>
    cases rest with
    | nil => rfl
    | cons c rest =>
      have plain : ¬(c = 'e' ∨ c = 'E') := by
        rcases stops c rfl with rfl | rfl | rfl <;> decide
      simp only [exponentChars, List.nil_append, exponentPart?, plain, if_false]
  | some written =>
    obtain ⟨down, digits⟩ := written
    have digitsRead := digitRun?_digitChars (run down digits rfl) stops.undigited
    cases down with
    | true => simp [exponentChars, exponentPart?, digitsRead]
    | false =>
      obtain ⟨nonempty, small⟩ := run false digits rfl
      cases digits with
      | nil => exact absurd rfl nonempty
      | cons digit more =>
        -- Without a sign in the text the first digit must not be taken for one.
        have first : digit < 10 := small digit List.mem_cons_self
        have notMinus : Char.ofNat (digit + 48) ≠ '-' := digit_ne first (by decide)
        have notPlus : Char.ofNat (digit + 48) ≠ '+' := digit_ne first (by decide)
        simp only [digitChars, List.map_cons, List.cons_append] at digitsRead
        simp [exponentChars, exponentPart?, digitChars, digitsRead, notMinus, notPlus]

theorem exponentChars_undigited (exponent : Option (Bool × List Nat)) {rest : List Char}
    (stops : Stops rest) : Undigited (exponentChars exponent ++ rest) := by
  cases exponent with
  | none => exact stops.undigited
  | some written =>
    intro c front
    cases front
    decide

theorem fractionPart?_fractionChars {digits : List Nat} (small : ∀ digit ∈ digits, digit < 10)
    {exponent : Option (Bool × List Nat)} {rest : List Char} (stops : Stops rest) :
    fractionPart? (fractionChars digits ++ (exponentChars exponent ++ rest)) =
      some (digits, exponentChars exponent ++ rest) := by
  cases digits with
  | nil =>
    cases exponent with
    | some written => rfl
    | none =>
      cases rest with
      | nil => rfl
      | cons c rest => rcases stops c rfl with rfl | rfl | rfl <;> rfl
  | cons digit more =>
    exact digitRun?_digitChars ⟨List.cons_ne_nil digit more, small⟩
      (exponentChars_undigited exponent stops)

theorem Literal.chars_eq (literal : Literal) :
    literal.chars = (if literal.negative then ['-'] else []) ++ (digitChars literal.whole ++
      (fractionChars literal.fraction ++ exponentChars literal.exponent)) := by
  obtain ⟨negative, whole, fraction, exponent⟩ := literal
  rcases exponent with _ | ⟨down, digits⟩
  · simp [chars, fractionChars, exponentChars]
  · simp [chars, fractionChars, exponentChars]

theorem numberText?_chars {literal : Literal} (formed : literal.WellFormed) {rest : List Char}
    (stops : Stops rest) :
    numberText? literal.negative
      (digitChars literal.whole ++ (fractionChars literal.fraction ++
        (exponentChars literal.exponent ++ rest))) = some (literal, rest) := by
  have undigited : Undigited (fractionChars literal.fraction ++
      (exponentChars literal.exponent ++ rest)) := by
    unfold fractionChars
    split
    · exact exponentChars_undigited literal.exponent stops
    · intro c front
      cases front
      decide
  unfold numberText?
  rw [wholePart?_digitChars formed.whole formed.unpadded undigited]
  simp only [Option.bind_eq_bind, Option.bind_some, fractionPart?_fractionChars formed.fraction stops,
    exponentPart?_exponentChars formed.exponent stops]

theorem toNat_digitChar_sub {digit : Nat} (small : digit < 10) :
    digit.digitChar.toNat - 48 = digit := by
  have all : ∀ n ∈ List.range 10, n.digitChar.toNat - 48 = n := by decide
  exact all digit (List.mem_range.2 small)

theorem digitsOf_eq (n : Nat) :
    digitsOf n = if n < 10 then [n] else digitsOf (n / 10) ++ [n % 10] := by
  unfold digitsOf
  simp only [Nat.toString_eq_repr, Nat.toList_repr]
  rw [Nat.toDigits_eq_if (by decide : 1 < 10)]
  split
  · rename_i small
    simp [toNat_digitChar_sub small]
  · simp [toNat_digitChar_sub (Nat.mod_lt n (by decide : 0 < 10))]

theorem isRun_digitsOf (n : Nat) : IsRun (digitsOf n) := by
  induction n using Nat.strongRecOn with
  | ind n ih =>
    rw [digitsOf_eq]
    split
    · rename_i small
      exact ⟨List.cons_ne_nil n [], by simpa using small⟩
    · rename_i large
      have shorter := ih (n / 10) (by omega)
      refine ⟨by simp, fun digit member => ?_⟩
      rcases List.mem_append.1 member with front | last
      · exact shorter.2 digit front
      · rw [List.mem_singleton.1 last]
        exact Nat.mod_lt n (by decide)

theorem head?_append_of_isRun {digits : List Nat} (run : IsRun digits) (more : List Nat) :
    (digits ++ more).head? = digits.head? := by
  cases digits with
  | nil => exact absurd rfl run.1
  | cons digit rest => rfl

theorem head?_digitsOf {n : Nat} (zero : (digitsOf n).head? = some 0) : n = 0 := by
  induction n using Nat.strongRecOn with
  | ind n ih =>
    rw [digitsOf_eq] at zero
    split at zero
    · simpa using zero
    · rename_i large
      have front : (digitsOf (n / 10)).head? = some 0 := by
        rwa [head?_append_of_isRun (isRun_digitsOf (n / 10))] at zero
      have none := ih (n / 10) (by omega) front
      omega

theorem Literal.wellFormed_ofNat (n : Nat) : (Literal.ofNat n).WellFormed where
  whole := isRun_digitsOf n
  unpadded zero := by
    rw [Literal.ofNat, head?_digitsOf zero]
    decide
  fraction := by simp [Literal.ofNat]
  exponent := by simp [Literal.ofNat]

/-- The layout of a decimal value is well-formed, if zero comes without a power of ten. -/
theorem Literal.wellFormed_ofScaled (negative : Bool) {value : Decimal.Scaled}
    (bare : value.digits = 0 → value.exponent = 0) :
    (Literal.ofScaled negative value).WellFormed := by
  have run := isRun_digitsOf value.digits
  have unpadded : (digitsOf value.digits).head? = some 0 → value.digits = 0 := head?_digitsOf
  have zeros : ∀ count : Nat, ∀ digit ∈ List.replicate count 0, digit < 10 := by
    intro count digit member
    rw [(List.mem_replicate.1 member).2]
    decide
  have positive : 0 < (digitsOf value.digits).length := List.length_pos_iff.2 run.1
  unfold ofScaled
  simp only
  split
  · refine ⟨⟨by simp [run.1], fun digit member => ?_⟩, fun zero => ?_, by simp, by simp⟩
    · exact (List.mem_append.1 member).elim (run.2 digit) (zeros _ digit)
    · rw [head?_append_of_isRun run] at zero
      have none := unpadded zero
      rw [none, bare none]
      rfl
  · split
    · rename_i scaled within
      refine ⟨⟨?_, fun digit member => run.2 digit (List.mem_of_mem_take member)⟩, fun zero => ?_,
        fun digit member => run.2 digit (List.mem_of_mem_drop member), by simp⟩
      · simp only [ne_eq, List.take_eq_nil_iff, run.1, or_false]
        omega
      · rw [List.head?_take, if_neg (by omega)] at zero
        have none := unpadded zero
        rw [none, bare none] at scaled within
        exact absurd ⟨Int.le_refl 0, within.2⟩ scaled
    · split
      · refine ⟨⟨by simp, by simp⟩, fun _ => rfl, fun digit member => ?_, by simp⟩
        exact (List.mem_append.1 member).elim (zeros _ digit) (run.2 digit)
      · refine ⟨⟨by simp [run.1], fun digit member => run.2 digit (List.mem_of_mem_take member)⟩,
          fun _ => by rw [List.length_take]; omega,
          fun digit member => run.2 digit (List.mem_of_mem_drop member), ?_⟩
        intro down digits written
        cases written
        exact isRun_digitsOf _

theorem trimmed_digits_ne_zero {fuel : Nat} {value : Decimal.Scaled} (positive : value.digits ≠ 0) :
    (Decimal.Scaled.trimmed fuel value).digits ≠ 0 := by
  induction fuel generalizing value with
  | zero => exact positive
  | succ fuel ih =>
    unfold Decimal.Scaled.trimmed
    split
    · apply ih
      simp only
      omega
    · exact positive

theorem gridPoint?_ne_zero {tie : Decimal.Tie} {mantissa digits : Nat} {exponent tens : Int}
    (found : Decimal.gridPoint? tie mantissa exponent tens = some digits) : digits ≠ 0 := by
  unfold Decimal.gridPoint? at found
  simp only at found
  grind

theorem shortestFrom_digits_ne_zero {tie : Decimal.Tie} {mantissa : Nat} {exponent leading : Int}
    (positive : mantissa ≠ 0) (counts : List Nat) :
    (Decimal.shortestFrom tie mantissa exponent leading counts).digits ≠ 0 := by
  induction counts with
  | nil => exact positive
  | cons count more ih =>
    unfold Decimal.shortestFrom
    simp only
    split
    · rename_i digits found
      exact trimmed_digits_ne_zero (gridPoint?_ne_zero found)
    · exact ih

/-- Only zero is written with the digit zero, and without a power of ten. -/
theorem shortestSize_bare {tie : Decimal.Tie} {mantissa : Nat} {exponent : Int}
    (zero : (Decimal.shortestSize tie mantissa exponent).digits = 0) :
    (Decimal.shortestSize tie mantissa exponent).exponent = 0 := by
  unfold Decimal.shortestSize at zero ⊢
  split at zero
  · rename_i nothing
    rw [if_pos nothing]
  · rename_i positive
    exact absurd zero (shortestFrom_digits_ne_zero positive _)

theorem Literal.wellFormed_ofFloat? {x : Float} {literal : Literal}
    (written : Literal.ofFloat? x = some literal) : literal.WellFormed := by
  unfold Literal.ofFloat? at written
  split at written
  · cases written
  · cases written
  · cases written
    exact Literal.wellFormed_ofScaled _ shortestSize_bare

end RhythmBot.Json
