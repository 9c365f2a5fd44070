import RhythmBot.Json.Shape
import RhythmBot.Proofs.Decimal.Shortest
import RhythmBot.Proofs.Json.Literal
/-!
Which numbers have a value when they are read back from their document. Main statement: a
double-precision number has one just if it is finite; its literal is then not too large to be read.
-/

namespace RhythmBot.Json

open RhythmBot.Decimal

def appended (value : Nat) (digits : List Nat) : Nat :=
  digits.foldl (fun value digit => 10 * value + digit) value

theorem appended_cons (value digit : Nat) (digits : List Nat) :
    appended value (digit :: digits) = appended (10 * value + digit) digits := rfl

theorem appended_append (value : Nat) (first second : List Nat) :
    appended value (first ++ second) = appended (appended value first) second :=
  List.foldl_append

theorem le_appended (value : Nat) (digits : List Nat) : value ≤ appended value digits := by
  induction digits generalizing value with
  | nil => exact Nat.le_refl value
  | cons digit more ih =>
    have later := ih (10 * value + digit)
    rw [appended_cons]
    omega

theorem takeDigits_eq {value : Nat} {digits : List Nat}
    (fits : appended value digits ≤ largestWord) :
    takeDigits value digits = (appended value digits, []) := by
  induction digits generalizing value with
  | nil => rfl
  | cons digit more ih =>
    rw [appended_cons] at fits
    have next := Nat.le_trans (le_appended (10 * value + digit) more) fits
    rw [takeDigits, if_pos next, appended_cons]
    exact ih fits

theorem appended_zeros (value count : Nat) :
    appended value (List.replicate count 0) = value * 10 ^ count := by
  induction count generalizing value with
  | zero => exact (Nat.mul_one value).symm
  | succ count ih =>
    rw [List.replicate_succ, appended_cons, ih, Nat.add_zero, Nat.pow_succ', ← Nat.mul_assoc,
      Nat.mul_comm value]

theorem spelled_digitsOf (n : Nat) : spelled (digitsOf n) = n := by
  induction n using Nat.strongRecOn with
  | ind n ih =>
    rw [digitsOf_eq]
    split
    · exact Nat.zero_add n
    · have front : spelled (digitsOf (n / 10) ++ [n % 10]) =
          10 * spelled (digitsOf (n / 10)) + n % 10 := appended_append 0 _ _
      rw [front, ih (n / 10) (by omega)]
      omega

theorem length_digitsOf (n : Nat) : (digitsOf n).length = digitCount n := by
  unfold digitsOf digitCount
  rw [List.length_map, String.length_toList]

theorem natural?_ofNat {n : Nat} (fits : n ≤ largestWord) :
    natural? largestWord (ofNat n) = some n := by
  have whole : takeDigits 0 (digitsOf n) = (n, []) := by
    have all : appended 0 (digitsOf n) = n := spelled_digitsOf n
    rw [takeDigits_eq (by omega), all]
  have value : (Literal.ofNat n).value? = some (.natural n) := by
    unfold Literal.value? Literal.ofNat
    simp only [whole]
    rfl
  unfold natural? number? ofNat
  simp only [value, if_pos fits]

theorem Literal.value?_eq {literal : Literal}
    (parted : literal.fraction ≠ [] ∨ literal.exponent ≠ none)
    (fits : appended 0 (literal.whole ++ literal.fraction) ≤ largestWord) :
    literal.value? =
      (scaledSize (appended 0 (literal.whole ++ literal.fraction)) (-literal.fraction.length)
        literal.exponent).map fun size => .real (if literal.negative then -size else size) := by
  rw [appended_append] at fits ⊢
  have first := takeDigits_eq (Nat.le_trans (le_appended _ literal.fraction) fits)
  have second := takeDigits_eq fits
  have notWhole : (literal.fraction.isEmpty && literal.exponent.isNone) = false := by
    rw [Bool.and_eq_false_iff, List.isEmpty_eq_false_iff, Option.isNone_eq_false_iff,
      Option.isSome_iff_ne_none]
    exact parted
  unfold Literal.value?
  simp only [first, second, List.isEmpty_nil, Bool.true_and, notWhole, Bool.false_eq_true, if_false,
    List.length_nil, Int.natCast_zero, Int.zero_sub, Nat.sub_zero]

theorem isSome_scaleByTen_down (steps : Nat) (x : Float) {power : Int} (down : power < 0) :
    (scaleByTen steps x power).isSome = true := by
  induction steps generalizing x power with
  | zero =>
    unfold scaleByTen
    rw [if_neg (show ¬0 ≤ power by omega), if_neg (show ¬0 ≤ power by omega)]
    split
    · rfl
    · split <;> rfl
  | succ steps ih =>
    unfold scaleByTen
    rw [if_neg (show ¬0 ≤ power by omega), if_neg (show ¬0 ≤ power by omega)]
    split
    · rfl
    · split
      · rfl
      · exact ih _ (by omega)

theorem isSome_scaleByTen {value : Scaled} (inRange : value.InRange)
    (bare : value.digits = 0 → value.exponent = 0) :
    (scaleByTen 8 value.digits.toUInt64.toFloat value.exponent).isSome = true := by
  have most := inRange.exponent_le bare
  rcases Int.lt_or_le value.exponent 0 with down | up
  · exact isSome_scaleByTen_down 8 _ down
  · have finite := isInf_mul_powerOfTen inRange.digits (by omega) (inRange.size up)
    unfold scaleByTen
    rw [if_pos (by omega), if_pos up]
    simp only [finite, Bool.false_eq_true, if_false, Option.isSome_some]

theorem Literal.isSome_value?_of_fraction {literal : Literal} (parted : literal.fraction ≠ [])
    (unscaled : literal.exponent = none)
    (fits : appended 0 (literal.whole ++ literal.fraction) ≤ largestWord) :
    literal.value?.isSome = true := by
  have places : 0 < literal.fraction.length := List.length_pos_iff.2 parted
  rw [value?_eq (.inl parted) fits, unscaled, Option.isSome_map]
  exact isSome_scaleByTen_down 8 _ (by omega)

/-- With an exponent, the digits of a decimal are scaled back to where they stand. -/
theorem isSome_scaledSize {value : Scaled} (inRange : value.InRange)
    (bare : value.digits = 0 → value.exponent = 0) {places : Nat} (few : places ≤ 17) {point : Int}
    (place : point = value.exponent + places) :
    (scaledSize value.digits (-places) (some (point < 0, digitsOf point.natAbs))).isSome = true := by
  have most := inRange.exponent_le bare
  have limit : largestExponent = 2147483647 := rfl
  unfold scaledSize
  simp only [spelled_digitsOf]
  split
  · have moved : (if decide (point < 0) = true then -(places : Int) - point.natAbs
        else -(places : Int) + point.natAbs) = value.exponent := by
      split
      · rename_i down
        have negative := of_decide_eq_true down
        omega
      · rename_i up
        have nonnegative : ¬point < 0 := by simpa using up
        omega
    rw [moved]
    exact isSome_scaleByTen inRange bare
  -- A larger exponent is written for numbers near zero only.
  · have down : decide (point < 0) = true := decide_eq_true (by omega)
    simp [down]

/-- The literal of a decimal in range is not too large to be read. -/
theorem Literal.isSome_value?_ofScaled (negative : Bool) {value : Scaled} (inRange : value.InRange)
    (bare : value.digits = 0 → value.exponent = 0) :
    (Literal.ofScaled negative value).value?.isSome = true := by
  have word : 10 ^ 17 ≤ largestWord := by decide
  have few := inRange.digits
  have digits : appended 0 (digitsOf value.digits) = value.digits := spelled_digitsOf _
  have positive : 0 < (digitsOf value.digits).length :=
    List.length_pos_iff.2 (isRun_digitsOf value.digits).1
  have short : (digitsOf value.digits).length ≤ 18 := by
    rw [length_digitsOf, digitCount_le_iff (by decide)]
    exact Nat.lt_of_le_of_lt few (by decide)
  -- The layouts: zeros behind the digits, a point among them, zeros in front, and an exponent.
  unfold ofScaled
  simp only
  split
  · rename_i large
    have whole : appended 0 (digitsOf value.digits ++ List.replicate value.exponent.toNat 0 ++ [0]) =
        10 * (value.digits * 10 ^ value.exponent.toNat) := by
      rw [appended_append, appended_append, digits, appended_zeros]
      rfl
    have size : value.digits * 10 ^ value.exponent.toNat ≤ 10 ^ 16 :=
      value.size_le (by rw [← length_digitsOf]; omega)
    apply isSome_value?_of_fraction (List.cons_ne_nil 0 []) rfl
    simp only [whole]
    omega
  split
  · rename_i within
    apply isSome_value?_of_fraction _ rfl
    · rw [List.take_append_drop, digits]
      omega
    · simp only [ne_eq, List.drop_eq_nil_iff]
      omega
  split
  · apply isSome_value?_of_fraction _ rfl
    · have none : appended 0 [0] = 0 := rfl
      rw [appended_append, appended_append, none, appended_zeros, Nat.zero_mul, digits]
      omega
    · simp only [ne_eq, List.append_eq_nil_iff, List.length_pos_iff.1 positive, and_false,
        not_false_eq_true]
  · rw [value?_eq (.inr (Option.some_ne_none _))]
    · rw [Option.isSome_map, List.take_append_drop, digits]
      apply isSome_scaledSize inRange bare
      · rw [List.length_drop]
        omega
      · rw [List.length_drop]
        omega
    · rw [List.take_append_drop, digits]
      omega

/-- A double-precision number is read back from its document just if it is finite. -/
theorem isSome_float?_ofFloat (x : Float) : (float? (ofFloat x)).isSome = x.isFinite := by
  cases finite : x.isFinite with
  | true =>
    obtain ⟨negative, mantissa, exponent, parts, narrow, most⟩ := Binary.ofFloat_finite finite
    have written : ofFloat x =
        .number (Literal.ofScaled negative (shortestSize .even mantissa exponent)) := by
      unfold ofFloat Literal.ofFloat?
      rw [parts]
    have read := Literal.isSome_value?_ofScaled negative (inRange_shortestSize narrow most)
      shortestSize_bare
    rw [written, float?, Option.isSome_map]
    exact read
  | false =>
    have none : ofFloat x = .null := by
      unfold ofFloat Literal.ofFloat?
      rcases Binary.ofFloat_special finite with nan | ⟨negative, infinite⟩
      · rw [nan]
      · rw [infinite]
    rw [none]
    rfl

end RhythmBot.Json
