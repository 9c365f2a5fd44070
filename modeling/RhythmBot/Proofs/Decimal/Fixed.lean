import Mathlib.Algebra.Order.Field.Basic
import Mathlib.Algebra.Order.Field.Power
import Mathlib.Data.Rat.Cast.Order
import Mathlib.Tactic.FieldSimp
import Mathlib.Tactic.Linarith
import RhythmBot.Decimal.Fixed
/-!
Decimal text with a fixed number of places. Main statement: its digits, taken together, are the whole
number nearest to the exact value counted in units of the last place, a half going to the even one.
-/

namespace RhythmBot.Decimal

def magnitude (mantissa : Nat) (exponent : Int) : ℚ := mantissa * 2 ^ exponent

def lastDigits : Nat → Nat → List Char
  | 0, _ => []
  | places + 1, n => lastDigits places (n / 10) ++ [Nat.digitChar (n % 10)]

/-- A whole number nearest to a value, the even one of two. -/
structure IsNearest (value : ℚ) (units : Nat) : Prop where
  near : |value - units| ≤ 1 / 2
  even : |value - units| = 1 / 2 → units % 2 = 0

/-- How a number is written with a fixed count of places. -/
inductive InPlaces (places : Nat) : Binary → String → Prop
  | nan : InPlaces places .nan "NaN"
  | infinite (negative : Bool) :
      InPlaces places (.infinite negative) ((if negative then "-" else "") ++ "inf")
  | finite (negative : Bool) {mantissa : Nat} {exponent : Int} {units : Nat} :
      IsNearest (magnitude mantissa exponent * 10 ^ places) units →
      InPlaces places (.finite negative mantissa exponent)
        ((if negative then "-" else "") ++ (toString (units / 10 ^ places) ++
          if places = 0 then "" else "." ++ String.ofList (lastDigits places units)))

theorem isNearest_roundQuotient (dividend : Nat) {divisor : Nat} (positive : 0 < divisor) :
    IsNearest (dividend / divisor) (roundQuotient dividend divisor) := by
  have size : (0 : ℚ) < divisor := by exact_mod_cast positive
  have apart : |(dividend / divisor : ℚ) - roundQuotient dividend divisor| =
      |(dividend : ℚ) - divisor * roundQuotient dividend divisor| / divisor := by
    rw [← abs_of_pos size, ← abs_div, abs_of_pos size, sub_div, mul_div_cancel_left₀ _ size.ne']
  constructor
  · obtain ⟨lower, upper⟩ := roundQuotient_near dividend divisor positive
    have above : (2 * dividend : ℚ) ≤ 2 * (divisor * roundQuotient dividend divisor) + divisor := by
      exact_mod_cast lower
    have below : (2 * (divisor * roundQuotient dividend divisor) : ℚ) ≤ 2 * dividend + divisor := by
      exact_mod_cast upper
    rw [apart, div_le_iff₀ size, abs_le]
    constructor <;> linarith
  · intro half
    rw [apart, div_eq_iff size.ne'] at half
    have tie : 2 * dividend = 2 * (divisor * roundQuotient dividend divisor) + divisor ∨
        2 * (divisor * roundQuotient dividend divisor) = 2 * dividend + divisor := by
      rcases eq_or_eq_neg_of_abs_eq half with more | less
      · left
        have scaled : (2 * dividend : ℚ) =
            2 * (divisor * roundQuotient dividend divisor) + divisor := by linarith
        exact_mod_cast scaled
      · right
        have scaled : (2 * (divisor * roundQuotient dividend divisor) : ℚ) =
            2 * dividend + divisor := by linarith
        exact_mod_cast scaled
    have parts := Nat.div_add_mod dividend divisor
    have small := Nat.mod_lt dividend positive
    have next : divisor * (dividend / divisor + 1) = divisor * (dividend / divisor) + divisor := by
      rw [Nat.mul_add, Nat.mul_one]
    unfold roundQuotient at tie ⊢
    simp only at tie ⊢
    split
    · rename_i less
      rw [if_pos less] at tie
      omega
    split
    · rename_i notLess more
      rw [if_neg notLess, if_pos more] at tie
      omega
    · omega

theorem isNearest_roundScaled (places mantissa : Nat) (exponent : Int) :
    IsNearest (magnitude mantissa exponent * 10 ^ places)
      (roundScaled (Nat.pow 10 places) mantissa exponent) := by
  unfold roundScaled magnitude
  split
  · rename_i whole
    obtain ⟨exponent, rfl⟩ := Int.eq_ofNat_of_zero_le whole
    have exact : (mantissa * 2 ^ (exponent : Int) * 10 ^ places : ℚ) =
        ((mantissa * Nat.pow 2 exponent * Nat.pow 10 places : Nat) : ℚ) := by
      rw [zpow_natCast]
      push_cast [Nat.pow_eq]
      rfl
    rw [exact, Int.toNat_natCast]
    constructor
    · rw [sub_self, abs_zero]
      norm_num
    · intro half
      rw [sub_self, abs_zero] at half
      norm_num at half
  · rename_i fractional
    obtain ⟨shift, rfl⟩ := Int.eq_ofNat_of_zero_le (show 0 ≤ -exponent by omega) |>.imp
      fun _ same => (Int.neg_eq_comm.1 same).symm
    rw [Int.neg_neg, Int.toNat_natCast]
    have exact : (mantissa * 2 ^ (-(shift : Int)) * 10 ^ places : ℚ) =
        ((mantissa * Nat.pow 10 places : Nat) : ℚ) / (Nat.pow 2 shift : Nat) := by
      rw [zpow_neg, zpow_natCast]
      push_cast [Nat.pow_eq]
      field_simp
    rw [exact]
    exact isNearest_roundQuotient _ (Nat.two_pow_pos shift)

theorem toList_toString (n : Nat) :
    (toString n).toList =
      if n < 10 then [Nat.digitChar n] else (toString (n / 10)).toList ++ [Nat.digitChar (n % 10)] := by
  simp only [Nat.toString_eq_repr, Nat.toList_repr]
  exact Nat.toDigits_eq_if (by decide)

theorem lastDigits_mod (places n : Nat) :
    lastDigits places (n % 10 ^ places) = lastDigits places n := by
  induction places generalizing n with
  | zero => rfl
  | succ places ih =>
    rw [lastDigits, lastDigits, Nat.pow_succ', Nat.mod_mul_right_div_self, Nat.mod_mul_right_mod, ih]

theorem replicate_append_toString {places n : Nat} (short : n < 10 ^ (places + 1)) :
    List.replicate (places + 1 - (toString n).toList.length) '0' ++ (toString n).toList =
      lastDigits (places + 1) n := by
  induction places generalizing n with
  | zero =>
    have digit : n < 10 := short
    rw [toList_toString, if_pos digit, lastDigits, Nat.mod_eq_of_lt digit]
    rfl
  | succ places ih =>
    have front := ih (Nat.div_lt_of_lt_mul (Nat.pow_succ' ▸ short) : n / 10 < 10 ^ (places + 1))
    rw [lastDigits, ← front, toList_toString n]
    by_cases digit : n < 10
    · have none : n / 10 = 0 := Nat.div_eq_of_lt digit
      have zero : (toString 0).toList = ['0'] := rfl
      rw [if_pos digit, none, zero, Nat.mod_eq_of_lt digit]
      simp only [List.length_singleton, Nat.add_sub_cancel, List.replicate_succ']
    · have fits : places + 1 + 1 - ((toString (n / 10)).toList.length + 1) =
          places + 1 - (toString (n / 10)).toList.length := Nat.add_sub_add_right ..
      rw [if_neg digit, List.length_append, List.length_singleton, fits, List.append_assoc]

theorem padded_mod (places n : Nat) :
    padded (places + 1) (n % 10 ^ (places + 1)) = String.ofList (lastDigits (places + 1) n) := by
  have short : n % 10 ^ (places + 1) < 10 ^ (places + 1) := Nat.mod_lt _ (Nat.pow_pos (by decide))
  rw [← lastDigits_mod, ← replicate_append_toString short, String.ofList_append]
  unfold padded
  rw [String.length_toList, String.ofList_toList]

theorem pointed_eq (places units : Nat) :
    pointed places units = toString (units / 10 ^ places) ++
      if places = 0 then "" else "." ++ String.ofList (lastDigits places units) := by
  unfold pointed
  cases places with
  | zero => simp
  | succ places =>
    simp only [Nat.add_one_ne_zero, if_false]
    rw [← padded_mod, String.append_assoc]
    rfl

theorem inPlaces_fixed (places : Nat) (x : Float) :
    InPlaces places (Binary.ofFloat x) (fixed places x) := by
  unfold fixed
  cases Binary.ofFloat x with
  | nan => exact .nan
  | infinite negative => exact .infinite negative
  | finite negative mantissa exponent =>
    simp only [pointed_eq]
    exact .finite negative (isNearest_roundScaled places mantissa exponent)

/-- A half goes to the even hundredth. -/
example : InPlaces 2 (Binary.ofFloat 0.125) "0.12" ∧ InPlaces 2 (Binary.ofFloat 0.375) "0.38" :=
  ⟨inPlaces_fixed 2 0.125, inPlaces_fixed 2 0.375⟩

end RhythmBot.Decimal
