import RhythmBot.Decimal.Shortest
import RhythmBot.Proofs.Decimal.Double
/-!
How large the digits and the exponent of a shortest decimal are. Main statement: it has no more digits
than a word holds, and is not larger than that of the largest number, although it may be larger than the
number it is written for.
-/

namespace RhythmBot.Decimal

theorem digitCount_le_iff {n count : Nat} (positive : 0 < count) :
    digitCount n ≤ count ↔ n < 10 ^ count := by
  have length : digitCount n = (Nat.toDigits 10 n).length := by
    rw [← Nat.toList_repr, String.length_toList]
    rfl
  rw [length]
  exact Nat.length_toDigits_le_iff (by decide) positive

theorem digitCount_pos (n : Nat) : 0 < digitCount n := by
  apply Nat.pos_of_ne_zero
  intro none
  have small := (digitCount_le_iff (n := n) Nat.zero_lt_one).1 (by omega)
  have some : ∀ n ∈ List.range 10, digitCount n ≠ 0 := by decide
  exact some n (List.mem_range.2 (by omega)) none

theorem lt_pow_digitCount (n : Nat) : n < 10 ^ digitCount n :=
  (digitCount_le_iff (digitCount_pos n)).1 (Nat.le_refl _)

theorem pow_digitCount_le {n : Nat} (positive : 0 < n) : 10 ^ (digitCount n - 1) ≤ n := by
  apply Nat.le_of_not_lt
  intro less
  rcases Nat.eq_zero_or_pos (digitCount n - 1) with one | more
  · rw [one, Nat.pow_zero] at less
    omega
  · have fewer := (digitCount_le_iff more).2 less
    have some := digitCount_pos n
    omega

theorem digitCount_eq {n count : Nat} (least : 10 ^ count ≤ n) (most : n < 10 ^ (count + 1)) :
    digitCount n = count + 1 := by
  have upper := (digitCount_le_iff (Nat.succ_pos count)).2 most
  have power := Nat.lt_of_le_of_lt least (lt_pow_digitCount n)
  have lower := (Nat.pow_lt_pow_iff_right (by decide)).1 power
  omega

def gridValue (mantissa : Nat) (exponent tens : Int) : Nat :=
  mantissa * Nat.pow 2 exponent.toNat * Nat.pow 10 (-tens).toNat

def gridSpacing (exponent tens : Int) : Nat :=
  Nat.pow 10 tens.toNat * Nat.pow 2 (-exponent).toNat

/-- On the grid of as many digits as are asked for, a size counts no more than those. -/
theorem gridValue_lt {mantissa : Nat} (positive : 0 < mantissa) (exponent : Int) {count : Nat}
    (some : 0 < count) :
    gridValue mantissa exponent (leadingExponent mantissa exponent + 1 - count) <
      10 ^ count * gridSpacing exponent (leadingExponent mantissa exponent + 1 - count) := by
  have dividendPositive : 0 < mantissa * Nat.pow 2 exponent.toNat :=
    Nat.mul_pos positive (Nat.two_pow_pos _)
  have divisorPositive : 0 < Nat.pow 2 (-exponent).toNat := Nat.two_pow_pos _
  unfold gridValue gridSpacing leadingExponent
  simp only
  generalize mantissa * Nat.pow 2 exponent.toNat = dividend at dividendPositive ⊢
  generalize Nat.pow 2 (-exponent).toNat = divisor at divisorPositive ⊢
  by_cases large : divisor ≤ dividend
  · rw [if_pos large]
    have below : dividend < 10 ^ digitCount (dividend / divisor) * divisor :=
      (Nat.div_lt_iff_lt_mul divisorPositive).1 (lt_pow_digitCount _)
    have counted := digitCount_pos (dividend / divisor)
    generalize digitCount (dividend / divisor) = digits at below counted ⊢
    have power : digits + (-((digits : Int) - 1 + 1 - count)).toNat =
        count + ((digits : Int) - 1 + 1 - count).toNat := by omega
    calc dividend * 10 ^ (-((digits : Int) - 1 + 1 - count)).toNat
        < 10 ^ digits * divisor * 10 ^ (-((digits : Int) - 1 + 1 - count)).toNat :=
          Nat.mul_lt_mul_of_pos_right below (Nat.pow_pos (by decide))
      _ = 10 ^ (digits + (-((digits : Int) - 1 + 1 - count)).toNat) * divisor := by
          rw [Nat.pow_add, Nat.mul_right_comm]
      _ = 10 ^ count * (10 ^ ((digits : Int) - 1 + 1 - count).toNat * divisor) := by
          rw [power, Nat.pow_add, Nat.mul_assoc]
  · rw [if_neg large]
    -- Below one it is the inverse that is counted.
    have whole : 0 < (divisor - 1) / dividend :=
      Nat.div_pos (by omega) dividendPositive
    have above : 10 ^ (digitCount ((divisor - 1) / dividend) - 1) * dividend ≤ divisor - 1 :=
      (Nat.le_div_iff_mul_le dividendPositive).1 (pow_digitCount_le whole)
    have counted := digitCount_pos ((divisor - 1) / dividend)
    generalize digitCount ((divisor - 1) / dividend) = digits at above counted ⊢
    have down : (-(-(digits : Int) + 1 - count)).toNat = count + (digits - 1) := by omega
    have up : (-(digits : Int) + 1 - count).toNat = 0 := by omega
    rw [down, up]
    calc dividend * 10 ^ (count + (digits - 1))
        = 10 ^ count * (10 ^ (digits - 1) * dividend) := by
          rw [Nat.pow_add, Nat.mul_comm, Nat.mul_assoc]
      _ < 10 ^ count * divisor := by
          exact Nat.mul_lt_mul_of_pos_left (by omega) (Nat.pow_pos (by decide))
      _ = 10 ^ count * (10 ^ 0 * divisor) := by rw [Nat.pow_zero, Nat.one_mul]

/-- A point chosen on a grid is the one below or the one above the size, and reads back. -/
theorem gridPoint?_some {tie : Tie} {mantissa : Nat} {exponent tens : Int} {digits : Nat}
    (found : gridPoint? tie mantissa exponent tens = some digits) :
    digits ≤ gridValue mantissa exponent tens / gridSpacing exponent tens + 1 ∧
      (Interval.around mantissa exponent).holds exponent digits tens = true := by
  unfold gridPoint? at found
  simp only at found
  unfold gridValue gridSpacing
  generalize mantissa * Nat.pow 2 exponent.toNat * Nat.pow 10 (-tens).toNat /
    (Nat.pow 10 tens.toNat * Nat.pow 2 (-exponent).toNat) = below at found ⊢
  split at found
  · rename_i both
    rw [Bool.and_eq_true, Bool.and_eq_true] at both
    have either : digits = below + 1 ∨ digits = below := by
      rw [← Option.some.inj found]
      exact iteInduction (motive := fun chosen => chosen = below + 1 ∨ chosen = below)
        (fun _ => .inl rfl) (fun _ => .inr rfl)
    rcases either with rfl | rfl
    · exact ⟨Nat.le_refl _, both.2⟩
    · exact ⟨Nat.le_succ _, both.1.2⟩
  split at found
  · rename_i only
    rw [Bool.and_eq_true] at only
    cases found
    exact ⟨Nat.le_succ _, only.2⟩
  split at found
  · rename_i aboveHolds
    cases found
    exact ⟨Nat.le_refl _, aboveHolds⟩
  · cases found

theorem Interval.le_of_holds {interval : Interval} {exponent tens : Int} {count : Nat}
    (holds : interval.holds exponent count tens = true) (whole : 0 ≤ tens) :
    count * 10 ^ tens.toNat ≤ interval.upper * 2 ^ (exponent - 2).toNat := by
  have le : count * Nat.pow 10 tens.toNat * Nat.pow 2 (-(exponent - 2)).toNat ≤
      interval.upper * Nat.pow 2 (exponent - 2).toNat * Nat.pow 10 (-tens).toNat := by
    unfold Interval.holds balanced at holds
    simp only at holds
    split at holds
    · exact of_decide_eq_true (Bool.and_eq_true_iff.1 holds).2
    · exact Nat.le_of_lt (of_decide_eq_true (Bool.and_eq_true_iff.1 holds).2)
  have none : (-tens).toNat = 0 := by omega
  rw [none] at le
  calc count * 10 ^ tens.toNat
      ≤ count * 10 ^ tens.toNat * 2 ^ (-(exponent - 2)).toNat :=
        Nat.le_mul_of_pos_right _ (Nat.two_pow_pos _)
    _ ≤ interval.upper * 2 ^ (exponent - 2).toNat * 10 ^ 0 := le
    _ = interval.upper * 2 ^ (exponent - 2).toNat := by rw [Nat.pow_zero, Nat.mul_one]

/-- A decimal of no more than 17 digits, or a power of ten, that is not larger than the one written for
the largest number. -/
structure Scaled.InRange (value : Scaled) : Prop where
  digits : value.digits ≤ 10 ^ 17
  size : 0 ≤ value.exponent → value.digits * 10 ^ value.exponent.toNat ≤ largestPlain

theorem Scaled.size_le (value : Scaled) {places : Nat}
    (short : digitCount value.digits + value.exponent.toNat ≤ places) :
    value.digits * 10 ^ value.exponent.toNat ≤ 10 ^ places :=
  calc value.digits * 10 ^ value.exponent.toNat
      ≤ 10 ^ digitCount value.digits * 10 ^ value.exponent.toNat :=
        Nat.mul_le_mul_right _ (Nat.le_of_lt (lt_pow_digitCount _))
    _ = 10 ^ (digitCount value.digits + value.exponent.toNat) := (Nat.pow_add ..).symm
    _ ≤ 10 ^ places := Nat.pow_le_pow_right (by decide) short

theorem lt_of_mul_pow_le {factor power bound limit : Nat} (positive : 0 < factor)
    (le : factor * 10 ^ power ≤ bound) (small : bound < 10 ^ limit) : power < limit := by
  have tens : 10 ^ power ≤ factor * 10 ^ power := Nat.le_mul_of_pos_left _ positive
  have below : 10 ^ power < 10 ^ limit := by omega
  exact (Nat.pow_lt_pow_iff_right (by decide)).1 below

theorem Scaled.InRange.exponent_le {value : Scaled} (inRange : value.InRange)
    (bare : value.digits = 0 → value.exponent = 0) : value.exponent ≤ 308 := by
  by_cases whole : 0 ≤ value.exponent
  · have most : largestPlain < 10 ^ 309 := by decide +kernel
    rcases Nat.eq_zero_or_pos value.digits with zero | positive
    · have none := bare zero
      omega
    · have few := lt_of_mul_pow_le positive (inRange.size whole) most
      omega
  · omega

theorem Scaled.trimmed_shifts (fuel : Nat) (value : Scaled) :
    ∃ count : Nat, (value.trimmed fuel).digits * 10 ^ count = value.digits ∧
      (value.trimmed fuel).exponent = value.exponent + count := by
  induction fuel generalizing value with
  | zero => exact ⟨0, Nat.mul_one _, (Int.add_zero _).symm⟩
  | succ fuel ih =>
    unfold Scaled.trimmed
    split
    · rename_i zero
      obtain ⟨count, digits, exponent⟩ := ih ⟨value.digits / 10, value.exponent + 1⟩
      simp only at digits exponent
      refine ⟨count + 1, ?_, ?_⟩
      · rw [Nat.pow_succ, ← Nat.mul_assoc, digits]
        omega
      · rw [exponent]
        omega
    · exact ⟨0, Nat.mul_one _, (Int.add_zero _).symm⟩

theorem Scaled.InRange.trimmed {value : Scaled} (inRange : value.InRange) (fuel : Nat) :
    (value.trimmed fuel).InRange := by
  obtain ⟨count, digits, exponent⟩ := value.trimmed_shifts fuel
  have tens : 0 < 10 ^ count := Nat.pow_pos (by decide)
  have fewer : (value.trimmed fuel).digits ≤ value.digits := by
    rw [← digits]
    exact Nat.le_mul_of_pos_right _ tens
  refine ⟨Nat.le_trans fewer inRange.digits, fun whole => ?_⟩
  by_cases wholeBefore : 0 ≤ value.exponent
  · have place : (value.trimmed fuel).exponent.toNat = count + value.exponent.toNat := by omega
    rw [place, Nat.pow_add, ← Nat.mul_assoc, digits]
    exact inRange.size wholeBefore
  · have place : (value.trimmed fuel).exponent.toNat ≤ count := by omega
    calc (value.trimmed fuel).digits * 10 ^ (value.trimmed fuel).exponent.toNat
        ≤ (value.trimmed fuel).digits * 10 ^ count :=
          Nat.mul_le_mul_left _ (Nat.pow_le_pow_right (by decide) place)
      _ = value.digits := digits
      _ ≤ 10 ^ 17 := inRange.digits
      _ ≤ largestPlain := by decide +kernel

/-- The upper end of the interval of any number but the largest is not above the decimal of that one. -/
theorem upper_le_largestPlain {mantissa : Nat} {exponent : Int} (narrow : mantissa < 2 ^ 53)
    (most : exponent ≤ 971) (other : mantissa < 2 ^ 53 - 1 ∨ exponent < 971) :
    (Interval.around mantissa exponent).upper * 2 ^ (exponent - 2).toNat ≤ largestPlain := by
  change (4 * mantissa + 2) * 2 ^ (exponent - 2).toNat ≤ largestPlain
  rcases other with smaller | less
  · calc (4 * mantissa + 2) * 2 ^ (exponent - 2).toNat
        ≤ (4 * (2 ^ 53 - 2) + 2) * 2 ^ 969 :=
          Nat.mul_le_mul (by omega) (Nat.pow_le_pow_right (by decide) (by omega))
      _ ≤ largestPlain := by decide +kernel
  · calc (4 * mantissa + 2) * 2 ^ (exponent - 2).toNat
        ≤ (4 * (2 ^ 53 - 1) + 2) * 2 ^ 968 :=
          Nat.mul_le_mul (by omega) (Nat.pow_le_pow_right (by decide) (by omega))
      _ ≤ largestPlain := by decide +kernel

theorem inRange_shortestFrom {tie : Tie} {mantissa : Nat} {exponent : Int} (positive : 0 < mantissa)
    (narrow : mantissa < 2 ^ 53) (most : exponent ≤ 971)
    (other : mantissa < 2 ^ 53 - 1 ∨ exponent < 971) {counts : List Nat}
    (few : ∀ count ∈ counts, 0 < count ∧ count ≤ 17) :
    (shortestFrom tie mantissa exponent (leadingExponent mantissa exponent) counts).InRange := by
  induction counts with
  | nil =>
    have plain : 2 ^ 53 ≤ largestPlain := by decide +kernel
    have word : 2 ^ 53 ≤ 10 ^ 17 := by decide
    refine ⟨Nat.le_trans (Nat.le_of_lt narrow) word, fun _ => ?_⟩
    change mantissa * 10 ^ 0 ≤ largestPlain
    omega
  | cons count more ih =>
    obtain ⟨some, fits⟩ := few count List.mem_cons_self
    unfold shortestFrom
    simp only
    split
    · rename_i digits found
      obtain ⟨near, holds⟩ := gridPoint?_some found
      have below := gridValue_lt positive exponent some
      have spacing : 0 < gridSpacing exponent (leadingExponent mantissa exponent + 1 - count) :=
        Nat.mul_pos (Nat.pow_pos (by decide)) (Nat.two_pow_pos _)
      have quotient := (Nat.div_lt_iff_lt_mul spacing).2 below
      have fewDigits : digits ≤ 10 ^ 17 :=
        calc digits ≤ 10 ^ count := by omega
          _ ≤ 10 ^ 17 := Nat.pow_le_pow_right (by decide) fits
      have inRange : Scaled.InRange ⟨digits, leadingExponent mantissa exponent + 1 - count⟩ :=
        ⟨fewDigits, fun whole => Nat.le_trans (Interval.le_of_holds holds whole)
          (upper_le_largestPlain narrow most other)⟩
      exact inRange.trimmed 20
    · exact ih fun count listed => few count (List.mem_cons_of_mem _ listed)

theorem leadingExponent_natCast {mantissa : Nat} (positive : 0 < mantissa) (exponent : Nat) :
    leadingExponent mantissa exponent = (digitCount (mantissa * 2 ^ exponent) : Int) - 1 := by
  have down : (-(exponent : Int)).toNat = 0 := by omega
  have one : Nat.pow 2 0 = 1 := rfl
  have whole : 1 ≤ mantissa * Nat.pow 2 exponent := Nat.mul_pos positive (Nat.two_pow_pos exponent)
  unfold leadingExponent
  simp only [Int.toNat_natCast, down, one, Nat.div_one, if_pos whole]
  rfl

/-- The decimal of the largest number. Its digits are not counted one by one, which would take long. -/
theorem shortestSize_largest :
    shortestSize .even (2 ^ 53 - 1) 971 = ⟨17976931348623157, 292⟩ := by
  have counted : digitCount ((2 ^ 53 - 1) * 2 ^ 971) = 308 + 1 :=
    digitCount_eq (by decide +kernel) (by decide +kernel)
  have leading : leadingExponent (2 ^ 53 - 1) (971 : Nat) = 308 := by
    rw [leadingExponent_natCast (by decide), counted]
    rfl
  unfold shortestSize
  rw [if_neg (by decide)]
  change shortestFrom .even (2 ^ 53 - 1) 971 (leadingExponent (2 ^ 53 - 1) (971 : Nat)) _ = _
  rw [leading]
  decide +kernel

/-- The shortest decimal of a finite number is in range. -/
theorem inRange_shortestSize {mantissa : Nat} {exponent : Int} (narrow : mantissa < 2 ^ 53)
    (most : exponent ≤ 971) : (shortestSize .even mantissa exponent).InRange := by
  rcases Nat.eq_zero_or_pos mantissa with rfl | positive
  · have zero : shortestSize .even 0 exponent = ⟨0, 0⟩ := rfl
    rw [zero]
    exact ⟨by decide, fun _ => by decide +kernel⟩
  by_cases largest : mantissa = 2 ^ 53 - 1 ∧ exponent = 971
  -- Half a step above the largest number is above its decimal, too.
  · obtain ⟨rfl, rfl⟩ := largest
    rw [shortestSize_largest]
    exact ⟨by decide, fun _ => by decide +kernel⟩
  · unfold shortestSize
    rw [if_neg (Nat.ne_of_gt positive)]
    refine inRange_shortestFrom positive narrow most (by omega) fun count listed => ?_
    obtain ⟨index, within, rfl⟩ := List.mem_map.1 listed
    have small := List.mem_range.1 within
    omega

end RhythmBot.Decimal
