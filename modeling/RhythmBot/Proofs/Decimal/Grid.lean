import RhythmBot.Proofs.Decimal.Nearest
/-!
The grids of decimals among which the shortest one is looked for. Main statement: a grid of seventeen
digits has a point in the interval of every number, so the search ends with a decimal that is rounded to
the number it is made for.
-/

namespace RhythmBot.Decimal

def Scaled.value (decimal : Scaled) : ℚ := decimal.digits * 10 ^ decimal.exponent

theorem pow_toNat {base : ℚ} (nonzero : base ≠ 0) (power : Int) :
    base ^ power.toNat = base ^ power * base ^ (-power).toNat := by
  have whole : power = (power.toNat : Int) - ((-power).toNat : Int) :=
    (Int.toNat_sub_toNat_neg power).symm
  have split : base ^ power = base ^ power.toNat / base ^ (-power).toNat := by
    rw [whole, zpow_sub₀ nonzero, zpow_natCast, zpow_natCast, ← whole]
  rw [split, div_mul_cancel₀ _ (pow_ne_zero _ nonzero)]

section Grid

variable {mantissa : Nat} {exponent tens : Int}

theorem balanced_fst (count : Nat) (tens : Int) (quarters : Nat) (twos : Int) :
    ((balanced count tens quarters twos).1 : ℚ) =
      Scaled.value ⟨count, tens⟩ * (10 ^ (-tens).toNat * 2 ^ (-twos).toNat) := by
  change ((count * 10 ^ tens.toNat * 2 ^ (-twos).toNat : Nat) : ℚ) = _
  push_cast
  rw [pow_toNat (by norm_num) tens, Scaled.value]
  ring

theorem balanced_snd (count : Nat) (tens : Int) (quarters : Nat) (twos : Int) :
    ((balanced count tens quarters twos).2 : ℚ) =
      magnitude quarters twos * (10 ^ (-tens).toNat * 2 ^ (-twos).toNat) := by
  change ((quarters * 2 ^ twos.toNat * 10 ^ (-tens).toNat : Nat) : ℚ) = _
  push_cast
  rw [pow_toNat (by norm_num) twos, magnitude]
  ring

theorem balanced_le_iff (count : Nat) (tens : Int) (quarters : Nat) (twos : Int) :
    (balanced count tens quarters twos).1 ≤ (balanced count tens quarters twos).2 ↔
      Scaled.value ⟨count, tens⟩ ≤ magnitude quarters twos := by
  have factor : (0 : ℚ) < 10 ^ (-tens).toNat * 2 ^ (-twos).toNat := by positivity
  rw [← @Nat.cast_le ℚ, balanced_fst, balanced_snd, mul_le_mul_iff_left₀ factor]

theorem balanced_ge_iff (count : Nat) (tens : Int) (quarters : Nat) (twos : Int) :
    (balanced count tens quarters twos).2 ≤ (balanced count tens quarters twos).1 ↔
      magnitude quarters twos ≤ Scaled.value ⟨count, tens⟩ := by
  have factor : (0 : ℚ) < 10 ^ (-tens).toNat * 2 ^ (-twos).toNat := by positivity
  rw [← @Nat.cast_le ℚ, balanced_fst, balanced_snd, mul_le_mul_iff_left₀ factor]

theorem Interval.holds_iff (interval : Interval) (exponent : Int) (count : Nat) (tens : Int) :
    interval.holds exponent count tens = true ↔
      interval.Contains exponent (Scaled.value ⟨count, tens⟩) := by
  have lower := balanced_ge_iff count tens interval.lower (exponent - 2)
  have upper := balanced_le_iff count tens interval.upper (exponent - 2)
  have above := (balanced_le_iff count tens interval.lower (exponent - 2)).not
  have below := (balanced_ge_iff count tens interval.upper (exponent - 2)).not
  rw [not_le, not_le] at above below
  unfold Interval.holds Interval.Contains
  simp only
  split
  · rw [Bool.and_eq_true, decide_eq_true_eq, decide_eq_true_eq]
    exact and_congr lower upper
  · rw [Bool.and_eq_true, decide_eq_true_eq, decide_eq_true_eq]
    exact and_congr above below

theorem gridValue_cast (mantissa : Nat) (exponent tens : Int) :
    (gridValue mantissa exponent tens : ℚ) =
      magnitude mantissa exponent * (10 ^ (-tens).toNat * 2 ^ (-exponent).toNat) := by
  change ((mantissa * 2 ^ exponent.toNat * 10 ^ (-tens).toNat : Nat) : ℚ) = _
  push_cast
  rw [pow_toNat (by norm_num) exponent, magnitude]
  ring

theorem gridSpacing_cast (exponent tens : Int) :
    (gridSpacing exponent tens : ℚ) =
      10 ^ tens * (10 ^ (-tens).toNat * 2 ^ (-exponent).toNat) := by
  change ((10 ^ tens.toNat * 2 ^ (-exponent).toNat : Nat) : ℚ) = _
  push_cast
  rw [pow_toNat (by norm_num) tens]
  ring

theorem grid_bounds (mantissa : Nat) (exponent tens : Int) :
    let below := gridValue mantissa exponent tens / gridSpacing exponent tens
    Scaled.value ⟨below, tens⟩ ≤ magnitude mantissa exponent ∧
      magnitude mantissa exponent < Scaled.value ⟨below + 1, tens⟩ := by
  intro below
  have factor : (0 : ℚ) < 10 ^ (-tens).toNat * 2 ^ (-exponent).toNat := by positivity
  have spacing : 0 < gridSpacing exponent tens :=
    Nat.mul_pos (Nat.pow_pos (by decide)) (Nat.two_pow_pos _)
  have lower : ((below * gridSpacing exponent tens : Nat) : ℚ) ≤ gridValue mantissa exponent tens :=
    Nat.cast_le.2 (Nat.div_mul_le_self _ _)
  have upper : (gridValue mantissa exponent tens : ℚ) <
      (((below + 1) * gridSpacing exponent tens : Nat) : ℚ) :=
    Nat.cast_lt.2 (Nat.lt_mul_of_div_lt (Nat.lt_succ_self _) spacing)
  rw [Nat.cast_mul, gridSpacing_cast, gridValue_cast] at lower upper
  constructor
  · apply le_of_mul_le_mul_right _ factor
    rw [Scaled.value, mul_assoc]
    exact lower
  · apply lt_of_mul_lt_mul_right _ factor.le
    rw [Scaled.value, mul_assoc]
    exact upper

theorem pow_leadingExponent_le (positive : 0 < mantissa) (exponent : Int) :
    (10 : ℚ) ^ leadingExponent mantissa exponent ≤ magnitude mantissa exponent := by
  have dividendPositive : 0 < mantissa * Nat.pow 2 exponent.toNat :=
    Nat.mul_pos positive (Nat.two_pow_pos _)
  have divisorPositive : 0 < Nat.pow 2 (-exponent).toNat := Nat.two_pow_pos _
  have size : magnitude mantissa exponent =
      ((mantissa * Nat.pow 2 exponent.toNat : Nat) : ℚ) / (Nat.pow 2 (-exponent).toNat : Nat) := by
    change _ = ((mantissa * 2 ^ exponent.toNat : Nat) : ℚ) / (2 ^ (-exponent).toNat : Nat)
    push_cast
    rw [pow_toNat (by norm_num) exponent, ← mul_assoc, mul_div_cancel_right₀ _ (by positivity)]
    rfl
  rw [size]
  unfold leadingExponent
  simp only
  generalize mantissa * Nat.pow 2 exponent.toNat = dividend at dividendPositive ⊢
  generalize Nat.pow 2 (-exponent).toNat = divisor at divisorPositive ⊢
  have divisorSize : (0 : ℚ) < divisor := by exact_mod_cast divisorPositive
  rw [le_div_iff₀ divisorSize]
  by_cases large : divisor ≤ dividend
  · rw [if_pos large]
    have whole : 0 < dividend / divisor := Nat.div_pos large divisorPositive
    have counted := digitCount_pos (dividend / divisor)
    have least : 10 ^ (digitCount (dividend / divisor) - 1) * divisor ≤ dividend :=
      (Nat.le_div_iff_mul_le divisorPositive).1 (pow_digitCount_le whole)
    have place : (digitCount (dividend / divisor) : Int) - 1 =
        (digitCount (dividend / divisor) - 1 : Nat) := by omega
    rw [place, zpow_natCast]
    exact_mod_cast least
  · rw [if_neg large]
    have most : (divisor - 1) / dividend < 10 ^ digitCount ((divisor - 1) / dividend) :=
      lt_pow_digitCount _
    have scaled := (Nat.div_lt_iff_lt_mul dividendPositive).1 most
    have inverse : divisor ≤ dividend * 10 ^ digitCount ((divisor - 1) / dividend) := by
      rw [Nat.mul_comm dividend]
      omega
    rw [zpow_neg, zpow_natCast, inv_mul_le_iff₀ (by positivity), mul_comm]
    exact_mod_cast inverse

theorem Interval.contains_of_lt {interval : Interval} {value : ℚ}
    (lower : magnitude interval.lower (exponent - 2) < value)
    (upper : value < magnitude interval.upper (exponent - 2)) :
    interval.Contains exponent value := by
  unfold Contains
  split
  · exact ⟨lower.le, upper.le⟩
  · exact ⟨lower, upper⟩

/-- Half a step of a grid of seventeen digits is shorter than the way to either end of the interval. -/
theorem InFormat.halfStep_lt (format : InFormat mantissa exponent) (positive : 0 < mantissa)
    (fine : 10 ^ 16 * (10 : ℚ) ^ tens ≤ magnitude mantissa exponent) :
    magnitude (Interval.around mantissa exponent).lower (exponent - 2) + 10 ^ tens / 2 <
        magnitude mantissa exponent ∧
      magnitude mantissa exponent + 10 ^ tens / 2 <
        magnitude (Interval.around mantissa exponent).upper (exponent - 2) := by
  have units : ∀ count : Nat, magnitude count (exponent - 2) = count * magnitude 1 (exponent - 2) := by
    intro count
    rw [magnitude, magnitude, Nat.cast_one, one_mul]
  have unit : 0 < magnitude 1 (exponent - 2) := by
    rw [← magnitude_zero, magnitude_lt_iff]
    exact Nat.zero_lt_one
  have most : magnitude (4 * mantissa) (exponent - 2) ≤
      magnitude (4 * 2 ^ 53) (exponent - 2) :=
    magnitude_le_iff.2 (Nat.mul_le_mul_left 4 format.narrow.le)
  rw [magnitude_quarters mantissa] at fine ⊢
  constructor
  · by_cases lowest : mantissa = leastNormal ∧ leastExponent < exponent
    -- Below a power of two the way is half as long, but such a number is smaller for its unit, too.
    · have lower : magnitude (4 * mantissa) (exponent - 2) =
          magnitude (Interval.around mantissa exponent).lower (exponent - 2) +
            magnitude 1 (exponent - 2) := by
        have quarters : (Interval.around mantissa exponent).lower = 4 * mantissa - 1 :=
          if_pos lowest
        rw [quarters, ← magnitude_sum, Nat.sub_add_cancel (by omega)]
      have power : magnitude (4 * mantissa) (exponent - 2) =
          magnitude (4 * 2 ^ 52) (exponent - 2) := by
        rw [lowest.1]
        rfl
      rw [units (4 * 2 ^ 52)] at power
      push_cast at power
      linarith
    · have lower : magnitude (4 * mantissa) (exponent - 2) =
          magnitude (Interval.around mantissa exponent).lower (exponent - 2) +
            magnitude 2 (exponent - 2) := by
        have quarters : (Interval.around mantissa exponent).lower = 4 * mantissa - 2 :=
          if_neg lowest
        rw [quarters, ← magnitude_sum, Nat.sub_add_cancel (by omega)]
      rw [units (4 * 2 ^ 53)] at most
      rw [units 2] at lower
      push_cast at most lower
      linarith
  · have upper : magnitude (Interval.around mantissa exponent).upper (exponent - 2) =
        magnitude (4 * mantissa) (exponent - 2) + magnitude 2 (exponent - 2) :=
      magnitude_sum (4 * mantissa) 2 (exponent - 2)
    rw [units (4 * 2 ^ 53)] at most
    rw [units 2] at upper
    push_cast at most upper
    linarith

/-- On a grid of seventeen digits one of the points beside a number lies in its interval. -/
theorem InFormat.exists_within (format : InFormat mantissa exponent) (positive : 0 < mantissa)
    (fine : 10 ^ 16 * (10 : ℚ) ^ tens ≤ magnitude mantissa exponent) {below : Nat}
    (lower : Scaled.value ⟨below, tens⟩ ≤ magnitude mantissa exponent)
    (upper : magnitude mantissa exponent < Scaled.value ⟨below + 1, tens⟩) :
    (below ≠ 0 ∧ (Interval.around mantissa exponent).Contains exponent (Scaled.value ⟨below, tens⟩)) ∨
      (Interval.around mantissa exponent).Contains exponent (Scaled.value ⟨below + 1, tens⟩) := by
  obtain ⟨toLower, toUpper⟩ := format.halfStep_lt positive fine
  have step : (0 : ℚ) < 10 ^ tens := by positivity
  have next : Scaled.value ⟨below + 1, tens⟩ = Scaled.value ⟨below, tens⟩ + 10 ^ tens := by
    simp only [Scaled.value, Nat.cast_add, Nat.cast_one]
    ring
  rw [next] at upper ⊢
  by_cases nearer : magnitude mantissa exponent - Scaled.value ⟨below, tens⟩ ≤ 10 ^ tens / 2
  · refine .inl ⟨?_, Interval.contains_of_lt (by linarith) (by linarith)⟩
    rintro rfl
    simp only [Scaled.value, Nat.cast_zero, zero_mul] at nearer
    linarith
  · exact .inr (Interval.contains_of_lt (by linarith) (by linarith))

/-- The search for the shortest decimal succeeds at seventeen digits. -/
theorem isSome_gridPoint? (tie : Tie) (format : InFormat mantissa exponent) (positive : 0 < mantissa) :
    (gridPoint? tie mantissa exponent (leadingExponent mantissa exponent + 1 - (17 : Nat))).isSome =
      true := by
  have fine : 10 ^ 16 * (10 : ℚ) ^ (leadingExponent mantissa exponent + 1 - (17 : Nat)) ≤
      magnitude mantissa exponent := by
    have shift : leadingExponent mantissa exponent =
        (16 : Nat) + (leadingExponent mantissa exponent + 1 - (17 : Nat)) := by omega
    have least := pow_leadingExponent_le positive exponent
    rw [shift, zpow_add₀ (by norm_num), zpow_natCast] at least
    exact least
  obtain ⟨lower, upper⟩ := grid_bounds mantissa exponent
    (leadingExponent mantissa exponent + 1 - (17 : Nat))
  have within := format.exists_within positive fine lower upper
  rw [← Interval.holds_iff, ← Interval.holds_iff] at within
  unfold gridValue gridSpacing at within
  unfold gridPoint?
  simp only
  generalize mantissa * Nat.pow 2 exponent.toNat *
      Nat.pow 10 (-(leadingExponent mantissa exponent + 1 - (17 : Nat))).toNat /
    (Nat.pow 10 (leadingExponent mantissa exponent + 1 - (17 : Nat)).toNat *
      Nat.pow 2 (-exponent).toNat) = below at within ⊢
  split
  · rfl
  split
  · rfl
  split
  · rfl
  · rename_i notBelow notAbove
    rcases within with ⟨nonzero, holds⟩ | holds
    · rw [holds, Bool.and_true] at notBelow
      exact absurd (bne_iff_ne.2 nonzero) notBelow
    · exact absurd holds notAbove

theorem Scaled.value_trimmed (fuel : Nat) (decimal : Scaled) :
    (decimal.trimmed fuel).value = decimal.value := by
  obtain ⟨count, digits, exponent⟩ := decimal.trimmed_shifts fuel
  unfold value
  rw [exponent, zpow_add₀ (by norm_num), zpow_natCast, ← digits]
  push_cast
  ring

theorem contains_shortestFrom (tie : Tie) (format : InFormat mantissa exponent)
    (positive : 0 < mantissa) {counts : List Nat} (enough : 17 ∈ counts) :
    (Interval.around mantissa exponent).Contains exponent
      (shortestFrom tie mantissa exponent (leadingExponent mantissa exponent) counts).value := by
  induction counts with
  | nil => cases enough
  | cons count more ih =>
    unfold shortestFrom
    simp only
    split
    · rename_i digits found
      rw [Scaled.value_trimmed, ← Interval.holds_iff]
      exact (gridPoint?_some found).2
    · rename_i missed
      rcases List.mem_cons.1 enough with rfl | later
      · have found := isSome_gridPoint? tie format positive
        rw [missed] at found
        cases found
      · exact ih later

/-- The shortest decimal of a finite number is rounded to it. -/
theorem roundsTo_shortestSize (tie : Tie) (format : InFormat mantissa exponent) (negative : Bool) :
    RoundsTo (signed negative (shortestSize tie mantissa exponent).value)
      (.finite negative mantissa exponent) := by
  rcases Nat.eq_zero_or_pos mantissa with rfl | positive
  · have zero : (shortestSize tie 0 exponent).value = 0 := by
      change ((0 : Nat) : ℚ) * 10 ^ (0 : Int) = 0
      rw [Nat.cast_zero, zero_mul]
    rw [zero]
    exact roundsTo_zero negative exponent
  · unfold shortestSize
    rw [if_neg (Nat.ne_of_gt positive)]
    exact roundsTo_of_contains format positive
      (contains_shortestFrom tie format positive (by decide)) negative

end Grid

end RhythmBot.Decimal
