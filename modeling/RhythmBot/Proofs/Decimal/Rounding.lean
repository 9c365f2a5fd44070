import Mathlib.Algebra.Ring.Nat
import RhythmBot.Decimal.Fixed
/-!
Rounding positive numbers to mantissas of 53 bits, a half to the even one. A number is a whole one times
a power of two, taken wide enough not to lose bits below the mantissa. Main statement: rounding keeps
the order of sizes.
-/

namespace RhythmBot.Decimal

theorem roundQuotient_one (size : Nat) : roundQuotient size 1 = size := by
  unfold roundQuotient
  simp only [Nat.div_one, Nat.mod_one, Nat.mul_zero, Nat.zero_lt_one, if_true]

theorem roundQuotient_mul (dividend divisor : Nat) {factor : Nat} (positive : 0 < factor) :
    roundQuotient (dividend * factor) (divisor * factor) = roundQuotient dividend divisor := by
  have twice : 2 * (dividend % divisor * factor) = 2 * (dividend % divisor) * factor :=
    (Nat.mul_assoc ..).symm
  unfold roundQuotient
  simp only [Nat.mul_div_mul_right _ _ positive, Nat.mul_mod_mul_right, twice,
    Nat.mul_lt_mul_right positive]

theorem roundQuotient_mono {first second divisor : Nat} (positive : 0 < divisor)
    (le : first ≤ second) : roundQuotient first divisor ≤ roundQuotient second divisor := by
  rcases Nat.eq_or_lt_of_le le with rfl | lt
  · exact Nat.le_refl _
  · apply Nat.le_of_not_lt
    intro greater
    have apart : roundQuotient second divisor + 1 ≤ roundQuotient first divisor := greater
    have upper := (roundQuotient_near first divisor positive).2
    have lower := (roundQuotient_near second divisor positive).1
    have scaled := Nat.mul_le_mul_left divisor apart
    rw [Nat.mul_add, Nat.mul_one] at scaled
    omega

def Wide (size : Nat) : Prop := 52 ≤ size.log2

theorem Wide.ne_zero {size : Nat} (wide : Wide size) : size ≠ 0 := by
  rintro rfl
  unfold Wide at wide
  exact absurd wide (by decide)

theorem wide_of_le {size : Nat} (large : 2 ^ 52 ≤ size) : Wide size := by
  have nonzero : size ≠ 0 := by
    rintro rfl
    exact absurd large (by decide)
  exact (Nat.le_log2 nonzero).2 large

theorem log2_mul_two_pow {size : Nat} (nonzero : size ≠ 0) (count : Nat) :
    (size * 2 ^ count).log2 = size.log2 + count := by
  have scaled : size * 2 ^ count ≠ 0 := Nat.mul_ne_zero nonzero (Nat.ne_of_gt (Nat.two_pow_pos count))
  have lower := Nat.mul_le_mul_right (2 ^ count) (Nat.log2_self_le nonzero)
  have upper := Nat.mul_lt_mul_of_pos_right (Nat.lt_log2_self (n := size)) (Nat.two_pow_pos count)
  rw [← Nat.pow_add] at lower upper
  have least := (Nat.le_log2 scaled).2 lower
  have most := (Nat.log2_lt scaled).2 upper
  omega

def excess (size : Nat) : Nat := size.log2 - 52

theorem Wide.bounds {size : Nat} (wide : Wide size) :
    2 ^ 52 * 2 ^ excess size ≤ size ∧ size ≤ 2 ^ 53 * 2 ^ excess size := by
  have bits : 52 + excess size = size.log2 := Nat.add_sub_cancel' wide
  have more : 53 + excess size = size.log2 + 1 := by omega
  rw [← Nat.pow_add, ← Nat.pow_add, bits, more]
  exact ⟨Nat.log2_self_le wide.ne_zero, Nat.le_of_lt Nat.lt_log2_self⟩

/-- The first 53 bits rounded. They may come to one more bit. -/
def leadingBits (size : Nat) : Nat := roundQuotient size (2 ^ excess size)

theorem Wide.leadingBits_bounds {size : Nat} (wide : Wide size) :
    2 ^ 52 ≤ leadingBits size ∧ leadingBits size ≤ 2 ^ 53 := by
  have positive := Nat.two_pow_pos (excess size)
  have exact : ∀ mantissa, roundQuotient (mantissa * 2 ^ excess size) (2 ^ excess size) =
      mantissa := by
    intro mantissa
    have reduced := roundQuotient_mul mantissa 1 positive
    rw [Nat.one_mul, roundQuotient_one] at reduced
    exact reduced
  have lower := roundQuotient_mono positive wide.bounds.1
  have upper := roundQuotient_mono positive wide.bounds.2
  rw [exact] at lower upper
  exact ⟨lower, upper⟩

def nearest (size : Nat) (exponent : Int) : Nat × Int :=
  if leadingBits size < 2 ^ 53 then (leadingBits size, exponent + excess size)
  else (2 ^ 52, exponent + excess size + 1)

theorem Wide.nearest_mantissa {size : Nat} (wide : Wide size) (exponent : Int) :
    2 ^ 52 ≤ (nearest size exponent).1 ∧ (nearest size exponent).1 < 2 ^ 53 := by
  unfold nearest
  split
  · rename_i within
    exact ⟨wide.leadingBits_bounds.1, within⟩
  · exact ⟨Nat.le_refl _, Nat.pow_lt_pow_right (by decide) (by decide)⟩

/-- How a wide number is written does not matter. -/
theorem Wide.nearest_scaled {size : Nat} (wide : Wide size) (exponent : Int) (count : Nat) :
    nearest (size * 2 ^ count) (exponent - count) = nearest size exponent := by
  have bits : excess (size * 2 ^ count) = excess size + count := by
    unfold excess
    rw [log2_mul_two_pow wide.ne_zero]
    exact Nat.sub_add_comm wide
  have rounded : leadingBits (size * 2 ^ count) = leadingBits size := by
    unfold leadingBits
    rw [bits, Nat.pow_add, roundQuotient_mul _ _ (Nat.two_pow_pos count)]
  have place : exponent - count + ((excess size + count : Nat) : Int) = exponent + excess size := by
    omega
  unfold nearest
  rw [rounded, bits, place]

/-- A mantissa and an exponent not above others, as numbers of 53 bits are compared. -/
def Precedes (first second : Nat × Int) : Prop :=
  first.2 < second.2 ∨ first.2 = second.2 ∧ first.1 ≤ second.1

theorem nearest_precedes {first second : Nat} (wide : Wide first) (le : first ≤ second)
    (exponent : Int) : Precedes (nearest first exponent) (nearest second exponent) := by
  have nonzero : second ≠ 0 := by
    have positive := Nat.pos_of_ne_zero wide.ne_zero
    omega
  have longer : first.log2 ≤ second.log2 :=
    (Nat.le_log2 nonzero).2 (Nat.le_trans (Nat.log2_self_le wide.ne_zero) le)
  have wideSecond : Wide second := Nat.le_trans wide longer
  have firstBounds := wide.leadingBits_bounds
  have secondBounds := wideSecond.leadingBits_bounds
  rcases Nat.eq_or_lt_of_le longer with same | shorter
  -- With as many bits, the rounded ones decide.
  · have bits : excess first = excess second := by
      unfold excess
      rw [same]
    have ordered : leadingBits first ≤ leadingBits second := by
      unfold leadingBits
      rw [bits]
      exact roundQuotient_mono (Nat.two_pow_pos _) le
    unfold Precedes nearest
    rw [bits]
    split <;> split
    · exact .inr ⟨rfl, ordered⟩
    · exact .inl (by simp only; omega)
    · omega
    · exact .inr ⟨rfl, Nat.le_refl _⟩
  · have bits : excess first + 1 ≤ excess second := by
      have least : 52 ≤ first.log2 := wide
      unfold excess
      omega
    unfold Precedes nearest
    split <;> split <;> simp only
    all_goals omega

/-- A product with the smaller of two numbers of 53 bits, written with the same exponent as that with
the larger one, is not larger. -/
theorem Precedes.product_le {first second : Nat × Int} (precedes : Precedes first second)
    (narrow : first.1 < 2 ^ 53) (wide : 2 ^ 52 ≤ second.1) (factor : Nat) :
    ∃ count : Nat, second.2 = first.2 + count ∧
      first.1 * factor ≤ second.1 * factor * 2 ^ count := by
  rcases precedes with less | ⟨same, le⟩
  · refine ⟨(second.2 - first.2).toNat, by omega, ?_⟩
    have twice : 2 ≤ 2 ^ (second.2 - first.2).toNat := by
      have once : 1 ≤ (second.2 - first.2).toNat := by omega
      calc 2 = 2 ^ 1 := rfl
        _ ≤ 2 ^ (second.2 - first.2).toNat := Nat.pow_le_pow_right (by decide) once
    calc first.1 * factor ≤ second.1 * 2 * factor :=
          Nat.mul_le_mul_right factor (by omega)
      _ = second.1 * factor * 2 := Nat.mul_right_comm ..
      _ ≤ second.1 * factor * 2 ^ (second.2 - first.2).toNat := Nat.mul_le_mul_left _ twice
  · refine ⟨0, by omega, ?_⟩
    rw [Nat.pow_zero, Nat.mul_one]
    exact Nat.mul_le_mul_right factor le

/-- The larger of two factors has the product with the larger exponent. -/
theorem Precedes.nearest_product {first second : Nat × Int} (precedes : Precedes first second)
    (firstNarrow : first.1 < 2 ^ 53) (firstWide : 2 ^ 52 ≤ first.1) (secondWide : 2 ^ 52 ≤ second.1)
    {factor : Nat} (positive : 0 < factor) (exponent : Int) :
    (nearest (first.1 * factor) (first.2 + exponent)).2 ≤
      (nearest (second.1 * factor) (second.2 + exponent)).2 := by
  obtain ⟨count, place, le⟩ := precedes.product_le firstNarrow secondWide factor
  have wideFirst : Wide (first.1 * factor) :=
    wide_of_le (Nat.le_trans firstWide (Nat.le_mul_of_pos_right _ positive))
  have wideSecond : Wide (second.1 * factor) :=
    wide_of_le (Nat.le_trans secondWide (Nat.le_mul_of_pos_right _ positive))
  have scaled := wideSecond.nearest_scaled (second.2 + exponent) count
  have moved : second.2 + exponent - count = first.2 + exponent := by omega
  rw [moved] at scaled
  rw [← scaled]
  rcases nearest_precedes wideFirst le (first.2 + exponent) with less | ⟨same, _⟩
  · exact Int.le_of_lt less
  · exact Int.le_of_eq same

end RhythmBot.Decimal
