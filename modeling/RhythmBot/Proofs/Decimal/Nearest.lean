import Mathlib.Tactic.NormNum
import Mathlib.Tactic.Positivity
import Mathlib.Tactic.Ring
import RhythmBot.Proofs.Decimal.Fixed
import RhythmBot.Proofs.Decimal.Shortest
/-!
Which number a decimal value stands for. Main statement: of all finite numbers the one that a shortest
decimal is written for is nearest to its exact value, and if another one is as near, has the even
mantissa.
-/

namespace RhythmBot.Decimal

/-- The parts of the finite numbers. Only with the least exponent a mantissa has less than 53 bits. -/
structure InFormat (mantissa : Nat) (exponent : Int) : Prop where
  narrow : mantissa < 2 ^ 53
  least : leastExponent ≤ exponent
  normal : leastNormal ≤ mantissa ∨ exponent = leastExponent

def signed (negative : Bool) (size : ℚ) : ℚ := if negative then -size else size

def finiteValue? (x : Float) : Option ℚ :=
  match Binary.ofFloat x with
  | .finite negative mantissa exponent => some (signed negative (magnitude mantissa exponent))
  | _ => none

/-- A value is rounded to a number: no finite number is nearer, and where another one is as near, this
one has the even mantissa. -/
inductive RoundsTo (value : ℚ) : Binary → Prop
  | finite {negative : Bool} {mantissa : Nat} {exponent : Int} :
      (∀ (y : Float) (other : ℚ), finiteValue? y = some other →
        |value - signed negative (magnitude mantissa exponent)| ≤ |value - other|) →
      (∀ (y : Float) (other : ℚ), finiteValue? y = some other →
        other ≠ signed negative (magnitude mantissa exponent) →
        |value - signed negative (magnitude mantissa exponent)| = |value - other| →
        mantissa % 2 = 0) →
      RoundsTo value (.finite negative mantissa exponent)

theorem Binary.inFormat_of_ofFloat {x : Float} {negative : Bool} {mantissa : Nat} {exponent : Int}
    (parts : Binary.ofFloat x = .finite negative mantissa exponent) : InFormat mantissa exponent := by
  have fraction : x.toBits.toNat % leastNormal < leastNormal := Nat.mod_lt _ (by decide)
  have normal : leastNormal = 2 ^ 52 := rfl
  unfold Binary.ofFloat Binary.ofBits at parts
  simp only at parts
  split at parts
  · split at parts <;> cases parts
  split at parts
  · cases parts
    exact ⟨by omega, Int.le_refl _, .inr rfl⟩
  · cases parts
    exact ⟨by omega, by omega, .inl (Nat.le_add_right _ _)⟩

section Magnitudes

variable {mantissa other : Nat} {exponent place : Int}

theorem magnitude_add (mantissa : Nat) (exponent : Int) (count : Nat) :
    magnitude mantissa (exponent + count) = magnitude (mantissa * 2 ^ count) exponent := by
  unfold magnitude
  rw [zpow_add₀ (by norm_num), zpow_natCast]
  push_cast
  ring

theorem magnitude_le_iff : magnitude mantissa exponent ≤ magnitude other exponent ↔
    mantissa ≤ other := by
  have unit : (0 : ℚ) < 2 ^ exponent := by positivity
  unfold magnitude
  rw [mul_le_mul_iff_left₀ unit, Nat.cast_le]

theorem magnitude_lt_iff : magnitude mantissa exponent < magnitude other exponent ↔
    mantissa < other := by
  rw [← not_le, magnitude_le_iff, Nat.not_le]

theorem magnitude_quarters (mantissa : Nat) (exponent : Int) :
    magnitude mantissa exponent = magnitude (4 * mantissa) (exponent - 2) := by
  have shifted := magnitude_add mantissa (exponent - 2) 2
  rw [Nat.cast_ofNat, sub_add_cancel] at shifted
  rw [shifted, Nat.mul_comm]
  rfl

theorem magnitude_sum (first second : Nat) (exponent : Int) :
    magnitude (first + second) exponent = magnitude first exponent + magnitude second exponent := by
  unfold magnitude
  push_cast
  ring

theorem magnitude_quarters_add (mantissa : Nat) (exponent : Int) (count : Nat) :
    magnitude mantissa (exponent + count - 2) = magnitude (mantissa * 2 ^ count) (exponent - 2) := by
  have moved : exponent + count - 2 = exponent - 2 + count := by ring
  rw [moved, magnitude_add]

/-- Either the second number is a multiple of the unit of the first, or its unit is finer and the first
has all bits. -/
theorem InFormat.units (first : InFormat mantissa exponent) (second : InFormat other place) :
    (∃ count : Nat, place = exponent + count) ∨
      leastNormal ≤ mantissa ∧ leastExponent < exponent ∧
        ∃ count : Nat, exponent = place + (count + 1 : Nat) := by
  rcases le_or_gt exponent place with coarse | fine
  · exact .inl ⟨(place - exponent).toNat, by omega⟩
  · have least := second.least
    exact .inr ⟨first.normal.resolve_right (by omega), by omega,
      (exponent - place - 1).toNat, by omega⟩

theorem two_le_two_pow (count : Nat) : 2 ≤ 2 ^ (count + 1) := by
  have positive := Nat.two_pow_pos count
  rw [Nat.pow_succ]
  omega

/-- A number above another one is not below the upper end of the interval by less than that one is. -/
theorem InFormat.upper_le (first : InFormat mantissa exponent) (second : InFormat other place)
    (less : magnitude mantissa exponent < magnitude other place) :
    2 * magnitude (Interval.around mantissa exponent).upper (exponent - 2) ≤
      magnitude mantissa exponent + magnitude other place := by
  rcases first.units second with ⟨count, rfl⟩ | ⟨normal, _, count, rfl⟩
  · rw [magnitude_add, magnitude_lt_iff] at less
    rw [magnitude_add, magnitude_quarters mantissa, magnitude_quarters (other * 2 ^ count), two_mul,
      ← magnitude_sum, ← magnitude_sum, magnitude_le_iff]
    change 4 * mantissa + 2 + (4 * mantissa + 2) ≤ 4 * mantissa + 4 * (other * 2 ^ count)
    omega
  · rw [magnitude_add, magnitude_lt_iff] at less
    have narrow := second.narrow
    have wide : leastNormal * 2 ≤ mantissa * 2 ^ (count + 1) :=
      Nat.mul_le_mul normal (two_le_two_pow count)
    have bits : leastNormal = 2 ^ 52 := rfl
    omega

/-- A number below another one is not above the lower end of the interval by less than that one is. -/
theorem InFormat.le_lower (first : InFormat mantissa exponent) (second : InFormat other place)
    (less : magnitude other place < magnitude mantissa exponent) :
    magnitude mantissa exponent + magnitude other place ≤
      2 * magnitude (Interval.around mantissa exponent).lower (exponent - 2) := by
  have bits : leastNormal = 2 ^ 52 := rfl
  rcases first.units second with ⟨count, rfl⟩ | ⟨normal, above, count, rfl⟩
  · rw [magnitude_add, magnitude_lt_iff] at less
    rw [magnitude_add, magnitude_quarters mantissa, magnitude_quarters (other * 2 ^ count), two_mul,
      ← magnitude_sum, ← magnitude_sum, magnitude_le_iff]
    unfold Interval.around
    simp only
    split <;> omega
  -- The other number has at most half of the unit, and no more bits than the first one.
  · have narrow := second.narrow
    have twice := two_le_two_pow count
    rw [magnitude_add, magnitude_quarters (mantissa * 2 ^ (count + 1)), magnitude_quarters other,
      magnitude_quarters_add, two_mul, ← magnitude_sum, ← magnitude_sum, magnitude_le_iff]
    unfold Interval.around
    simp only
    generalize 2 ^ (count + 1) = power at twice ⊢
    split
    · rename_i lowest
      rw [lowest.1, bits]
      omega
    · rename_i higher
      have more : leastNormal + 1 ≤ mantissa := by
        have other : mantissa ≠ leastNormal := fun same => higher ⟨same, above⟩
        omega
      have scaled : (leastNormal + 1) * power ≤ mantissa * power := Nat.mul_le_mul_right power more
      rw [bits] at scaled
      rw [Nat.sub_mul, Nat.mul_assoc]
      omega

end Magnitudes

def Interval.Contains (interval : Interval) (exponent : Int) (value : ℚ) : Prop :=
  if interval.closed then
    magnitude interval.lower (exponent - 2) ≤ value ∧
      value ≤ magnitude interval.upper (exponent - 2)
  else
    magnitude interval.lower (exponent - 2) < value ∧
      value < magnitude interval.upper (exponent - 2)

section Distances

variable {value own other : ℚ}

theorem near_of_lt (less : own < other) (below : 2 * value ≤ own + other) :
    |value - own| ≤ |value - other| ∧
      (|value - own| = |value - other| → 2 * value = own + other) := by
  have far : |value - other| = other - value := by
    rw [abs_sub_comm]
    exact abs_of_pos (by linarith)
  rw [far]
  refine ⟨abs_le.2 ⟨by linarith, by linarith⟩, fun same => ?_⟩
  rcases abs_choice (value - own) with up | down
  · linarith
  · linarith

theorem near_of_gt (greater : other < own) (above : own + other ≤ 2 * value) :
    |value - own| ≤ |value - other| ∧
      (|value - own| = |value - other| → 2 * value = own + other) := by
  have mirrored := @near_of_lt (-value) (-own) (-other) (by linarith) (by linarith)
  rw [neg_sub_neg, neg_sub_neg, abs_sub_comm own, abs_sub_comm other] at mirrored
  exact ⟨mirrored.1, fun same => by linarith [mirrored.2 same]⟩

end Distances

section Rounding

variable {mantissa other : Nat} {exponent place : Int} {value : ℚ}

theorem Interval.Contains.bounds {interval : Interval}
    (contained : interval.Contains exponent value) :
    magnitude interval.lower (exponent - 2) ≤ value ∧
      value ≤ magnitude interval.upper (exponent - 2) := by
  unfold Contains at contained
  split at contained
  · exact contained
  · exact ⟨contained.1.le, contained.2.le⟩

theorem Interval.Contains.even
    (contained : (Interval.around mantissa exponent).Contains exponent value)
    (bound : value = magnitude (Interval.around mantissa exponent).lower (exponent - 2) ∨
      value = magnitude (Interval.around mantissa exponent).upper (exponent - 2)) :
    mantissa % 2 = 0 := by
  unfold Contains at contained
  split at contained
  · rename_i closed
    exact beq_iff_eq.1 closed
  · rcases bound with lower | upper
    · exact absurd lower contained.1.ne'
    · exact absurd upper contained.2.ne

/-- No number of the format is nearer to a value in the interval around one. -/
theorem InFormat.near (first : InFormat mantissa exponent) (second : InFormat other place)
    (contained : (Interval.around mantissa exponent).Contains exponent value) :
    |value - magnitude mantissa exponent| ≤ |value - magnitude other place| ∧
      (magnitude other place ≠ magnitude mantissa exponent →
        |value - magnitude mantissa exponent| = |value - magnitude other place| →
        mantissa % 2 = 0) := by
  obtain ⟨lower, upper⟩ := contained.bounds
  rcases lt_trichotomy (magnitude mantissa exponent) (magnitude other place) with
    less | same | greater
  · have end_le := first.upper_le second less
    obtain ⟨near, tie⟩ := @near_of_lt value _ _ less (by linarith)
    refine ⟨near, fun _ equal => contained.even (.inr ?_)⟩
    linarith [tie equal]
  · rw [same]
    exact ⟨le_rfl, fun different => absurd rfl different⟩
  · have le_end := first.le_lower second greater
    obtain ⟨near, tie⟩ := @near_of_gt value _ _ greater (by linarith)
    refine ⟨near, fun _ equal => contained.even (.inl ?_)⟩
    linarith [tie equal]

theorem signed_sub (negative : Bool) (first second : ℚ) :
    |signed negative first - signed negative second| = |first - second| := by
  cases negative with
  | false => rfl
  | true => simp only [signed, if_true, neg_sub_neg, abs_sub_comm]

theorem signed_sub_opposite {negative opposite : Bool} (other : opposite ≠ negative)
    {first second : ℚ} (firstSize : 0 ≤ first) (secondSize : 0 ≤ second) :
    |signed negative first - signed opposite second| = first + second := by
  cases negative <;> cases opposite
  · exact absurd rfl other
  · simp only [signed, Bool.false_eq_true, if_false, if_true, sub_neg_eq_add]
    exact abs_of_nonneg (add_nonneg firstSize secondSize)
  · simp only [signed, Bool.false_eq_true, if_false, if_true]
    rw [← abs_neg, neg_sub, sub_neg_eq_add, add_comm]
    exact abs_of_nonneg (add_nonneg firstSize secondSize)
  · exact absurd rfl other

theorem magnitude_nonneg (mantissa : Nat) (exponent : Int) : 0 ≤ magnitude mantissa exponent := by
  unfold magnitude
  positivity

theorem finiteValue?_eq_some {x : Float} {own : ℚ} (found : finiteValue? x = some own) :
    ∃ negative mantissa exponent, InFormat mantissa exponent ∧
      own = signed negative (magnitude mantissa exponent) := by
  unfold finiteValue? at found
  split at found
  · rename_i parts
    cases found
    exact ⟨_, _, _, Binary.inFormat_of_ofFloat parts, rfl⟩
  · cases found

theorem InFormat.zero : InFormat 0 leastExponent :=
  ⟨by decide, Int.le_refl _, .inr rfl⟩

theorem magnitude_zero (exponent : Int) : magnitude 0 exponent = 0 := by
  unfold magnitude
  rw [Nat.cast_zero, zero_mul]

theorem roundsTo_of_contains (format : InFormat mantissa exponent) (positive : 0 < mantissa)
    (contained : (Interval.around mantissa exponent).Contains exponent value) (negative : Bool) :
    RoundsTo (signed negative value) (.finite negative mantissa exponent) := by
  have size : 0 ≤ value := (magnitude_nonneg _ _).trans contained.bounds.1
  have key : ∀ (y : Float) (other : ℚ), finiteValue? y = some other →
      |signed negative value - signed negative (magnitude mantissa exponent)| ≤
          |signed negative value - other| ∧
        (other ≠ signed negative (magnitude mantissa exponent) →
          |signed negative value - signed negative (magnitude mantissa exponent)| =
            |signed negative value - other| → mantissa % 2 = 0) := by
    intro y other found
    obtain ⟨opposite, otherMantissa, place, otherFormat, rfl⟩ := finiteValue?_eq_some found
    have near := format.near otherFormat contained
    by_cases sameSign : opposite = negative
    · subst sameSign
      rw [signed_sub, signed_sub]
      refine ⟨near.1, fun different => near.2 fun same => different (congrArg _ same)⟩
    -- Zero lies between numbers of different signs.
    · have otherSize := magnitude_nonneg otherMantissa place
      have zero := format.near .zero contained
      rw [magnitude_zero, sub_zero, abs_of_nonneg size] at zero
      rw [signed_sub, signed_sub_opposite sameSign size otherSize]
      refine ⟨by linarith [zero.1], fun _ equal => zero.2 ?_ (by linarith [zero.1])⟩
      have unit : 0 < magnitude mantissa exponent := by
        rw [← magnitude_zero exponent, magnitude_lt_iff]
        exact positive
      exact unit.ne
  exact .finite (fun y other found => (key y other found).1)
    (fun y other found => (key y other found).2)

theorem roundsTo_zero (negative : Bool) (exponent : Int) :
    RoundsTo (signed negative 0) (.finite negative 0 exponent) := by
  constructor
  · intro y other _
    rw [magnitude_zero, sub_self, abs_zero]
    exact abs_nonneg _
  · intro _ _ _ _ _
    rfl

end Rounding

end RhythmBot.Decimal
