import RhythmBot.Proofs.Decimal.Grid
import RhythmBot.Proofs.Json.Finite
/-!
The exact decimal value of a literal. Main statement: the literal written for a finite number has its
sign, and a value that is rounded to it, whatever the reader makes of so many digits.
-/

namespace RhythmBot.Json

open RhythmBot.Decimal

def Literal.lastPlace (literal : Literal) : Int :=
  (match literal.exponent with
    | none => 0
    | some (down, digits) => if down then -(spelled digits : Int) else spelled digits) -
    literal.fraction.length

def Literal.exact (literal : Literal) : ℚ :=
  signed literal.negative (spelled (literal.whole ++ literal.fraction) * 10 ^ literal.lastPlace)

/-- A literal stands for a number: it has the sign of the number, and its exact value is rounded to
it. -/
structure Literal.StandsFor (literal : Literal) (x : Float) : Prop where
  sign : ∃ mantissa exponent, Binary.ofFloat x = .finite literal.negative mantissa exponent
  rounds : RoundsTo literal.exact (Binary.ofFloat x)

theorem Literal.exact_of {literal : Literal} {value : Scaled} {zeros : Nat}
    (digits : spelled (literal.whole ++ literal.fraction) = value.digits * 10 ^ zeros)
    (place : literal.lastPlace + zeros = value.exponent) :
    literal.exact = signed literal.negative value.value := by
  unfold exact Scaled.value
  rw [digits, ← place, zpow_add₀ (by norm_num), zpow_natCast]
  push_cast
  congr 1
  ring

theorem Literal.negative_ofScaled (negative : Bool) (value : Scaled) :
    (Literal.ofScaled negative value).negative = negative := by
  unfold ofScaled
  simp only
  split
  · rfl
  split
  · rfl
  split <;> rfl

theorem Literal.exact_ofScaled (negative : Bool) (value : Scaled) :
    (Literal.ofScaled negative value).exact = signed negative value.value := by
  have digits : appended 0 (digitsOf value.digits) = value.digits := spelled_digitsOf _
  have positive : 0 < (digitsOf value.digits).length :=
    List.length_pos_iff.2 (isRun_digitsOf value.digits).1
  unfold ofScaled
  simp only
  split
  · apply @exact_of _ value (value.exponent.toNat + 1)
    · change appended 0 (digitsOf value.digits ++ List.replicate value.exponent.toNat 0 ++ [0]) = _
      rw [appended_append, appended_append, digits, appended_zeros, Nat.pow_succ, ← Nat.mul_assoc,
        Nat.mul_comm _ 10]
      rfl
    · simp only [lastPlace, List.length_singleton]
      omega
  split
  · apply @exact_of _ value 0
    · rw [List.take_append_drop, Nat.pow_zero, Nat.mul_one]
      exact digits
    · simp only [lastPlace, List.length_drop]
      omega
  split
  · apply @exact_of _ value 0
    · change appended 0 ([0] ++ (List.replicate _ 0 ++ digitsOf value.digits)) = _
      have none : appended 0 [0] = 0 := rfl
      rw [appended_append, appended_append, none, appended_zeros, Nat.zero_mul, digits,
        Nat.pow_zero, Nat.mul_one]
    · simp only [lastPlace, List.length_append, List.length_replicate]
      omega
  · apply @exact_of _ value 0
    · rw [List.take_append_drop, Nat.pow_zero, Nat.mul_one]
      exact digits
    · simp only [lastPlace, spelled_digitsOf, List.length_drop, decide_eq_true_eq]
      split <;> omega

theorem Literal.standsFor_ofFloat? {x : Float} {literal : Literal}
    (written : Literal.ofFloat? x = some literal) : literal.StandsFor x := by
  unfold Literal.ofFloat? at written
  split at written
  · cases written
  · cases written
  · rename_i negative mantissa exponent parts
    cases written
    constructor
    · rw [negative_ofScaled]
      exact ⟨mantissa, exponent, parts⟩
    · rw [parts, exact_ofScaled]
      exact roundsTo_shortestSize .even (Binary.inFormat_of_ofFloat parts) negative

end RhythmBot.Json
